import CrossRef.Proofs.Compile.Postcondition
import CrossRef.Proofs.Signature.Refinement

/-! Compiling loses nothing. Whatever the pass comes to is a refinement of what it was given. -/

namespace CrossRef

open PassM

namespace Pass

theorem resolve_refines (fuel : Nat) (e : Env) (kind : PathKind) (path : Path) :
    (resolve fuel e kind path).Yields path.Refines := by
  cases hpath : path.isResolved with
  | true =>
    cases path with
    | resolved p => exact ensures_pure (.inl rfl)
    | _ => cases hpath
  | false =>
    rw [resolve_unresolved fuel e kind hpath]
    refine (yields_true _).bind fun outcome _ => ?_
    cases outcome with
    | ok p => exact ensures_pure (.inr ⟨hpath, rfl⟩)
    | error error => exact ensures_pure (.inl rfl)

theorem resolveOrReport_refines (fuel : Nat) (e : Env) (kind : PathKind) (construct : Construct)
    (parent : Identifier) (path : Path) :
    (resolveOrReport fuel e kind construct parent path).Yields path.Refines := by
  cases hpath : path.isResolved with
  | true =>
    cases path with
    | resolved p => exact ensures_pure (.inl rfl)
    | _ => cases hpath
  | false =>
    rw [resolveOrReport_unresolved fuel e kind construct parent hpath]
    refine (yields_true _).bind fun outcome _ => ?_
    cases outcome with
    | ok p => exact ensures_pure (.inr ⟨hpath, rfl⟩)
    | error error => exact (yields_true _).bind fun _ _ => ensures_pure (.inl rfl)

end Pass

theorem Fragment.refines_found {fuel : Nat} {e : Env} {ns : Namespace} {f : Fragment}
    {loads after : Loads} {found : ResolvedFragment}
    (h : Lookup.fragment fuel e ns f loads = (.ok found, after)) : f.Refines (.resolved found) := by
  cases f with
  | resolved resolved =>
    cases h
    exact .inl rfl
  | root => exact .inr ⟨rfl, rfl⟩
  | dot parent name => exact .inr ⟨rfl, rfl⟩

theorem Pass.fragment_refines (fuel : Nat) (e : Env) (ns : Namespace) (f : Fragment) :
    (attempt? (Lookup.fragment fuel e ns f)).Yields fun found =>
      ∀ resolved, found = some resolved → f.Refines (.resolved resolved) := by
  intro loads _ found reports after hrun
  refine ⟨trivial, ?_⟩
  rintro resolved rfl
  rw [attempt?, run_attempt_bind] at hrun
  rcases hlookup : Lookup.fragment fuel e ns f loads with ⟨(error | _) | found, last⟩ <;>
    rw [hlookup] at hrun
  · cases herror : error.fetch? <;> simp only [herror] at hrun <;> cases hrun
  · cases hrun
  · cases hrun
    exact Fragment.refines_found hlookup

theorem Pass.packageFragment_refines (fuel : Nat) (e : Env) (parent : Identifier)
    (root : Option Signature) (f : Fragment) :
    (packageFragment fuel e parent root f).Yields f.Refines := by
  cases root with
  | none => exact ensures_pure (.inl rfl)
  | some sig =>
    refine (fragment_refines fuel _ .type f).bind fun found hfound => ?_
    cases found with
    | some resolved => exact ensures_pure (hfound resolved rfl)
    | none => exact (yields_true _).bind fun _ _ => ensures_pure (.inl rfl)

theorem Pass.constraintFragment_refines (p : Pass) (e : Env) (root : Option Signature)
    (c : Constraint) : (p.constraintFragment e root c).Yields c.fragment.Refines := by
  cases root with
  | none => exact ensures_pure (.inl rfl)
  | some sig =>
    refine (fragment_refines p.fuel _ c.space c.fragment).bind fun found hfound => ?_
    cases found with
    | some resolved => exact ensures_pure (hfound resolved rfl)
    | none => exact ensures_pure (.inl rfl)

section Declarations

variable (fuel : Nat) (e : Env)

mutual

theorem TypeExpr.compile_refines (parent : Identifier) :
    ∀ t : TypeExpr, (t.compile fuel e parent).Yields t.Refines
  | .var name => by
    rw [TypeExpr.compile]
    exact ensures_pure (.var name)
  | .any => by
    rw [TypeExpr.compile]
    exact ensures_pure .any
  | .arrow label arg ret => by
    rw [TypeExpr.compile]
    refine (arg.compile_refines parent).bind fun _ harg => ?_
    exact (ret.compile_refines parent).bind fun _ hret => ensures_pure (.arrow label harg hret)
  | .tuple ts => by
    rw [TypeExpr.compile]
    exact (compileTypes_refines parent ts).bind fun _ hts => ensures_pure (.tuple hts)
  | .constr path args => by
    rw [TypeExpr.compile]
    refine (Pass.resolve_refines fuel e .type path).bind fun _ hpath => ?_
    exact (compileTypes_refines parent args).bind fun _ hargs => ensures_pure (.constr hpath hargs)
  | .variant kind es => by
    rw [TypeExpr.compile]
    exact (compileElements_refines parent es).bind fun _ hes => ensures_pure (.variant kind hes)
  | .object fs isOpen => by
    rw [TypeExpr.compile]
    exact (compileFields_refines parent fs).bind fun _ hfs => ensures_pure (.object isOpen hfs)
  | .classRef path args => by
    rw [TypeExpr.compile]
    refine (Pass.resolve_refines fuel e .classType path).bind fun _ hpath => ?_
    exact (compileTypes_refines parent args).bind fun _ hargs =>
      ensures_pure (.classRef hpath hargs)
  | .poly vars body => by
    rw [TypeExpr.compile]
    exact (body.compile_refines parent).bind fun _ hbody => ensures_pure (.poly vars hbody)
  | .package path cs => by
    rw [TypeExpr.compile]
    refine (Pass.resolve_refines fuel e .moduleType path).bind fun path hpath => ?_
    refine (yields_true _).bind fun root _ => ?_
    exact (compilePackage_refines parent root cs).bind fun _ hcs =>
      ensures_pure (.package hpath hcs)

theorem compileTypes_refines (parent : Identifier) :
    ∀ ts : List TypeExpr,
      (compileTypes fuel e parent ts).Yields (List.Forall₂ TypeExpr.Refines ts)
  | [] => ensures_pure .nil
  | t :: ts => by
    rw [compileTypes]
    refine (t.compile_refines parent).bind fun _ ht => ?_
    exact (compileTypes_refines parent ts).bind fun _ hts => ensures_pure (.cons ht hts)

theorem compileElements_refines (parent : Identifier) :
    ∀ es : List VariantElement,
      (compileElements fuel e parent es).Yields (List.Forall₂ VariantElement.Refines es)
  | [] => ensures_pure .nil
  | .type t :: es => by
    rw [compileElements]
    refine (t.compile_refines parent).bind fun _ ht => ?_
    exact (compileElements_refines parent es).bind fun _ hes => ensures_pure (.cons (.type ht) hes)
  | .constructor name constant args :: es => by
    rw [compileElements]
    refine (compileTypes_refines parent args).bind fun _ hargs => ?_
    exact (compileElements_refines parent es).bind fun _ hes =>
      ensures_pure (.cons (.constructor name constant hargs) hes)

theorem compileFields_refines (parent : Identifier) :
    ∀ fs : List ObjectField,
      (compileFields fuel e parent fs).Yields (List.Forall₂ ObjectField.Refines fs)
  | [] => ensures_pure .nil
  | .method name t :: fs => by
    rw [compileFields]
    refine (t.compile_refines parent).bind fun _ ht => ?_
    exact (compileFields_refines parent fs).bind fun _ hfs =>
      ensures_pure (.cons (.method name ht) hfs)
  | .inherit t :: fs => by
    rw [compileFields]
    refine (t.compile_refines parent).bind fun _ ht => ?_
    exact (compileFields_refines parent fs).bind fun _ hfs => ensures_pure (.cons (.inherit ht) hfs)

theorem compilePackage_refines (parent : Identifier) (root : Option Signature) :
    ∀ cs : List PackageConstraint,
      (compilePackage fuel e parent root cs).Yields (List.Forall₂ PackageConstraint.Refines cs)
  | [] => ensures_pure .nil
  | ⟨f, t⟩ :: cs => by
    rw [compilePackage]
    refine (Pass.packageFragment_refines fuel e parent root f).bind fun _ hf => ?_
    refine (t.compile_refines parent).bind fun _ ht => ?_
    exact (compilePackage_refines parent root cs).bind fun _ hcs =>
      ensures_pure (.cons (.mk hf ht) hcs)

end

theorem compileOptionalType_refines (parent : Identifier) (t : Option TypeExpr) :
    (compileOptionalType fuel e parent t).Yields (Option.Rel TypeExpr.Refines t) := by
  cases t with
  | none => exact ensures_pure .none
  | some t => exact (t.compile_refines fuel e parent).bind fun _ ht => ensures_pure (.some ht)

theorem compileTypePairs_refines (parent : Identifier) (pairs : List (TypeExpr × TypeExpr)) :
    (compileTypePairs fuel e parent pairs).Yields
      (List.Forall₂ (fun c c' => c.1.Refines c'.1 ∧ c.2.Refines c'.2) pairs) := by
  induction pairs with
  | nil => exact ensures_pure .nil
  | cons pair pairs ih =>
    obtain ⟨l, t⟩ := pair
    refine (l.compile_refines fuel e parent).bind fun _ hl => ?_
    refine (t.compile_refines fuel e parent).bind fun _ ht => ?_
    exact ih.bind fun _ hpairs => ensures_pure (.cons ⟨hl, ht⟩ hpairs)

theorem TypeEquation.compile_refines (parent : Identifier) (eq : TypeEquation) :
    (eq.compile fuel e parent).Yields eq.Refines := by
  refine (compileOptionalType_refines fuel e parent eq.manifest).bind fun _ hmanifest => ?_
  refine (compileTypePairs_refines fuel e parent eq.constraints).bind fun _ hconstraints => ?_
  exact ensures_pure ⟨rfl, rfl, hmanifest, hconstraints⟩

theorem compileRecord_refines (parent : Identifier) (fs : List Field) :
    (compileRecord fuel e parent fs).Yields (List.Forall₂ Field.Refines fs) := by
  induction fs with
  | nil => exact ensures_pure .nil
  | cons f fs ih =>
    refine (f.type.compile_refines fuel e parent).bind fun _ htype => ?_
    exact ih.bind fun _ hfs => ensures_pure (.cons ⟨rfl, rfl, rfl, htype⟩ hfs)

theorem ConstructorArgs.compile_refines (parent : Identifier) (args : ConstructorArgs) :
    (args.compile fuel e parent).Yields args.Refines := by
  cases args with
  | tuple ts =>
    exact (compileTypes_refines fuel e parent ts).bind fun _ hts => ensures_pure (.tuple hts)
  | record fs =>
    exact (compileRecord_refines fuel e parent fs).bind fun _ hfs => ensures_pure (.record hfs)

theorem Constructor.compile_refines (parent : Identifier) (c : Constructor) :
    (c.compile fuel e parent).Yields c.Refines := by
  refine (c.args.compile_refines fuel e parent).bind fun _ hargs => ?_
  refine (compileOptionalType_refines fuel e parent c.res).bind fun _ hres => ?_
  exact ensures_pure ⟨rfl, rfl, hargs, hres⟩

theorem compileConstructors_refines (parent : Identifier) (cs : List Constructor) :
    (compileConstructors fuel e parent cs).Yields (List.Forall₂ Constructor.Refines cs) := by
  induction cs with
  | nil => exact ensures_pure .nil
  | cons c cs ih =>
    refine (c.compile_refines fuel e parent).bind fun _ hc => ?_
    exact ih.bind fun _ hcs => ensures_pure (.cons hc hcs)

theorem TypeRepr.compile_refines (parent : Identifier) (repr : TypeRepr) :
    (repr.compile fuel e parent).Yields repr.Refines := by
  cases repr with
  | variant cs =>
    exact (compileConstructors_refines fuel e parent cs).bind fun _ hcs =>
      ensures_pure (.variant hcs)
  | record fs =>
    exact (compileRecord_refines fuel e parent fs).bind fun _ hfs => ensures_pure (.record hfs)
  | extensible => exact ensures_pure .extensible

theorem TypeDecl.compile_refines (t : TypeDecl) : (t.compile fuel e).Yields t.Refines := by
  obtain ⟨id, doc, equation, representation⟩ := t
  refine (equation.compile_refines fuel e id).bind fun _ hequation => ?_
  cases representation with
  | none => exact ensures_pure ⟨rfl, rfl, hequation, .none⟩
  | some repr =>
    refine (repr.compile_refines fuel e id).bind fun _ hrepr => ?_
    exact ensures_pure ⟨rfl, rfl, hequation, .some hrepr⟩

theorem Value.compile_refines (v : Value) : (v.compile fuel e).Yields v.Refines :=
  (v.type.compile_refines fuel e v.id).bind fun _ htype => ensures_pure ⟨rfl, rfl, htype⟩

theorem External.compile_refines (x : External) : (x.compile fuel e).Yields x.Refines :=
  (x.type.compile_refines fuel e x.id).bind fun _ htype => ensures_pure ⟨rfl, rfl, htype, rfl⟩

theorem compileExtended_refines (cs : List Constructor) :
    (compileExtended fuel e cs).Yields (List.Forall₂ Constructor.Refines cs) := by
  induction cs with
  | nil => exact ensures_pure .nil
  | cons c cs ih =>
    refine (c.compile_refines fuel e c.id).bind fun _ hc => ?_
    exact ih.bind fun _ hcs => ensures_pure (.cons hc hcs)

theorem Extension.compile_refines (x : Extension) : (x.compile fuel e).Yields x.Refines := by
  refine (Pass.resolve_refines fuel e .type x.typePath).bind fun _ hpath => ?_
  refine (compileExtended_refines fuel e x.constructors).bind fun _ hcs => ?_
  exact ensures_pure ⟨hpath, rfl, rfl, rfl, hcs⟩

mutual

theorem ClassTypeExpr.compile_refines (id : Identifier) :
    ∀ expr : ClassTypeExpr, (expr.compile fuel e id).Yields expr.Refines
  | .constr path args => by
    rw [ClassTypeExpr.compile]
    have resolved := Pass.resolveOrReport_refines fuel e .classType .classDecl id path
    refine resolved.bind fun _ hpath => ?_
    exact (compileTypes_refines fuel e id args).bind fun _ hargs =>
      ensures_pure (.constr hpath hargs)
  | .signature sig => by
    rw [ClassTypeExpr.compile]
    exact (sig.compile_refines id).bind fun _ hsig => ensures_pure (.signature hsig)

theorem ClassSignature.compile_refines (id : Identifier) :
    ∀ sig : ClassSignature, (sig.compile fuel e id).Yields sig.Refines
  | ⟨self, items⟩ => by
    rw [ClassSignature.compile]
    refine (compileOptionalType_refines fuel e id self).bind fun _ hself => ?_
    exact (compileClassItems_refines id items).bind fun _ hitems => ensures_pure (.mk hself hitems)

theorem compileClassItems_refines (id : Identifier) :
    ∀ items : List ClassItem,
      (compileClassItems fuel e id items).Yields (List.Forall₂ ClassItem.Refines items)
  | [] => by
    rw [compileClassItems]
    exact ensures_pure .nil
  | item :: items => by
    rw [compileClassItems]
    refine (item.compile_refines id).bind fun _ hitem => ?_
    exact (compileClassItems_refines id items).bind fun _ hitems =>
      ensures_pure (.cons hitem hitems)

theorem ClassItem.compile_refines (id : Identifier) :
    ∀ item : ClassItem, (item.compile fuel e id).Yields item.Refines
  | .method m => by
    rw [ClassItem.compile]
    exact (m.type.compile_refines fuel e id).bind fun _ htype =>
      ensures_pure (.method ⟨rfl, rfl, rfl, rfl, htype⟩)
  | .instanceVariable v => by
    rw [ClassItem.compile]
    exact (v.type.compile_refines fuel e id).bind fun _ htype =>
      ensures_pure (.instanceVariable ⟨rfl, rfl, rfl, rfl, htype⟩)
  | .constraint lhs rhs => by
    rw [ClassItem.compile]
    refine (lhs.compile_refines fuel e id).bind fun _ hlhs => ?_
    exact (rhs.compile_refines fuel e id).bind fun _ hrhs => ensures_pure (.constraint hlhs hrhs)
  | .inherit expr => by
    rw [ClassItem.compile]
    exact (expr.compile_refines id).bind fun _ hexpr => ensures_pure (.inherit hexpr)
  | .comment text => by
    rw [ClassItem.compile]
    exact ensures_pure (.comment text)

end

theorem ClassDecl.compile_refines (id : Identifier) (decl : ClassDecl) :
    (decl.compile fuel e id).Yields decl.Refines := by
  induction decl with
  | classType expr =>
    exact (expr.compile_refines fuel e id).bind fun _ hexpr => ensures_pure (.classType hexpr)
  | arrow label arg body ih =>
    refine (arg.compile_refines fuel e id).bind fun _ harg => ?_
    exact ih.bind fun _ hbody => ensures_pure (.arrow label harg hbody)

theorem Class.compile_refines (c : Class) : (c.compile fuel e).Yields c.Refines := by
  refine (c.decl.compile_refines fuel e c.id).bind fun _ hdecl => ?_
  exact (yields_true _).bind fun _ _ => ensures_pure ⟨rfl, rfl, rfl, rfl, hdecl⟩

theorem ClassType.compile_refines (c : ClassType) : (c.compile fuel e).Yields c.Refines := by
  refine (c.expr.compile_refines fuel e c.id).bind fun _ hexpr => ?_
  exact (yields_true _).bind fun _ _ => ensures_pure ⟨rfl, rfl, rfl, rfl, hexpr⟩

end Declarations

theorem TypeOfOrigin.withPath_refines (origin : TypeOfOrigin) {path : Path}
    (h : origin.path.Refines path) : origin.Refines (origin.withPath path) := by
  cases origin with
  | moduleType p => exact .moduleType h
  | structInclude p => exact .structInclude h

theorem Signature.unresolvedCount_marked (sig : Signature) :
    ({ sig with compiled := true } : Signature).unresolvedCount = sig.unresolvedCount := by
  cases sig
  rfl

section Signatures

variable (p : Pass)

theorem SignatureExpr.pass_hasLiteralRoot (e : Env) (id : Identifier) (expr : SignatureExpr) :
    (expr.pass p e id).Yields fun out => out.hasLiteralRoot = expr.hasLiteralRoot := by
  cases expr with
  | path _ =>
    rw [SignatureExpr.pass]
    exact (yields_true _).bind fun _ _ => ensures_pure rfl
  | signature sig =>
    rw [SignatureExpr.pass]
    exact (yields_true _).bind fun _ _ => ensures_pure rfl
  | constrained cs base =>
    rw [SignatureExpr.pass]
    refine (base.pass_hasLiteralRoot e id).bind fun _ hbase => ?_
    exact (yields_true _).bind fun _ _ => (yields_true _).bind fun _ _ => ensures_pure hbase
  | typeOf origin =>
    rw [SignatureExpr.pass]
    exact (yields_true _).bind fun _ _ => ensures_pure rfl

theorem Pass.strengthening_refines (e : Env) (path : Option Path) :
    (p.strengthening e path).Yields (Option.Rel Path.Refines path) := by
  cases path with
  | none => exact ensures_pure .none
  | some path => exact (resolve_refines p.fuel e .module path).map fun _ hpath => .some hpath

variable {p}

theorem Pass.expandInclude_content (hsplice : p.SplicesCompiled)
    (e : Env) (written : String) (i : Include) :
    (p.expandInclude e written i).Yields fun out => ∃ content, out.1 = { i with content } ∧
      (content = i.content ∨ i.content.compiled = false ∧ content.compiled = true) := by
  have unchanged : ∃ content, i = { i with content } ∧
      (content = i.content ∨ i.content.compiled = false ∧ content.compiled = true) :=
    ⟨i.content, by cases i; rfl, .inl rfl⟩
  rw [expandInclude]
  split
  case isTrue => exact ensures_pure unchanged
  case isFalse hcompiled =>
    refine (yields_true _).bind fun outcome _ => ?_
    cases outcome with
    | error error => exact (yields_true _).bind fun _ _ => ensures_pure unchanged
    | ok sig =>
      refine (hsplice e _).bind fun content hcontent => ensures_pure ⟨content, rfl, .inr ?_⟩
      exact ⟨Bool.eq_false_iff.mpr hcompiled, hcontent⟩

mutual

theorem Signature.pass_refines (hsplice : p.SplicesCompiled) :
    ∀ (sig : Signature) (e : Env), (sig.pass p e).Yields sig.Refines
  | ⟨items, true, doc⟩, e => by
    rw [Signature.pass]
    exact ensures_pure (.marked items doc)
  | ⟨items, false, doc⟩, e => by
    rw [Signature.pass]
    exact (passItems_refines hsplice items _).bind fun _ hitems => ensures_pure (.items doc hitems)

theorem passItems_refines (hsplice : p.SplicesCompiled) : ∀ (items : List Item) (e : Env),
    (passItems p e items).Yields fun out => List.Forall₂ Item.Refines items out.1
  | [], e => by
    rw [passItems]
    exact ensures_pure .nil
  | item :: items, e => by
    rw [passItems]
    refine (item.pass_refines hsplice e).bind fun ⟨_, next⟩ hitem => ?_
    exact (passItems_refines hsplice items next).bind fun _ hitems =>
      ensures_pure (.cons hitem hitems)

theorem Item.pass_refines (hsplice : p.SplicesCompiled) : ∀ (item : Item) (e : Env),
    (item.pass p e).Yields fun out => item.Refines out.1
  | .module m, e => by
    rw [Item.pass]
    exact (m.pass_refines hsplice e).bind fun _ hm => ensures_pure (.module hm)
  | .moduleSubstitution m, e => by
    rw [Item.pass]
    have resolved := Pass.resolve_refines p.fuel e .module m.manifest
    exact resolved.bind fun _ hmanifest => ensures_pure (.moduleSubstitution ⟨rfl, rfl, hmanifest⟩)
  | .moduleType m, e => by
    rw [Item.pass]
    exact (m.pass_refines hsplice e).bind fun _ hm => ensures_pure (.moduleType hm)
  | .type t, e => by
    rw [Item.pass]
    exact (t.compile_refines p.fuel _).bind fun _ ht => ensures_pure (.type ht)
  | .typeSubstitution t, e => by
    rw [Item.pass]
    exact (t.compile_refines p.fuel e).bind fun _ ht => ensures_pure (.typeSubstitution ht)
  | .value v, e => by
    rw [Item.pass]
    exact (v.compile_refines p.fuel e).bind fun _ hv => ensures_pure (.value hv)
  | .external x, e => by
    rw [Item.pass]
    exact (x.compile_refines p.fuel e).bind fun _ hx => ensures_pure (.external hx)
  | .classDecl c, e => by
    rw [Item.pass]
    exact (c.compile_refines p.fuel e).bind fun _ hc => ensures_pure (.classDecl hc)
  | .classType c, e => by
    rw [Item.pass]
    exact (c.compile_refines p.fuel e).bind fun _ hc => ensures_pure (.classType hc)
  | .extension x, e => by
    rw [Item.pass]
    exact (x.compile_refines p.fuel e).bind fun _ hx => ensures_pure (.extension hx)
  | .exception c, e => by
    rw [Item.pass]
    exact (c.compile_refines p.fuel e c.id).bind fun _ hc => ensures_pure (.exception hc)
  | .included i, e => by
    rw [Item.pass]
    exact (i.pass_refines hsplice e).bind fun _ hi => ensures_pure (.included hi)
  | .opened doc sig, e => by
    rw [Item.pass]
    exact (sig.pass_refines hsplice e).bind fun _ hsig => ensures_pure (.opened doc hsig)
  | .comment text, e => by
    rw [Item.pass]
    exact ensures_pure (.comment text)

theorem Module.pass_refines (hsplice : p.SplicesCompiled) :
    ∀ (m : Module) (e : Env), (m.pass p e).Yields m.Refines
  | ⟨id, doc, decl, true⟩, e => by
    rw [Module.pass]
    exact ensures_pure (.hidden id doc decl)
  | ⟨id, doc, decl, false⟩, e => by
    rw [Module.pass]
    exact (decl.pass_refines hsplice id _).bind fun _ hdecl => ensures_pure (.visible id doc hdecl)

theorem ModuleDecl.pass_refines (hsplice : p.SplicesCompiled) :
    ∀ (decl : ModuleDecl) (id : Identifier) (e : Env),
    (decl.pass p e id).Yields decl.Refines
  | .aliasOf path stored, id, e => by
    rw [ModuleDecl.pass]
    have resolved := Pass.resolveOrReport_refines p.fuel e .module .modulePath id path
    refine resolved.bind fun _ hpath => ?_
    exact (passExpansion_refines hsplice stored e).bind fun _ hstored =>
      ensures_pure (.aliasOf hpath hstored)
  | .typed expr, id, e => by
    rw [ModuleDecl.pass]
    exact (expr.pass_refines hsplice id e).bind fun _ hexpr => ensures_pure (.typed hexpr)

theorem ModuleType.pass_refines (hsplice : p.SplicesCompiled) :
    ∀ (m : ModuleType) (e : Env), (m.pass p e).Yields m.Refines
  | ⟨id, doc, none⟩, e => by
    rw [ModuleType.pass]
    exact ensures_pure (.mk id doc .none)
  | ⟨id, doc, some expr⟩, e => by
    rw [ModuleType.pass]
    exact (expr.pass_refines hsplice id e).bind fun _ hexpr =>
      ensures_pure (.mk id doc (.some hexpr))

theorem passExpansion_refines (hsplice : p.SplicesCompiled) :
    ∀ (stored : Option StoredExpansion) (e : Env),
    (passExpansion p e stored).Yields (Option.Rel StoredExpansion.Refines stored)
  | none, e => by
    rw [passExpansion]
    exact ensures_pure .none
  | some stored, e => by
    rw [passExpansion]
    exact (stored.pass_refines hsplice e).bind fun _ hstored => ensures_pure (.some hstored)

theorem StoredExpansion.pass_refines (hsplice : p.SplicesCompiled) :
    ∀ (stored : StoredExpansion) (e : Env),
    (stored.pass p e).Yields stored.Refines
  | .signature sig, e => by
    rw [StoredExpansion.pass]
    exact (sig.pass_refines hsplice e).bind fun _ hsig => ensures_pure (.signature hsig)
  | .functor param body, e => by
    rw [StoredExpansion.pass]
    refine (param.pass_refines hsplice e).bind fun _ hparam => ?_
    exact (body.pass_refines hsplice _).bind fun _ hbody => ensures_pure (.functor hparam hbody)

theorem FunctorParameter.pass_refines (hsplice : p.SplicesCompiled) :
    ∀ (param : FunctorParameter) (e : Env),
    (param.pass p e).Yields param.Refines
  | .unit, e => by
    rw [FunctorParameter.pass]
    exact ensures_pure .unit
  | .named id expr, e => by
    rw [FunctorParameter.pass]
    exact (expr.pass_refines hsplice id e).bind fun _ hexpr => ensures_pure (.named id hexpr)

theorem ModuleTypeExpr.pass_refines (hsplice : p.SplicesCompiled) :
    ∀ (expr : ModuleTypeExpr) (id : Identifier) (e : Env),
    (expr.pass p e id).Yields expr.Refines
  | .path q stored, id, e => by
    rw [ModuleTypeExpr.pass]
    have resolved := Pass.resolveOrReport_refines p.fuel e .moduleType .moduleTypePath id q
    refine resolved.bind fun _ hpath => ?_
    exact (passExpansion_refines hsplice stored e).bind fun _ hstored =>
      ensures_pure (.path hpath hstored)
  | .signature sig, id, e => by
    rw [ModuleTypeExpr.pass]
    exact (sig.pass_refines hsplice e).bind fun _ hsig => ensures_pure (.signature hsig)
  | .functor param body, id, e => by
    rw [ModuleTypeExpr.pass]
    refine (param.pass_refines hsplice e).bind fun _ hparam => ?_
    exact (body.pass_refines hsplice id.result _).bind fun _ hbody =>
      ensures_pure (.functor hparam hbody)
  | .constrained cs base stored, id, e => by
    rw [ModuleTypeExpr.pass]
    have base' := (base.pass_refines hsplice id e).and (base.pass_hasLiteralRoot p e id)
    refine base'.bind fun compiled ⟨hbase, hroot⟩ => ?_
    refine (yields_true _).bind fun outcome _ => ?_
    cases outcome with
    | error error => exact (yields_true _).bind fun _ _ => ensures_pure (.kept cs base stored)
    | ok sig =>
      refine (passConstraints_refines hsplice cs id sig e).bind fun ⟨_, changed, applied⟩ hcs => ?_
      dsimp only
      split
      case isTrue hdone =>
        -- The signature is written out, and the guard says that nothing in it is left to resolve.
        simp only [Bool.and_eq_true, beq_iff_eq] at hdone
        obtain ⟨⟨-, hliteral⟩, hcount⟩ := hdone
        refine ensures_pure (.replaced cs stored (hroot.symm.trans hliteral) rfl ?_)
        rw [Signature.unresolvedCount_marked, hcount]
      case isFalse =>
        exact (passExpansion_refines hsplice stored e).bind fun _ hstored =>
          ensures_pure (.constrained hcs hbase hstored)
  | .typeOf origin stored, id, e => by
    rw [ModuleTypeExpr.pass]
    have resolved := Pass.resolveOrReport_refines p.fuel e .module .modulePath id origin.path
    refine resolved.bind fun _ hpath => ?_
    exact (passExpansion_refines hsplice stored e).bind fun _ hstored =>
      ensures_pure (.typeOf (origin.withPath_refines hpath) hstored)

theorem passConstraints_refines (hsplice : p.SplicesCompiled) :
    ∀ (cs : List Constraint) (id : Identifier) (sig : Signature)
    (e : Env),
    (passConstraints p e id sig cs).Yields fun out => List.Forall₂ Constraint.Refines cs out.1
  | [], id, sig, e => by
    rw [passConstraints]
    exact ensures_pure .nil
  | c :: cs, id, sig, e => by
    rw [passConstraints]
    refine (c.pass_refines hsplice id (some sig) e).bind fun _ hc => ?_
    refine (yields_true _).bind fun ⟨next, _⟩ _ => ?_
    exact (passConstraints_refines hsplice cs id next e).bind fun _ hcs =>
      ensures_pure (.cons hc hcs)

theorem SignatureExpr.pass_refines (hsplice : p.SplicesCompiled) :
    ∀ (expr : SignatureExpr) (id : Identifier) (e : Env),
    (expr.pass p e id).Yields expr.Refines
  | .path q, id, e => by
    rw [SignatureExpr.pass]
    have resolved := Pass.resolve_refines p.fuel e .moduleType q
    exact resolved.bind fun _ hpath => ensures_pure (.path hpath)
  | .signature sig, id, e => by
    rw [SignatureExpr.pass]
    exact (sig.pass_refines hsplice e).bind fun _ hsig => ensures_pure (.signature hsig)
  | .constrained cs base, id, e => by
    rw [SignatureExpr.pass]
    refine (base.pass_refines hsplice id e).bind fun _ hbase => ?_
    refine (yields_true _).bind fun root _ => ?_
    exact (passBaseConstraints_refines hsplice cs id root e).bind fun _ hcs =>
      ensures_pure (.constrained hcs hbase)
  | .typeOf origin, id, e => by
    rw [SignatureExpr.pass]
    have resolved := Pass.resolve_refines p.fuel e .module origin.path
    exact resolved.bind fun _ hpath => ensures_pure (.typeOf (origin.withPath_refines hpath))

theorem passBaseConstraints_refines (hsplice : p.SplicesCompiled) :
    ∀ (cs : List Constraint) (id : Identifier)
    (root : Option Signature) (e : Env),
    (passBaseConstraints p e id root cs).Yields (List.Forall₂ Constraint.Refines cs)
  | [], id, root, e => by
    rw [passBaseConstraints]
    exact ensures_pure .nil
  | c :: cs, id, root, e => by
    rw [passBaseConstraints]
    refine (c.pass_refines hsplice id root e).bind fun _ hc => ?_
    refine (yields_true _).bind fun next _ => ?_
    exact (passBaseConstraints_refines hsplice cs id next e).bind fun _ hcs =>
      ensures_pure (.cons hc hcs)

theorem Constraint.pass_refines (hsplice : p.SplicesCompiled) :
    ∀ (c : Constraint) (id : Identifier) (root : Option Signature)
    (e : Env), (c.pass p e id root).Yields c.Refines
  | .moduleEq f decl, id, root, e => by
    rw [Constraint.pass]
    refine (p.constraintFragment_refines e root _).bind fun _ hf => ?_
    exact (decl.pass_refines hsplice id e).bind fun _ hdecl => ensures_pure (.moduleEq hf hdecl)
  | .moduleSubst f path, id, root, e => by
    rw [Constraint.pass]
    refine (p.constraintFragment_refines e root _).bind fun _ hf => ?_
    have resolved := Pass.resolve_refines p.fuel e .module path
    exact resolved.bind fun _ hpath => ensures_pure (.moduleSubst hf hpath)
  | .typeEq f eq, id, root, e => by
    rw [Constraint.pass]
    refine (p.constraintFragment_refines e root _).bind fun _ hf => ?_
    exact (eq.compile_refines p.fuel e id).bind fun _ heq => ensures_pure (.typeEq hf heq)
  | .typeSubst f eq, id, root, e => by
    rw [Constraint.pass]
    refine (p.constraintFragment_refines e root _).bind fun _ hf => ?_
    exact (eq.compile_refines p.fuel e id).bind fun _ heq => ensures_pure (.typeSubst hf heq)

theorem Include.pass_refines (hsplice : p.SplicesCompiled) : ∀ (i : Include) (e : Env),
    (i.pass p e).Yields fun out => i.Refines out.1
  | ⟨parent, doc, decl, strengthened, shadowed, content⟩, e => by
    rw [Include.pass]
    refine (decl.pass_refines hsplice parent e).bind fun _ hdecl => ?_
    refine (p.strengthening_refines e strengthened).bind fun _ hstrengthened => ?_
    refine (Pass.expandInclude_content hsplice e _ _).mono fun ⟨i, _⟩ ⟨content', hi, hcontent⟩ => ?_
    subst hi
    exact .mk parent doc shadowed hdecl hstrengthened hcontent

theorem IncludeDecl.pass_refines (hsplice : p.SplicesCompiled) :
    ∀ (decl : IncludeDecl) (parent : Identifier) (e : Env),
    (decl.pass p e parent).Yields decl.Refines
  | .aliasOf path, parent, e => by
    rw [IncludeDecl.pass]
    have resolved := Pass.resolve_refines p.fuel e .module path
    exact resolved.bind fun _ hpath => ensures_pure (.aliasOf hpath)
  | .typed expr, parent, e => by
    rw [IncludeDecl.pass]
    exact (expr.pass_refines hsplice parent e).bind fun _ hexpr => ensures_pure (.typed hexpr)

end

end Signatures

/-- The items that come out refine those that went in, one by one. -/
theorem compileItems_refines (fuel : Nat) (env : Env) (items : List Item) (loads : Loads)
    (out : List Item) (last : Env) (reports : List Report) (after : Loads)
    (h : (compileItems fuel env items).run loads = (.ok ((out, last), reports), after)) :
    List.Forall₂ Item.Refines items out := by
  have refines : (compileItems fuel env items).Yields fun out =>
      List.Forall₂ Item.Refines items out.1 :=
    passItems_refines (Pass.start_splicesCompiled fuel) items env
  exact (refines loads trivial (out, last) reports after h).2

def Item.constrainedAndIncluded : List Item :=
  let unit := Identifier.root "A"
  let interface := unit.child .moduleType "S"
  [.moduleType ⟨interface, [],
      some (.signature ⟨[.type ⟨interface.child .type "t", [], {}, none⟩], false, []⟩)⟩,
    .module ⟨unit.child .module "M", [],
      .typed (.constrained [.typeEq (.dot .root "t")
        { manifest := some (.constr (.root "int") []) }] (.path (.root "S")) none), false⟩,
    .included ⟨unit, [], .aliasOf (.root "M"), none, {}, ⟨[], false, []⟩⟩,
    .value ⟨unit.child .value "x", [], .constr (.root "gone") []⟩]

theorem compileItems_refines_constrained :
    ∃ out last, (compileItems 1 .empty Item.constrainedAndIncluded).run {} =
        (.ok ((out, last), []), {}) ∧
      List.Forall₂ Item.Refines Item.constrainedAndIncluded out ∧
      Signature.unresolvedCount ⟨Item.constrainedAndIncluded, false, []⟩ = 4 ∧
      Signature.unresolvedCount ⟨out, false, []⟩ = 1 ∧
      (Signature.find? ⟨out, false, []⟩ .type "t").isSome = true :=
  ⟨_, _, rfl, compileItems_refines 1 .empty _ {} _ _ _ _ rfl, rfl, rfl, rfl⟩

end CrossRef
