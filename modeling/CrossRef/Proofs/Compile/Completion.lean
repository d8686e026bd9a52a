import CrossRef.Compile
import CrossRef.Proofs.Compile.Postcondition
import CrossRef.Proofs.Lookup.Termination

/-! Compiling types comes to an end. A type is compiled by looking up the paths in it, and among
orderly declarations every lookup ends. One unit of fuel is needed, for the fragments of
packages. -/

namespace CrossRef

/-- With orderly units loaded, the computation ends with a result as `post` says and has loaded none
but orderly units, or it is stopped by a unit that cannot be had. It does not lack fuel. -/
def PassM.Completes {α : Type} (policy : Policy) (x : PassM α) (post : α → Prop) : Prop :=
  ∀ loads : Loads, loads.Orderly policy →
    match x.run loads with
    | (.ok (a, _), after) => after.Orderly policy ∧ post a
    | (.error (.fetch _), _) => True
    | (.error .outOfFuel, _) => False

open PassM

namespace PassM

variable {policy : Policy} {α β : Type}

theorem completes_pure {a : α} {post : α → Prop} (h : post a) :
    (pure a : PassM α).Completes policy post :=
  fun _ hloads => ⟨hloads, h⟩

theorem completes_file (report : Report) : (file report).Completes policy fun _ => True :=
  fun _ hloads => ⟨hloads, trivial⟩

theorem Completes.bind {x : PassM α} {f : α → PassM β} {middle : α → Prop} {post : β → Prop}
    (hx : x.Completes policy middle) (hf : ∀ a, middle a → (f a).Completes policy post) :
    (x >>= f).Completes policy post := by
  intro loads hloads
  have hx := hx loads hloads
  rcases hrun : x.run loads with ⟨(error | _) | ⟨a, filed⟩, after⟩ <;> rw [hrun] at hx
  · rw [run_bind_error hrun]
    exact trivial
  · exact hx.elim
  · have hf := hf a hx.2 after hx.1
    rw [run_bind_ok hrun]
    rcases hrun' : (f a).run after with ⟨(error | _) | ⟨b, more⟩, last⟩ <;> rw [hrun'] at hf <;>
      exact hf

theorem Completes.map {x : PassM α} {middle : α → Prop} {post : β → Prop} {f : α → β}
    (hx : x.Completes policy middle) (hf : ∀ a, middle a → post (f a)) :
    (f <$> x).Completes policy post := by
  rw [map_eq_pure_bind]
  exact hx.bind fun a ha => completes_pure (hf a ha)

theorem Completes.mono {x : PassM α} {post weaker : α → Prop} (hx : x.Completes policy post)
    (h : ∀ a, post a → weaker a) : x.Completes policy weaker := by
  rw [← bind_pure x]
  exact hx.bind fun a ha => completes_pure (h a ha)

theorem Completes.and {x : PassM α} {post extra : α → Prop} (hx : x.Completes policy post)
    (h : x.Yields extra) : x.Completes policy fun a => post a ∧ extra a := by
  intro loads hloads
  have hx := hx loads hloads
  rcases hrun : x.run loads with ⟨(error | _) | ⟨a, filed⟩, after⟩ <;> rw [hrun] at hx
  · exact trivial
  · exact hx
  · exact ⟨hx.1, hx.2, (h loads trivial a filed after hrun).2⟩

theorem Completes.quietly {x : PassM α} {post : α → Prop} (hx : x.Completes policy post) :
    x.quietly.Completes policy post := by
  intro loads hloads
  have hx := hx loads hloads
  rw [run] at hx ⊢
  rw [PassM.quietly]
  rcases hrun : x loads with ⟨(error | _) | ⟨a, filed⟩, after⟩ <;> rw [hrun] at hx <;> exact hx

theorem Completes.attempt {x : LookupM α} {middle : α → Prop} (hx : x.Completes policy middle)
    {f : Except ResolveError α → PassM β} {post : β → Prop}
    (hok : ∀ a, middle a → (f (.ok a)).Completes policy post)
    (herror : ∀ error, (f (.error error)).Completes policy post) :
    (attempt x >>= f).Completes policy post := by
  intro loads hloads
  obtain ⟨hafter, hx⟩ := hx loads hloads
  rw [run_attempt_bind]
  rcases hrun : x loads with ⟨(error | _) | a, after⟩ <;> rw [hrun] at hafter hx
  · cases hsoft : error.fetch? with
    | some e =>
      simp only [hsoft]
    | none =>
      simp only [hsoft]
      exact herror error after hafter
  · exact hx.elim
  · exact hok a hx after hafter

theorem Completes.attempt_pure {a : α} {f : Except ResolveError α → PassM β} {post : β → Prop}
    (h : (f (.ok a)).Completes policy post) :
    (PassM.attempt (pure a) >>= f).Completes policy post := by
  have hattempt : PassM.attempt (pure a) = pure (.ok a) := rfl
  rw [hattempt, pure_bind]
  exact h

theorem Completes.attempt? {x : LookupM α} {middle : α → Prop} (hx : x.Completes policy middle)
    {f : Option α → PassM β} {post : β → Prop}
    (hsome : ∀ a, middle a → (f (some a)).Completes policy post)
    (hnone : (f none).Completes policy post) :
    (attempt? x >>= f).Completes policy post := by
  rw [PassM.attempt?, bind_assoc]
  simp only [pure_bind]
  exact Completes.attempt hx hsome fun _ => hnone

end PassM

section Paths

variable {policy : Policy} {env : Env} (he : env.Orderly policy) (fuel : Nat)

include he

theorem Pass.resolve_completes (kind : PathKind) (path : Path) :
    (Pass.resolve fuel env kind path).Completes policy fun _ => True := by
  cases hpath : path.isResolved with
  | true =>
    cases path with
    | resolved p => exact completes_pure trivial
    | _ => cases hpath
  | false =>
    rw [Pass.resolve_unresolved fuel env kind hpath]
    exact .attempt (Lookup.path_completes fuel he kind path)
      (fun _ _ => completes_pure trivial) fun _ => completes_pure trivial

theorem Pass.resolveOrReport_completes (kind : PathKind) (construct : Construct)
    (parent : Identifier) (path : Path) :
    (Pass.resolveOrReport fuel env kind construct parent path).Completes policy
      fun _ => True := by
  cases hpath : path.isResolved with
  | true =>
    cases path with
    | resolved p => exact completes_pure trivial
    | _ => cases hpath
  | false =>
    rw [Pass.resolveOrReport_unresolved fuel env kind construct parent hpath]
    refine .attempt (Lookup.path_completes fuel he kind path)
      (fun _ _ => completes_pure trivial) fun error => ?_
    exact (completes_file _).bind fun _ _ => completes_pure trivial

theorem Pass.packageRoot_completes (parent : Identifier) (path : Path) :
    (Pass.packageRoot fuel env parent path).Completes policy fun root =>
      ∀ sig, root = some sig → sig.Orderly policy false := by
  have hsignature : (Pass.packageSignature fuel env path).Completes policy
      (·.Orderly policy false) := by
    cases path with
    | resolved target =>
      exact (Lookup.moduleTypeExpansion_completes fuel he target).bind fun _ =>
        LookupM.completes_asSignature
    | root name => exact LookupM.completes_fail _ _
    | dot parent name => exact LookupM.completes_fail _ _
    | apply f a => exact LookupM.completes_fail _ _
  refine .attempt hsignature (fun sig hsig => completes_pure ?_) fun error => ?_
  · rintro _ ⟨⟩
    exact hsig
  · refine (completes_file _).bind fun _ _ => completes_pure ?_
    rintro _ ⟨⟩

end Paths

section Types

variable {policy : Policy} {env : Env} {fuel : Nat}

section Fragments

variable (he : env.Orderly policy) (hfuel : fuel ≠ 0)

include he hfuel

theorem Pass.packageFragment_completes (parent : Identifier) {root : Option Signature}
    (hroot : ∀ sig, root = some sig → sig.Orderly policy false) (f : Fragment) :
    (Pass.packageFragment fuel env parent root f).Completes policy fun _ => True := by
  cases root with
  | none => exact completes_pure trivial
  | some sig =>
    have hscope := he.addFragmentRoot (hroot sig rfl)
    obtain ⟨rest, rfl⟩ := Nat.exists_eq_succ_of_ne_zero hfuel
    refine .attempt? (Lookup.fragment_completes rest hscope .type f)
      (fun _ _ => completes_pure trivial) ?_
    exact (completes_file _).bind fun _ _ => completes_pure trivial

end Fragments

mutual

theorem TypeExpr.compile_completes (he : env.Orderly policy) (hfuel : fuel ≠ 0)
    (parent : Identifier) :
    ∀ t : TypeExpr, (t.compile fuel env parent).Completes policy fun _ => True
  | .var name => completes_pure trivial
  | .any => completes_pure trivial
  | .arrow label arg ret => by
    rw [TypeExpr.compile]
    refine (arg.compile_completes he hfuel parent).bind fun _ _ => ?_
    exact (ret.compile_completes he hfuel parent).bind fun _ _ => completes_pure trivial
  | .tuple types => by
    rw [TypeExpr.compile]
    exact (compileTypes_completes he hfuel parent types).bind fun _ _ => completes_pure trivial
  | .constr path args => by
    rw [TypeExpr.compile]
    refine (Pass.resolve_completes he fuel .type path).bind fun _ _ => ?_
    exact (compileTypes_completes he hfuel parent args).bind fun _ _ => completes_pure trivial
  | .variant kind elements => by
    rw [TypeExpr.compile]
    exact (compileElements_completes he hfuel parent elements).bind fun _ _ =>
      completes_pure trivial
  | .object fields isOpen => by
    rw [TypeExpr.compile]
    exact (compileFields_completes he hfuel parent fields).bind fun _ _ => completes_pure trivial
  | .classRef path args => by
    rw [TypeExpr.compile]
    refine (Pass.resolve_completes he fuel .classType path).bind fun _ _ => ?_
    exact (compileTypes_completes he hfuel parent args).bind fun _ _ => completes_pure trivial
  | .poly vars body => by
    rw [TypeExpr.compile]
    exact (body.compile_completes he hfuel parent).bind fun _ _ => completes_pure trivial
  | .package path constraints => by
    rw [TypeExpr.compile]
    refine (Pass.resolve_completes he fuel .moduleType path).bind fun path _ => ?_
    refine (Pass.packageRoot_completes he fuel parent path).bind fun root hroot => ?_
    exact (compilePackage_completes he hfuel parent hroot constraints).bind fun _ _ =>
      completes_pure trivial

theorem compileTypes_completes (he : env.Orderly policy) (hfuel : fuel ≠ 0) (parent : Identifier) :
    ∀ ts, (compileTypes fuel env parent ts).Completes policy fun _ => True
  | [] => completes_pure trivial
  | t :: ts => by
    rw [compileTypes]
    refine (t.compile_completes he hfuel parent).bind fun _ _ => ?_
    exact (compileTypes_completes he hfuel parent ts).bind fun _ _ => completes_pure trivial

theorem compileElements_completes (he : env.Orderly policy) (hfuel : fuel ≠ 0)
    (parent : Identifier) :
    ∀ es, (compileElements fuel env parent es).Completes policy fun _ => True
  | [] => completes_pure trivial
  | .type t :: es => by
    rw [compileElements]
    refine (t.compile_completes he hfuel parent).bind fun _ _ => ?_
    exact (compileElements_completes he hfuel parent es).bind fun _ _ => completes_pure trivial
  | .constructor name constant args :: es => by
    rw [compileElements]
    refine (compileTypes_completes he hfuel parent args).bind fun _ _ => ?_
    exact (compileElements_completes he hfuel parent es).bind fun _ _ => completes_pure trivial

theorem compileFields_completes (he : env.Orderly policy) (hfuel : fuel ≠ 0)
    (parent : Identifier) :
    ∀ fs, (compileFields fuel env parent fs).Completes policy fun _ => True
  | [] => completes_pure trivial
  | .method name t :: fs => by
    rw [compileFields]
    refine (t.compile_completes he hfuel parent).bind fun _ _ => ?_
    exact (compileFields_completes he hfuel parent fs).bind fun _ _ => completes_pure trivial
  | .inherit t :: fs => by
    rw [compileFields]
    refine (t.compile_completes he hfuel parent).bind fun _ _ => ?_
    exact (compileFields_completes he hfuel parent fs).bind fun _ _ => completes_pure trivial

theorem compilePackage_completes (he : env.Orderly policy) (hfuel : fuel ≠ 0)
    (parent : Identifier) {root : Option Signature}
    (hroot : ∀ sig, root = some sig → sig.Orderly policy false) :
    ∀ cs, (compilePackage fuel env parent root cs).Completes policy fun _ => True
  | [] => completes_pure trivial
  | ⟨fragment, t⟩ :: cs => by
    rw [compilePackage]
    refine (Pass.packageFragment_completes he hfuel parent hroot fragment).bind fun _ _ => ?_
    refine (t.compile_completes he hfuel parent).bind fun _ _ => ?_
    exact (compilePackage_completes he hfuel parent hroot cs).bind fun _ _ => completes_pure trivial

end

section Declarations

variable (he : env.Orderly policy) (hfuel : fuel ≠ 0)

include he hfuel

theorem compileOptionalType_completes (parent : Identifier) (t : Option TypeExpr) :
    (compileOptionalType fuel env parent t).Completes policy fun _ => True := by
  cases t with
  | none => exact completes_pure trivial
  | some t => exact (t.compile_completes he hfuel parent).bind fun _ _ => completes_pure trivial

theorem compileTypePairs_completes (parent : Identifier) (pairs : List (TypeExpr × TypeExpr)) :
    (compileTypePairs fuel env parent pairs).Completes policy fun _ => True := by
  induction pairs with
  | nil => exact completes_pure trivial
  | cons pair pairs ih =>
    obtain ⟨l, t⟩ := pair
    refine (l.compile_completes he hfuel parent).bind fun _ _ => ?_
    refine (t.compile_completes he hfuel parent).bind fun _ _ => ?_
    exact ih.bind fun _ _ => completes_pure trivial

theorem TypeEquation.compile_completes (parent : Identifier) (eq : TypeEquation) :
    (eq.compile fuel env parent).Completes policy fun _ => True := by
  refine (compileOptionalType_completes he hfuel parent eq.manifest).bind fun _ _ => ?_
  refine (compileTypePairs_completes he hfuel parent eq.constraints).bind fun _ _ => ?_
  exact completes_pure trivial

theorem compileRecord_completes (parent : Identifier) (fields : List Field) :
    (compileRecord fuel env parent fields).Completes policy fun _ => True := by
  induction fields with
  | nil => exact completes_pure trivial
  | cons f fs ih =>
    refine (f.type.compile_completes he hfuel parent).bind fun _ _ => ?_
    exact ih.bind fun _ _ => completes_pure trivial

theorem Constructor.compile_completes (parent : Identifier) (c : Constructor) :
    (c.compile fuel env parent).Completes policy fun _ => True := by
  have hargs : (c.args.compile fuel env parent).Completes policy fun _ => True := by
    cases c.args with
    | tuple types =>
      exact (compileTypes_completes he hfuel parent types).bind fun _ _ => completes_pure trivial
    | record fields =>
      exact (compileRecord_completes he hfuel parent fields).bind fun _ _ => completes_pure trivial
  refine hargs.bind fun _ _ => ?_
  exact (compileOptionalType_completes he hfuel parent c.res).bind fun _ _ => completes_pure trivial

theorem compileConstructors_completes (parent : Identifier) (cs : List Constructor) :
    (compileConstructors fuel env parent cs).Completes policy fun _ => True := by
  induction cs with
  | nil => exact completes_pure trivial
  | cons c cs ih =>
    refine (c.compile_completes he hfuel parent).bind fun _ _ => ?_
    exact ih.bind fun _ _ => completes_pure trivial

theorem TypeRepr.compile_completes (parent : Identifier) (repr : TypeRepr) :
    (repr.compile fuel env parent).Completes policy fun _ => True := by
  cases repr with
  | variant cs =>
    exact (compileConstructors_completes he hfuel parent cs).bind fun _ _ => completes_pure trivial
  | record fields =>
    exact (compileRecord_completes he hfuel parent fields).bind fun _ _ => completes_pure trivial
  | extensible => exact completes_pure trivial

theorem TypeDecl.compile_completes (t : TypeDecl) :
    (t.compile fuel env).Completes policy fun _ => True := by
  refine (t.equation.compile_completes he hfuel t.id).bind fun equation _ => ?_
  cases t.representation with
  | none => exact completes_pure trivial
  | some repr =>
    exact (repr.compile_completes he hfuel t.id).bind fun _ _ => completes_pure trivial

theorem Value.compile_completes (v : Value) :
    (v.compile fuel env).Completes policy fun _ => True :=
  (v.type.compile_completes he hfuel v.id).bind fun _ _ => completes_pure trivial

theorem External.compile_completes (x : External) :
    (x.compile fuel env).Completes policy fun _ => True :=
  (x.type.compile_completes he hfuel x.id).bind fun _ _ => completes_pure trivial

theorem compileExtended_completes (cs : List Constructor) :
    (compileExtended fuel env cs).Completes policy fun _ => True := by
  induction cs with
  | nil => exact completes_pure trivial
  | cons c cs ih =>
    refine (c.compile_completes he hfuel c.id).bind fun _ _ => ?_
    exact ih.bind fun _ _ => completes_pure trivial

theorem Extension.compile_completes (x : Extension) :
    (x.compile fuel env).Completes policy fun _ => True := by
  refine (Pass.resolve_completes he fuel .type x.typePath).bind fun _ _ => ?_
  exact (compileExtended_completes he hfuel x.constructors).bind fun _ _ => completes_pure trivial

end Declarations

mutual

theorem ClassTypeExpr.compile_completes (he : env.Orderly policy) (hfuel : fuel ≠ 0)
    (id : Identifier) :
    ∀ expr : ClassTypeExpr, (expr.compile fuel env id).Completes policy fun _ => True
  | .constr path args => by
    rw [ClassTypeExpr.compile]
    refine (Pass.resolveOrReport_completes he fuel .classType .classDecl id path).bind
      fun _ _ => ?_
    exact (compileTypes_completes he hfuel id args).bind fun _ _ => completes_pure trivial
  | .signature sig => by
    rw [ClassTypeExpr.compile]
    exact (sig.compile_completes he hfuel id).bind fun _ _ => completes_pure trivial

theorem ClassSignature.compile_completes (he : env.Orderly policy) (hfuel : fuel ≠ 0)
    (id : Identifier) :
    ∀ sig : ClassSignature, (sig.compile fuel env id).Completes policy fun _ => True
  | ⟨self, items⟩ => by
    rw [ClassSignature.compile]
    refine (compileOptionalType_completes he hfuel id self).bind fun _ _ => ?_
    exact (compileClassItems_completes he hfuel id items).bind fun _ _ => completes_pure trivial

theorem compileClassItems_completes (he : env.Orderly policy) (hfuel : fuel ≠ 0)
    (id : Identifier) :
    ∀ items, (compileClassItems fuel env id items).Completes policy fun _ => True
  | [] => completes_pure trivial
  | item :: items => by
    rw [compileClassItems]
    refine (item.compile_completes he hfuel id).bind fun _ _ => ?_
    exact (compileClassItems_completes he hfuel id items).bind fun _ _ => completes_pure trivial

theorem ClassItem.compile_completes (he : env.Orderly policy) (hfuel : fuel ≠ 0)
    (id : Identifier) :
    ∀ item : ClassItem, (item.compile fuel env id).Completes policy fun _ => True
  | .method m => by
    rw [ClassItem.compile]
    exact (m.type.compile_completes he hfuel id).bind fun _ _ => completes_pure trivial
  | .instanceVariable v => by
    rw [ClassItem.compile]
    exact (v.type.compile_completes he hfuel id).bind fun _ _ => completes_pure trivial
  | .constraint lhs rhs => by
    rw [ClassItem.compile]
    refine (lhs.compile_completes he hfuel id).bind fun _ _ => ?_
    exact (rhs.compile_completes he hfuel id).bind fun _ _ => completes_pure trivial
  | .inherit expr => by
    rw [ClassItem.compile]
    exact (expr.compile_completes he hfuel id).bind fun _ _ => completes_pure trivial
  | .comment text => completes_pure trivial

end

section Classes

variable (he : env.Orderly policy) (hfuel : fuel ≠ 0)

include he hfuel

theorem ClassDecl.compile_completes (id : Identifier) (decl : ClassDecl) :
    (decl.compile fuel env id).Completes policy fun _ => True := by
  induction decl with
  | classType expr =>
    exact (expr.compile_completes he hfuel id).bind fun _ _ => completes_pure trivial
  | arrow label arg body ih =>
    refine (arg.compile_completes he hfuel id).bind fun _ _ => ?_
    exact ih.bind fun _ _ => completes_pure trivial

theorem compileClassExpansion_completes (id : Identifier) (expr : ClassTypeExpr)
    (previous : Option ClassSignature) :
    (compileClassExpansion fuel env id expr previous).Completes policy fun _ => True := by
  have quiet (sig : ClassSignature) : PassM.Completes policy
      (do return some (← (sig.compile fuel env id).quietly)) fun _ => True :=
    (sig.compile_completes he hfuel id).quietly.bind fun _ _ => completes_pure trivial
  cases expr with
  | signature sig => exact completes_pure trivial
  | constr path args =>
    refine .attempt? (Lookup.classSignature_completes fuel he _) (fun sig _ => ?_) ?_
    · exact quiet sig
    · cases previous with
      | none => exact completes_pure trivial
      | some sig => exact quiet sig

theorem Class.compile_completes (c : Class) :
    (c.compile fuel env).Completes policy fun _ => True := by
  refine (c.decl.compile_completes he hfuel c.id).bind fun decl _ => ?_
  exact (compileClassExpansion_completes he hfuel c.id _ c.expansion).bind fun _ _ =>
    completes_pure trivial

theorem ClassType.compile_completes (c : ClassType) :
    (c.compile fuel env).Completes policy fun _ => True := by
  refine (c.expr.compile_completes he hfuel c.id).bind fun expr _ => ?_
  exact (compileClassExpansion_completes he hfuel c.id _ c.expansion).bind fun _ _ =>
    completes_pure trivial

end Classes
end Types

end CrossRef
