import CrossRef.Proofs.Compile.Refinement
import CrossRef.Proofs.Compile.Repetition

/-! Compiling a compiled unit. Every item is compiled again in the environment it was compiled in
before, and comes out as it went in. -/

namespace CrossRef

open PassM

theorem TypeDecl.yields_id (fuel : Nat) (e : Env) (t : TypeDecl) :
    (t.compile fuel e).Yields fun out => out.id = t.id := by
  obtain ⟨id, doc, equation, representation⟩ := t
  refine (yields_true _).bind fun _ _ => ?_
  cases representation with
  | none => exact ensures_pure rfl
  | some repr => exact (yields_true _).bind fun _ _ => ensures_pure rfl

namespace Repetition

section Passes

variable {r : Resolver} {p p' : Pass}

theorem strengthening (p p' : Pass) (hr : r.Steady) {e : Env} (he : e.SameView r e)
    (path : Option Path) :
    (p.strengthening e path).Stable r fun path => p'.strengthening e path := by
  cases path with
  | none => exact ensures_pure (settles_pure _)
  | some path =>
    exact (resolve hr he p.fuel p'.fuel .module path).map fun path hpath => (hpath e he).map some

theorem constraintFragment (hr : r.Steady) (h : (agreement hr).PassesRel p p') {e : Env}
    (he : e.SameView r e) (root : Option Signature)
    (c : Constraint) :
    (p.constraintFragment e root c).Ensures (Loads.Faithful r) fun f =>
      ∀ c' : Constraint, c'.targetsModule = c.targetsModule → c'.fragment = f →
        (p'.constraintFragment e root c').Settles r f := by
  cases root with
  | none =>
    refine ensures_pure fun c' _ hfragment => ?_
    rw [← hfragment]
    exact settles_pure _
  | some sig =>
    have scope : (e.addFragmentRoot sig).SameView r (e.addFragmentRoot sig) := he.push _
    have lookup := Agree.attempt? (h.fuel.fragment scope rfl c.space c.fragment)
    refine lookup.ensures.bind fun found hfound => ?_
    cases found with
    | some resolved =>
      refine ensures_pure fun c' _ hfragment => ?_
      rw [Pass.constraintFragment, hfragment]
      exact (settles_attempt?_pure resolved).bind (settles_pure _)
    | none =>
      refine ensures_pure fun c' htargets hfragment => ?_
      have hspace : c'.space = c.space := by rw [Constraint.space, Constraint.space, htargets]
      rw [Pass.constraintFragment, hfragment, hspace]
      exact hfound.bind (settles_pure _)

theorem expandInclude (hr : r.Steady) (h : (agreement hr).PassesRel p p')
    (hsplice : p.SplicesCompiled) {e : Env} (he : e.SameView r e) (written : String) (i : Include) :
    (p.expandInclude e written i).Ensures (Loads.Faithful r) fun out =>
      (∀ written, (p'.expandInclude e written out.1).Settles r out) ∧ out.2.SameView r out.2 ∧
        ∃ content, out.1 = { i with content } := by
  have unchanged : ∃ content, i = { i with content } := ⟨i.content, by cases i; rfl⟩
  rw [Pass.expandInclude]
  split
  case isTrue hcompiled =>
    refine ensures_pure ⟨fun written => ?_, he.push _, unchanged⟩
    rw [Pass.expandInclude, if_pos hcompiled]
    exact settles_pure _
  case isFalse hcompiled =>
    refine (Agree.attempt (h.includedSignature he i.decl)).ensures.bind fun outcome hout => ?_
    cases outcome with
    | error error =>
      refine (ensures_file _).bind fun _ _ => ensures_pure ⟨fun written => ?_, he, unchanged⟩
      rw [Pass.expandInclude, if_neg hcompiled]
      exact hout.bind ((settles_file _).bind (settles_pure _))
    | ok sig =>
      -- The content comes out marked, so the second run takes it as it is.
      refine ((h.splice he _).ensures.and_yields (hsplice e _)).bind fun content hcontent => ?_
      refine ensures_pure ⟨fun written => ?_, he.push _, content, rfl⟩
      rw [Pass.expandInclude, if_pos hcontent.2]
      exact settles_pure _

-- Both runs thread the same environments. An item's result therefore includes the environment after
-- it, and the second run has to come to that environment too.
mutual

theorem signature (hr : r.Steady) (h : (agreement hr).PassesRel p p')
    (hsplice : p.SplicesCompiled) :
    ∀ (sig : Signature) {e : Env}, e.SameView r e →
    (sig.pass p e).Stable r fun sig => sig.pass p' e
  | ⟨items, true, doc⟩, e, _ => by
    rw [Signature.pass]
    refine ensures_pure ?_
    simp only [Signature.pass]
    exact settles_pure _
  | ⟨is, false, doc⟩, e, he => by
    rw [Signature.pass]
    have scope := (agreement hr).addDocs doc he
    refine (items hr h hsplice is scope).bind fun out _ => ensures_pure ?_
    simp only [Signature.pass]
    exact settles_pure _

theorem items (hr : r.Steady) (h : (agreement hr).PassesRel p p') (hsplice : p.SplicesCompiled) :
    ∀ (is : List Item) {e : Env}, e.SameView r e →
    (passItems p e is).Ensures (Loads.Faithful r) fun out =>
      (passItems p' e out.1).Settles r out ∧ out.2.SameView r out.2
  | [], e, he => by
    rw [passItems]
    refine ensures_pure ⟨?_, he⟩
    rw [passItems]
    exact settles_pure _
  | i :: is, e, he => by
    rw [passItems]
    refine (item hr h hsplice i he).bind fun ⟨i, next⟩ ⟨hi, hnext⟩ => ?_
    refine (items hr h hsplice is hnext).bind fun ⟨is, last⟩ ⟨his, hlast⟩ =>
      ensures_pure ⟨?_, hlast⟩
    rw [passItems]
    exact hi.bind (his.bind (settles_pure _))

theorem item (hr : r.Steady) (h : (agreement hr).PassesRel p p') (hsplice : p.SplicesCompiled) :
    ∀ (i : Item) {e : Env}, e.SameView r e →
    (i.pass p e).Ensures (Loads.Faithful r) fun out =>
      (out.1.pass p' e).Settles r out ∧ out.2.SameView r out.2
  | .module m, e, he => by
    rw [Item.pass]
    refine (module hr h hsplice m he).bind fun m hm => ensures_pure ⟨?_, he.push _⟩
    rw [Item.pass]
    exact hm.bind (settles_pure _)
  | .moduleSubstitution m, e, he => by
    rw [Item.pass]
    have manifest := resolve hr he p.fuel p'.fuel .module m.manifest
    refine manifest.bind fun path hpath => ensures_pure ⟨?_, he⟩
    rw [Item.pass]
    exact (hpath e he).bind (settles_pure _)
  | .moduleType m, e, he => by
    rw [Item.pass]
    refine (moduleType hr h hsplice m he).bind fun m hm => ensures_pure ⟨?_, he.push _⟩
    rw [Item.pass]
    exact hm.bind (settles_pure _)
  | .type t, e, he => by
    rw [Item.pass]
    have own := typeDecl hr ((agreement hr).addItem (.type t) he) p.fuel p'.fuel t
    refine (own.and_yields (t.yields_id p.fuel _)).bind fun out hout => ?_
    obtain ⟨hout, hid⟩ := hout
    -- A type is in scope while it is compiled, so the second run binds another declaration than the
    -- first. Lookups do not see the difference.
    have view : (e.addItem (.type t)).SameView r (e.addItem (.type out)) :=
      ⟨e.alike_addItem_type hid.symm, rfl, he.resolver⟩
    refine ensures_pure ⟨?_, view.right⟩
    rw [Item.pass]
    exact (hout _ view).bind (settles_pure _)
  | .typeSubstitution t, e, he => by
    rw [Item.pass]
    refine (typeDecl hr he p.fuel p'.fuel t).bind fun t ht => ensures_pure ⟨?_, he⟩
    rw [Item.pass]
    exact (ht e he).bind (settles_pure _)
  | .value v, e, he => by
    rw [Item.pass]
    have own := value hr he p.fuel p'.fuel v
    refine own.bind fun v hv => ensures_pure ⟨?_, he.push _⟩
    rw [Item.pass]
    exact (hv e he).bind (settles_pure _)
  | .external x, e, he => by
    rw [Item.pass]
    have own := external hr he p.fuel p'.fuel x
    refine own.bind fun x hx => ensures_pure ⟨?_, he.push _⟩
    rw [Item.pass]
    exact (hx e he).bind (settles_pure _)
  | .classDecl c, e, he => by
    rw [Item.pass]
    have own := class_repeats hr he p.fuel p'.fuel c
    refine own.bind fun c hc => ensures_pure ⟨?_, he.push _⟩
    rw [Item.pass]
    exact (hc e he).bind (settles_pure _)
  | .classType c, e, he => by
    rw [Item.pass]
    have own := classType hr he p.fuel p'.fuel c
    refine own.bind fun c hc => ensures_pure ⟨?_, he.push _⟩
    rw [Item.pass]
    exact (hc e he).bind (settles_pure _)
  | .extension x, e, he => by
    rw [Item.pass]
    refine (extension hr he p.fuel p'.fuel x).bind fun x hx => ensures_pure ⟨?_, he⟩
    rw [Item.pass]
    exact (hx e he).bind (settles_pure _)
  | .exception c, e, he => by
    rw [Item.pass]
    refine (ownConstructor hr he p.fuel p'.fuel c).bind fun c hc => ensures_pure ⟨?_, he⟩
    rw [Item.pass]
    exact (hc e he).bind (settles_pure _)
  | .included i, e, he => by
    rw [Item.pass]
    refine (included hr h hsplice i he).bind fun ⟨i, next⟩ ⟨hi, hnext⟩ => ensures_pure ⟨?_, hnext⟩
    rw [Item.pass]
    exact hi.bind (settles_pure _)
  | .opened doc content, e, he => by
    rw [Item.pass]
    refine (signature hr h hsplice content he).bind fun content hcontent =>
      ensures_pure ⟨?_, he.push _⟩
    rw [Item.pass]
    exact hcontent.bind (settles_pure _)
  | .comment text, e, he => by
    rw [Item.pass]
    refine ensures_pure ⟨?_, he⟩
    rw [Item.pass]
    exact settles_pure _

theorem module (hr : r.Steady) (h : (agreement hr).PassesRel p p') (hsplice : p.SplicesCompiled) :
    ∀ (m : Module) {e : Env}, e.SameView r e →
    (m.pass p e).Stable r fun m => m.pass p' e
  | ⟨id, doc, decl, true⟩, e, _ => by
    rw [Module.pass]
    refine ensures_pure ?_
    simp only [Module.pass]
    exact settles_pure _
  | ⟨id, doc, decl, false⟩, e, he => by
    rw [Module.pass]
    have scope := (agreement hr).addDocs doc he
    refine (moduleDecl hr h hsplice decl id scope).bind fun decl hdecl => ensures_pure ?_
    simp only [Module.pass]
    exact hdecl.bind (settles_pure _)

theorem moduleDecl (hr : r.Steady) (h : (agreement hr).PassesRel p p')
    (hsplice : p.SplicesCompiled) :
    ∀ (decl : ModuleDecl) (id : Identifier) {e : Env}, e.SameView r e →
    (decl.pass p e id).Stable r fun decl => decl.pass p' e id
  | .aliasOf path stored, id, e, he => by
    rw [ModuleDecl.pass]
    have resolved := resolveOrReport hr he p.fuel p'.fuel .module .modulePath id path
    refine resolved.bind fun path hpath => ?_
    refine (expansion hr h hsplice stored he).bind fun stored hstored => ensures_pure ?_
    simp only [ModuleDecl.pass]
    exact (hpath e he).bind (hstored.bind (settles_pure _))
  | .typed expr, id, e, he => by
    rw [ModuleDecl.pass]
    refine (moduleTypeExpr hr h hsplice expr id he).bind fun expr hexpr => ensures_pure ?_
    simp only [ModuleDecl.pass]
    exact hexpr.bind (settles_pure _)

theorem moduleType (hr : r.Steady) (h : (agreement hr).PassesRel p p')
    (hsplice : p.SplicesCompiled) :
    ∀ (m : ModuleType) {e : Env}, e.SameView r e →
    (m.pass p e).Stable r fun m => m.pass p' e
  | ⟨id, doc, none⟩, e, _ => by
    rw [ModuleType.pass]
    refine ensures_pure ?_
    simp only [ModuleType.pass]
    exact settles_pure _
  | ⟨id, doc, some expr⟩, e, he => by
    rw [ModuleType.pass]
    refine (moduleTypeExpr hr h hsplice expr id he).bind fun expr hexpr => ensures_pure ?_
    simp only [ModuleType.pass]
    exact hexpr.bind (settles_pure _)

theorem expansion (hr : r.Steady) (h : (agreement hr).PassesRel p p')
    (hsplice : p.SplicesCompiled) :
    ∀ (stored : Option StoredExpansion) {e : Env}, e.SameView r e →
    (passExpansion p e stored).Stable r fun stored => passExpansion p' e stored
  | none, e, _ => by
    rw [passExpansion]
    refine ensures_pure ?_
    simp only [passExpansion]
    exact settles_pure _
  | some stored, e, he => by
    rw [passExpansion]
    refine (storedExpansion hr h hsplice stored he).bind fun stored hstored => ensures_pure ?_
    simp only [passExpansion]
    exact hstored.bind (settles_pure _)

theorem storedExpansion (hr : r.Steady) (h : (agreement hr).PassesRel p p')
    (hsplice : p.SplicesCompiled) :
    ∀ (stored : StoredExpansion) {e : Env}, e.SameView r e →
    (stored.pass p e).Stable r fun stored => stored.pass p' e
  | .signature sig, e, he => by
    rw [StoredExpansion.pass]
    refine (signature hr h hsplice sig he).bind fun sig hsig => ensures_pure ?_
    simp only [StoredExpansion.pass]
    exact hsig.bind (settles_pure _)
  | .functor param body, e, he => by
    rw [StoredExpansion.pass]
    refine (functorParameter hr h hsplice param he).bind fun param hparam => ?_
    have below := (agreement hr).lookups.addParameter param he
    refine (storedExpansion hr h hsplice body below).bind fun body hbody => ensures_pure ?_
    simp only [StoredExpansion.pass]
    exact hparam.bind (hbody.bind (settles_pure _))

theorem functorParameter (hr : r.Steady) (h : (agreement hr).PassesRel p p')
    (hsplice : p.SplicesCompiled) :
    ∀ (param : FunctorParameter) {e : Env}, e.SameView r e →
    (param.pass p e).Stable r fun param => param.pass p' e
  | .unit, e, _ => by
    rw [FunctorParameter.pass]
    refine ensures_pure ?_
    simp only [FunctorParameter.pass]
    exact settles_pure _
  | .named id expr, e, he => by
    rw [FunctorParameter.pass]
    refine (moduleTypeExpr hr h hsplice expr id he).bind fun expr hexpr => ensures_pure ?_
    simp only [FunctorParameter.pass]
    exact hexpr.bind (settles_pure _)

theorem moduleTypeExpr (hr : r.Steady) (h : (agreement hr).PassesRel p p')
    (hsplice : p.SplicesCompiled) :
    ∀ (expr : ModuleTypeExpr) (id : Identifier) {e : Env}, e.SameView r e →
    (expr.pass p e id).Stable r fun expr => expr.pass p' e id
  | .path path stored, id, e, he => by
    rw [ModuleTypeExpr.pass]
    have resolved := resolveOrReport hr he p.fuel p'.fuel .moduleType .moduleTypePath id path
    refine resolved.bind fun path hpath => ?_
    refine (expansion hr h hsplice stored he).bind fun stored hstored => ensures_pure ?_
    simp only [ModuleTypeExpr.pass]
    exact (hpath e he).bind (hstored.bind (settles_pure _))
  | .signature sig, id, e, he => by
    rw [ModuleTypeExpr.pass]
    refine (signature hr h hsplice sig he).bind fun sig hsig => ensures_pure ?_
    simp only [ModuleTypeExpr.pass]
    exact hsig.bind (settles_pure _)
  | .functor param body, id, e, he => by
    rw [ModuleTypeExpr.pass]
    refine (functorParameter hr h hsplice param he).bind fun param hparam => ?_
    have below := (agreement hr).lookups.addParameter param he
    refine (moduleTypeExpr hr h hsplice body id.result below).bind fun body hbody => ensures_pure ?_
    simp only [ModuleTypeExpr.pass]
    exact hparam.bind (hbody.bind (settles_pure _))
  | .constrained cs base stored, id, e, he => by
    rw [ModuleTypeExpr.pass]
    have both := (signatureExpr hr h hsplice base id he).and (h.signatureExpr base id he).ensures
    refine both.bind fun compiled ⟨hcompiled, hbase⟩ => ?_
    refine (Agree.attempt (h.fuel.signatureExpr he compiled)).ensures.bind fun outcome hout => ?_
    cases outcome with
    | error error =>
      -- The expression is left as it was written, so the second run has to compile the base again.
      refine (ensures_file _).bind fun _ _ => ensures_pure ?_
      simp only [ModuleTypeExpr.pass]
      exact hbase.bind (hout.bind ((settles_file _).bind (settles_pure _)))
    | ok sig =>
      refine (constraints hr h hsplice cs id sig he).bind fun ⟨cs, changed, applied⟩ hcs => ?_
      dsimp only
      split
      case isTrue happlied =>
        refine ensures_pure ?_
        simp only [ModuleTypeExpr.pass, Signature.pass]
        exact (settles_pure _).bind (settles_pure _)
      case isFalse happlied =>
        refine (expansion hr h hsplice stored he).bind fun stored hstored => ensures_pure ?_
        simp only [ModuleTypeExpr.pass]
        refine hcompiled.bind (hout.bind (hcs.bind ?_))
        dsimp only
        rw [if_neg happlied]
        exact hstored.bind (settles_pure _)
  | .typeOf origin stored, id, e, he => by
    rw [ModuleTypeExpr.pass]
    have resolved := resolveOrReport hr he p.fuel p'.fuel .module .modulePath id origin.path
    refine resolved.bind fun path hpath => ?_
    refine (expansion hr h hsplice stored he).bind fun stored hstored => ensures_pure ?_
    simp only [ModuleTypeExpr.pass]
    cases origin with
    | moduleType _ => exact (hpath e he).bind (hstored.bind (settles_pure _))
    | structInclude _ => exact (hpath e he).bind (hstored.bind (settles_pure _))

theorem constraints (hr : r.Steady) (h : (agreement hr).PassesRel p p')
    (hsplice : p.SplicesCompiled) :
    ∀ (cs : List Constraint) (id : Identifier) (sig : Signature) {e : Env},
    e.SameView r e →
    (passConstraints p e id sig cs).Stable r fun out => passConstraints p' e id sig out.1
  | [], id, sig, e, _ => by
    rw [passConstraints]
    refine ensures_pure ?_
    simp only [passConstraints]
    exact settles_pure _
  | c :: cs, id, sig, e, he => by
    rw [passConstraints]
    refine (constraint hr h hsplice c id (some sig) he).bind fun c hc => ?_
    refine (h.applyConstraint he id c sig).ensures.bind fun ⟨next, applied⟩ happlied => ?_
    refine (constraints hr h hsplice cs id next he).bind fun ⟨cs, last, allApplied⟩ hcs =>
      ensures_pure ?_
    simp only [passConstraints]
    exact hc.bind (happlied.bind (hcs.bind (settles_pure _)))

theorem signatureExpr (hr : r.Steady) (h : (agreement hr).PassesRel p p')
    (hsplice : p.SplicesCompiled) :
    ∀ (expr : SignatureExpr) (id : Identifier) {e : Env}, e.SameView r e →
    (expr.pass p e id).Stable r fun expr => expr.pass p' e id
  | .path path, id, e, he => by
    rw [SignatureExpr.pass]
    refine (resolve hr he p.fuel p'.fuel .moduleType path).bind fun path hpath => ensures_pure ?_
    simp only [SignatureExpr.pass]
    exact (hpath e he).bind (settles_pure _)
  | .signature sig, id, e, he => by
    rw [SignatureExpr.pass]
    refine (signature hr h hsplice sig he).bind fun sig hsig => ensures_pure ?_
    simp only [SignatureExpr.pass]
    exact hsig.bind (settles_pure _)
  | .constrained cs base, id, e, he => by
    rw [SignatureExpr.pass]
    refine (signatureExpr hr h hsplice base id he).bind fun base hbase => ?_
    refine (Agree.attempt? (h.fuel.signatureExpr he base)).ensures.bind fun root hroot => ?_
    refine (baseConstraints hr h hsplice cs id root he).bind fun cs hcs => ensures_pure ?_
    simp only [SignatureExpr.pass]
    exact hbase.bind (hroot.bind (hcs.bind (settles_pure _)))
  | .typeOf origin, id, e, he => by
    rw [SignatureExpr.pass]
    have resolved := resolve hr he p.fuel p'.fuel .module origin.path
    refine resolved.bind fun path hpath => ensures_pure ?_
    simp only [SignatureExpr.pass]
    cases origin with
    | moduleType _ => exact (hpath e he).bind (settles_pure _)
    | structInclude _ => exact (hpath e he).bind (settles_pure _)

theorem baseConstraints (hr : r.Steady) (h : (agreement hr).PassesRel p p')
    (hsplice : p.SplicesCompiled) :
    ∀ (cs : List Constraint) (id : Identifier) (root : Option Signature)
    {e : Env}, e.SameView r e →
    (passBaseConstraints p e id root cs).Stable r fun cs => passBaseConstraints p' e id root cs
  | [], id, root, e, _ => by
    rw [passBaseConstraints]
    refine ensures_pure ?_
    simp only [passBaseConstraints]
    exact settles_pure _
  | c :: cs, id, root, e, he => by
    rw [passBaseConstraints]
    refine (constraint hr h hsplice c id root he).bind fun c hc => ?_
    refine (h.applyQuietly he c root).ensures.bind fun next hnext => ?_
    refine (baseConstraints hr h hsplice cs id next he).bind fun cs hcs => ensures_pure ?_
    simp only [passBaseConstraints]
    exact hc.bind (hnext.bind (hcs.bind (settles_pure _)))

theorem constraint (hr : r.Steady) (h : (agreement hr).PassesRel p p')
    (hsplice : p.SplicesCompiled) :
    ∀ (c : Constraint) (id : Identifier) (root : Option Signature) {e : Env},
    e.SameView r e → (c.pass p e id root).Stable r fun c => c.pass p' e id root
  | .moduleEq f decl, id, root, e, he => by
    rw [Constraint.pass]
    refine (constraintFragment hr h he root _).bind fun f hf => ?_
    refine (moduleDecl hr h hsplice decl id he).bind fun decl hdecl => ensures_pure ?_
    simp only [Constraint.pass]
    exact (hf (.moduleEq f decl) rfl rfl).bind (hdecl.bind (settles_pure _))
  | .moduleSubst f path, id, root, e, he => by
    rw [Constraint.pass]
    refine (constraintFragment hr h he root _).bind fun f hf => ?_
    refine (resolve hr he p.fuel p'.fuel .module path).bind fun path hpath => ensures_pure ?_
    simp only [Constraint.pass]
    exact (hf (.moduleSubst f path) rfl rfl).bind ((hpath e he).bind (settles_pure _))
  | .typeEq f eq, id, root, e, he => by
    rw [Constraint.pass]
    refine (constraintFragment hr h he root _).bind fun f hf => ?_
    refine (typeEquation hr he p.fuel p'.fuel id eq).bind fun eq heq => ensures_pure ?_
    simp only [Constraint.pass]
    exact (hf (.typeEq f eq) rfl rfl).bind ((heq e he).bind (settles_pure _))
  | .typeSubst f eq, id, root, e, he => by
    rw [Constraint.pass]
    refine (constraintFragment hr h he root _).bind fun f hf => ?_
    refine (typeEquation hr he p.fuel p'.fuel id eq).bind fun eq heq => ensures_pure ?_
    simp only [Constraint.pass]
    exact (hf (.typeSubst f eq) rfl rfl).bind ((heq e he).bind (settles_pure _))

theorem included (hr : r.Steady) (h : (agreement hr).PassesRel p p') (hsplice : p.SplicesCompiled) :
    ∀ (i : Include) {e : Env}, e.SameView r e →
    (i.pass p e).Ensures (Loads.Faithful r) fun out =>
      (out.1.pass p' e).Settles r out ∧ out.2.SameView r out.2
  | ⟨parent, doc, decl, strengthened, shadowed, content⟩, e, he => by
    rw [Include.pass]
    refine (includeDecl hr h hsplice decl parent he).bind fun decl hdecl => ?_
    refine (strengthening p p' hr he strengthened).bind fun strengthened hstrengthened => ?_
    refine (expandInclude hr h hsplice he _ _).mono ?_
    rintro ⟨i, next⟩ ⟨hexpand, hnext, content, hi⟩
    subst hi
    refine ⟨?_, hnext⟩
    rw [Include.pass]
    exact hdecl.bind (hstrengthened.bind (hexpand _))

theorem includeDecl (hr : r.Steady) (h : (agreement hr).PassesRel p p')
    (hsplice : p.SplicesCompiled) :
    ∀ (decl : IncludeDecl) (parent : Identifier) {e : Env}, e.SameView r e →
    (decl.pass p e parent).Stable r fun decl => decl.pass p' e parent
  | .aliasOf path, parent, e, he => by
    rw [IncludeDecl.pass]
    refine (resolve hr he p.fuel p'.fuel .module path).bind fun path hpath => ensures_pure ?_
    simp only [IncludeDecl.pass]
    exact (hpath e he).bind (settles_pure _)
  | .typed expr, parent, e, he => by
    rw [IncludeDecl.pass]
    refine (signatureExpr hr h hsplice expr parent he).bind fun expr hexpr => ensures_pure ?_
    simp only [IncludeDecl.pass]
    exact hexpr.bind (settles_pure _)

end

end Passes

section Units

variable {r : Resolver} (hr : r.Steady) {e : Env} (he : e.SameView r e) (fuel fuel' : Nat)

include hr he

theorem packed (ps : List Packed) :
    (Pass.packed fuel e ps).Stable r fun ps => Pass.packed fuel' e ps := by
  induction ps with
  | nil => exact ensures_pure (settles_pure _)
  | cons p ps ih =>
    refine (resolve hr he fuel fuel' .module p.path).bind fun path hpath => ?_
    refine ih.bind fun ps hps => ensures_pure ?_
    exact (hpath e he).bind (hps.bind (settles_pure _))

theorem openUnits (self : String) (names : List String) :
    (Pass.openUnits self e names).Ensures (Loads.Faithful r) fun opened =>
      (Pass.openUnits self e names).Settles r opened ∧ opened.SameView r opened := by
  induction names generalizing e with
  | nil => exact ensures_pure ⟨settles_pure _, he⟩
  | cons name names ih =>
    rw [Pass.openUnits]
    split
    case isTrue => exact ih he
    case isFalse =>
      have fetched := Agree.attempt ((LookupM.agreement hr).fetchByName he name)
      refine fetched.ensures.bind fun outcome hout => ?_
      rcases outcome with error | _ | unit
      · refine (ih he).mono fun opened hopened => ⟨hout.bind hopened.1, hopened.2⟩
      · refine (ih he).mono fun opened hopened => ⟨hout.bind hopened.1, hopened.2⟩
      · refine (ih (he.push _)).mono fun opened hopened => ⟨hout.bind hopened.1, hopened.2⟩

end Units

end Repetition

theorem Import.resolve_resolve (e : Env) (i : Import) : (i.resolve e).resolve e = i.resolve e := by
  cases i with
  | resolved root name => rfl
  | unresolved name =>
    rw [Import.resolve]
    cases h : e.lookupUnit name with
    | found root => rfl
    | notFound => rw [Import.resolve, h]
    | forwardReference => rw [Import.resolve, h]

namespace UnitContent

def IsOpen : UnitContent → Prop
  | module sig => sig.compiled = false
  | pack _ => True

def reset : UnitContent → UnitContent
  | module sig => module { sig with compiled := false }
  | pack packed => pack packed

theorem stable_compile {r : Resolver} (hr : r.Steady) {e : Env} (he : e.SameView r e)
    (fuel fuel' : Nat) {content : UnitContent} (hopen : content.IsOpen) :
    (content.compile fuel e).Stable r fun content => content.reset.compile fuel' e := by
  cases content with
  | pack ps =>
    refine (Repetition.packed hr he fuel fuel' ps).bind fun ps hps => ensures_pure ?_
    exact hps.bind (settles_pure _)
  | module sig =>
    obtain ⟨items, compiled, doc⟩ := sig
    cases hopen
    cases fuel with
    | zero => exact (ensures_abort _ fun _ => False).bind fun _ himpossible => himpossible.elim
    | succ fuel =>
      rw [compile, Signature.compile, Signature.pass, bind_assoc]
      cases fuel' with
      | zero =>
        -- The second run does not return, and then there is nothing to compare.
        have items := Repetition.items hr (agreement_passes hr fuel fuel)
          (Pass.start_splicesCompiled fuel) items ((agreement hr).addDocs doc he)
        refine items.bind fun out _ => ensures_pure ?_
        exact (settles_outOfFuel ⟨out.1, true, doc⟩).bind (settles_pure _)
      | succ fuel' =>
        have items := Repetition.items hr (agreement_passes hr fuel fuel')
          (Pass.start_splicesCompiled fuel) items ((agreement hr).addDocs doc he)
        refine items.bind fun out hout => ensures_pure ?_
        simp only [reset, compile, Signature.compile, Signature.pass, bind_assoc]
        exact hout.1.bind (settles_pure _)

end UnitContent

namespace CompilationUnit

theorem reset_eq (unit : CompilationUnit) :
    unit.reset = { unit with content := unit.content.reset } := by
  obtain ⟨id, doc, imports, content, hidden⟩ := unit
  cases content <;> rfl

theorem stable_compileIn {r : Resolver} (hr : r.Steady) {e : Env} (he : e.SameView r e)
    (fuel fuel' : Nat) {unit : CompilationUnit} (hopen : unit.content.IsOpen) :
    (unit.compileIn fuel e).Stable r fun unit => unit.reset.compileIn fuel' e := by
  refine (Repetition.openUnits hr he unit.name e.options.openModules).bind fun opened hopened => ?_
  have scope := (agreement hr).addDocs unit.doc hopened.2
  refine (UnitContent.stable_compile hr scope fuel fuel' hopen).bind fun content hcontent => ?_
  refine ensures_pure ?_
  have himports : (unit.imports.map (·.resolve e)).map (·.resolve e) =
      unit.imports.map (·.resolve e) := by
    rw [List.map_map]
    exact List.map_congr_left fun i _ => i.resolve_resolve e
  simp only [reset_eq, compileIn, himports]
  exact hopened.1.bind (hcontent.bind (settles_pure _))

end CompilationUnit

/-- A unit that was compiled is compiled to itself, although each of its items is compiled again.
What the two runs report may differ. -/
theorem compile_reset_eq_self (resolver : Resolver) (hsteady : resolver.Steady)
    (options : ResolverOptions) (fuel fuel' : Nat) (unit : CompilationUnit)
    (hopen : unit.content.IsOpen) (result : Compiled)
    (hfirst : compile fuel resolver options unit = .compiled result)
    (hreturns : compile fuel' resolver options result.unit.reset ≠ .outOfFuel) :
    ∃ reports, compile fuel' resolver options result.unit.reset =
      .compiled ⟨result.unit, reports⟩ := by
  have view : (Env.create resolver options).SameView resolver (.create resolver options) :=
    .refl rfl
  have stable := CompilationUnit.stable_compileIn hsteady view fuel fuel' hopen
  rcases hrun : (unit.compileIn fuel (.create resolver options)).run {} with
    ⟨(error | _) | ⟨compiled, reports⟩, after⟩ <;> rw [compile, hrun] at hfirst <;> cases hfirst
  obtain ⟨-, settles⟩ := stable {} (Loads.faithful_empty resolver) compiled reports after hrun
  obtain ⟨hsecond, -⟩ := settles {} (Loads.faithful_empty resolver)
  rw [compile] at hreturns ⊢
  rcases hrun' : (compiled.reset.compileIn fuel' (.create resolver options)).run {} with
    ⟨outcome, after'⟩
  rw [hrun'] at hsecond hreturns
  rcases hsecond with rfl | ⟨again, rfl⟩
  · exact absurd rfl hreturns
  · exact ⟨again, rfl⟩

def CompilationUnit.constrainedAndIncluded : CompilationUnit where
  id := .root "A"
  doc := []
  imports := []
  content := .module ⟨Item.constrainedAndIncluded, false, []⟩
  hidden := false

theorem compile_reset_constrained :
    ∃ result reports, compile 2 (Catalog.toResolver {}) {} .constrainedAndIncluded =
        .compiled result ∧
      compile 1 (Catalog.toResolver {}) {} result.unit.reset = .compiled ⟨result.unit, reports⟩ ∧
      result.unit.content.signature.unresolvedCount = 1 ∧
      (result.unit.content.signature.find? .type "t").isSome = true := by
  have hfirst : compile 2 (Catalog.toResolver {}) {} .constrainedAndIncluded = .compiled ⟨_, _⟩ :=
    rfl
  obtain ⟨reports, hsecond⟩ := compile_reset_eq_self (Catalog.toResolver {}) (fun _ _ _ => rfl) {}
    2 1 .constrainedAndIncluded rfl _ hfirst (by rintro ⟨⟩)
  exact ⟨_, reports, hfirst, hsecond, rfl, rfl⟩

def CompilationUnit.oneValue (path : Path) (compiled : Bool) : CompilationUnit where
  id := .root "A"
  doc := []
  imports := []
  content := .module
    ⟨[.value ⟨(Identifier.root "A").child .value "x", [], .constr path []⟩], compiled, []⟩
  hidden := false

/-- A unit that comes in marked as compiled is left alone at first. Only when the mark is gone are
its references resolved. -/
theorem compile_reset_marked_ne :
    (Catalog.toResolver {}).Steady ∧
      compile 1 (Catalog.toResolver {}) {} (.oneValue (.root "int") true) =
        .compiled ⟨.oneValue (.root "int") true, []⟩ ∧
      compile 1 (Catalog.toResolver {}) {} (CompilationUnit.oneValue (.root "int") true).reset =
        .compiled ⟨.oneValue (.ofIdentifier (.coreType "int")) true, []⟩ ∧
      CompilationUnit.oneValue (.ofIdentifier (.coreType "int")) true ≠
        .oneValue (.root "int") true := by
  refine ⟨fun _ _ _ => rfl, rfl, rfl, ?_⟩
  intro h
  cases h

end CrossRef
