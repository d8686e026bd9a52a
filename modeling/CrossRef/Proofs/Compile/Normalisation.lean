import CrossRef.Proofs.Compile.Constraining
import CrossRef.Proofs.Lookup.Erasure
import CrossRef.Proofs.Signature.Orderly

/-! The normal form of constraint lists. A list over a written signature gives way to its result
when every constraint was applied and nothing is left unresolved. Whether it does or not, expanding
what the pass has made of it gives that result. A list may also be cut in two, with its first part
below the second one as the constraints of its base. The base is then compiled by a loop that stops
applying constraints at the first failure, and expanded before the second part is applied. -/

namespace CrossRef

open PassM

theorem Path.unresolvedSteps_eq_zero (path : Path) :
    path.unresolvedSteps = 0 ↔ path.isResolved = true := by
  cases path <;> simp [unresolvedSteps, isResolved]

theorem Signature.unresolvedCount_eq_zero (sig : Signature) :
    sig.unresolvedCount = 0 ↔ sig.AllLeaves (.ofPath fun path => path.isResolved = true) := by
  rw [LeafTest.signature_iff, unresolvedCount]
  induction sig.paths with
  | nil => simp
  | cons path paths ih =>
    rw [List.foldr_cons, Nat.add_eq_zero_iff, ih, path.unresolvedSteps_eq_zero,
      List.forall_mem_cons]

section Mark

theorem Signature.marked_eq_self {sig : Signature} (h : sig.compiled = true) :
    { sig with compiled := true } = sig := by
  obtain ⟨items, compiled, doc⟩ := sig
  cases h
  rfl

namespace Steps

variable {s : Steps} {env : Env} {c : Constraint} {sig out : Signature} {loads after : Loads}

theorem constrainMember_eq_ok {name : String}
    (h : s.constrainMember env c name sig loads = (.ok out, after)) :
    (∃ f decl, c = .moduleEq f decl ∧ sig.setModuleDecl name decl = some out) ∨
    (∃ f path m rest target, c = .moduleSubst f path ∧
      sig.remove (·.declaresModule name) = some (.module m, rest) ∧
      out = rest.reroot m.id target) ∨
    (∃ f eq, c = .typeEq f eq ∧ sig.setTypeEquation name eq = some out) ∨
    ∃ f eq manifest t rest, c = .typeSubst f eq ∧ eq.manifest = some manifest ∧
      sig.remove (·.declaresType name) = some (.type t, rest) ∧
      out = rest.substituteType t.id eq.params manifest := by
  cases c with
  | moduleEq f decl =>
    simp only [constrainMember] at h
    cases hset : sig.setModuleDecl name decl <;> rw [hset] at h <;> cases h
    exact .inl ⟨f, decl, rfl, hset⟩
  | moduleSubst f path =>
    obtain ⟨target, middle, -, h⟩ := LookupM.bind_eq_ok.mp h
    rcases hremove : sig.remove (·.declaresModule name) with _ | ⟨item, rest⟩ <;>
      simp only [hremove] at h
    · cases h
    · cases item with
      | module m =>
        obtain ⟨⟩ := h
        exact .inr (.inl ⟨f, path, m, rest, target, rfl, rfl, rfl⟩)
      | _ => cases h
  | typeEq f eq =>
    simp only [constrainMember] at h
    cases hset : sig.setTypeEquation name eq <;> rw [hset] at h <;> cases h
    exact .inr (.inr (.inl ⟨f, eq, rfl, hset⟩))
  | typeSubst f eq =>
    simp only [constrainMember] at h
    cases hmanifest : eq.manifest with
    | none =>
      rw [hmanifest] at h
      cases h
    | some manifest =>
      rw [hmanifest] at h
      rcases hremove : sig.remove (·.declaresType name) with _ | ⟨item, rest⟩ <;>
        simp only [hremove] at h
      · cases h
      · cases item with
        | type t =>
          obtain ⟨⟩ := h
          exact .inr (.inr (.inr ⟨f, eq, manifest, t, rest, rfl, hmanifest, rfl, rfl⟩))
        | _ => cases h

theorem constrainMember_compiled {name : String}
    (h : s.constrainMember env c name sig loads = (.ok out, after)) :
    out.compiled = sig.compiled := by
  obtain ⟨f, decl, -, hset⟩ | ⟨f, path, m, rest, target, -, hremove, rfl⟩ | ⟨f, eq, -, hset⟩ |
    ⟨f, eq, manifest, t, rest, -, -, hremove, rfl⟩ := constrainMember_eq_ok h
  · exact Signature.updateLast_compiled hset
  · exact (Signature.mapLeaves_compiled _ rest).trans (Signature.remove_compiled hremove)
  · exact Signature.updateLast_compiled hset
  · exact (Signature.mapLeaves_compiled _ rest).trans (Signature.remove_compiled hremove)

theorem constrain_compiled (h : s.constrain env c sig loads = (.ok out, after)) :
    out.compiled = sig.compiled := by
  rw [constrain] at h
  cases hresolved : c.fragment.resolved? with
  | none =>
    rw [hresolved] at h
    cases h
  | some resolved =>
    simp only [hresolved] at h
    rcases hsegments : resolved.segments with _ | ⟨name, _ | ⟨next, rest⟩⟩ <;> rw [hsegments] at h
    · cases h
    · exact constrainMember_compiled h
    · obtain ⟨m, found, inner, changed, middle, -, -, -, -, hset⟩ := constrainAt_cons_ok h
      exact Signature.updateLast_compiled hset

theorem constrainAll_compiled {cs : List Constraint}
    (h : s.constrainAll env cs sig loads = (.ok out, after)) : out.compiled = sig.compiled := by
  induction cs generalizing sig loads with
  | nil =>
    cases h
    rfl
  | cons c cs ih =>
    rw [constrainAll_cons, constrainOne] at h
    obtain ⟨next, middle, hone, hrest⟩ := LookupM.bind_eq_ok.mp h
    obtain ⟨resolved, ready, -, hconstrain⟩ := LookupM.bind_eq_ok.mp hone
    exact (ih hrest).trans (constrain_compiled hconstrain)

end Steps

theorem SignatureExpr.pass_literal_compiled (p : Pass) (env : Env) (id : Identifier)
    (expr : SignatureExpr) :
    (expr.pass p env id).Yields fun out => out.hasLiteralRoot = true →
      ∀ (s : Steps) (e : Env) (sig : Signature) (loads after : Loads),
        s.signatureExpr e out loads = (.ok sig, after) → sig.compiled = true := by
  cases expr with
  | path path =>
    rw [pass]
    refine (yields_true _).bind fun _ _ => ensures_pure ?_
    rintro ⟨⟩
  | signature sig =>
    rw [pass]
    have marked : (sig.pass p env).Yields fun out => out.compiled = true := by
      obtain ⟨items, _ | _, doc⟩ := sig
      · rw [Signature.pass]
        exact (yields_true _).bind fun _ _ => ensures_pure rfl
      · rw [Signature.pass]
        exact ensures_pure rfl
    refine marked.bind fun out hout => ensures_pure ?_
    rintro - s e _ loads _ ⟨⟩
    exact hout
  | constrained cs base =>
    rw [pass]
    refine (base.pass_literal_compiled p env id).bind fun base' hbase => ?_
    refine (yields_true _).bind fun _ _ => (yields_true _).bind fun cs' _ => ensures_pure ?_
    intro hliteral s e sig loads after hexpand
    rw [Steps.signatureExpr] at hexpand
    obtain ⟨start, middle, hstart, hcs⟩ := LookupM.bind_eq_ok.mp hexpand
    rw [Steps.constrainAll_compiled hcs]
    exact hbase hliteral s e start loads middle hstart
  | typeOf origin =>
    rw [pass]
    refine (yields_true _).bind fun _ _ => ensures_pure ?_
    rintro ⟨⟩

end Mark

namespace ModuleTypeExpr

def ofConstraints (applied : Bool) (cs : List Constraint) (base : SignatureExpr)
    (sig : Signature) : ModuleTypeExpr :=
  if applied && base.hasLiteralRoot && sig.unresolvedCount == 0 then
    .signature { sig with compiled := true }
  else .constrained cs base none

theorem ofConstraints_isSignature {applied : Bool} {cs : List Constraint} {base : SignatureExpr}
    {sig : Signature} :
    (∃ out, ofConstraints applied cs base sig = .signature out) ↔
      applied = true ∧ base.hasLiteralRoot = true ∧
        sig.AllLeaves (.ofPath fun path => path.isResolved = true) := by
  have hcond : (applied && base.hasLiteralRoot && sig.unresolvedCount == 0) = true ↔
      applied = true ∧ base.hasLiteralRoot = true ∧
        sig.AllLeaves (.ofPath fun path => path.isResolved = true) := by
    rw [Bool.and_eq_true, Bool.and_eq_true, beq_iff_eq, sig.unresolvedCount_eq_zero, and_assoc]
  rw [← hcond, ofConstraints]
  split
  case isTrue h => exact ⟨fun _ => h, fun _ => ⟨_, rfl⟩⟩
  case isFalse h => exact ⟨by rintro ⟨_, ⟨⟩⟩, fun h' => absurd h' h⟩

theorem ofConstraints_signature {applied : Bool} {cs : List Constraint} {base : SignatureExpr}
    {sig out : Signature} (h : ofConstraints applied cs base sig = .signature out) :
    out = { sig with compiled := true } := by
  rw [ofConstraints] at h
  split at h <;> cases h
  rfl

theorem ofConstraints_same_root {applied : Bool} {cs cs' : List Constraint}
    {base base' : SignatureExpr} {sig out : Signature}
    (h : ofConstraints applied cs base sig = .signature out)
    (hroot : base'.hasLiteralRoot = base.hasLiteralRoot) :
    ofConstraints applied cs' base' sig = .signature out := by
  rw [ofConstraints] at h ⊢
  rw [hroot]
  split at h
  case isTrue hnormal =>
    rw [if_pos hnormal]
    exact h
  case isFalse => cases h

theorem pass_constrained {p : Pass} {env : Env} {id : Identifier} {cs : List Constraint}
    {base compiled : SignatureExpr} {start : Signature} {filed : List Report}
    {loads middle ready : Loads}
    (hbase : (base.pass p env id).run loads = (.ok (compiled, filed), middle))
    (hstart : Lookup.signatureExpr p.fuel env compiled middle = (.ok start, ready)) :
    ((constrained cs base none).pass p env id).run loads =
      (((passConstraints p env id start cs).run ready).1.map fun ((cs, sig, applied), reports) =>
          (ofConstraints applied cs compiled sig, filed ++ reports),
        ((passConstraints p env id start cs).run ready).2) := by
  rw [pass, run_bind_ok hbase, run_attempt_bind, hstart]
  dsimp only
  rcases hcs : (passConstraints p env id start cs).run ready with
    ⟨error | ⟨⟨cs', sig, applied⟩, reports⟩, after⟩
  · rw [run_bind_error hcs]
    rfl
  · have hform : (if applied && compiled.hasLiteralRoot && sig.unresolvedCount == 0 then
          pure (.signature { sig with compiled := true })
        else do return .constrained cs' compiled (← passExpansion p env none)) =
        (pure (ofConstraints applied cs' compiled sig) : PassM ModuleTypeExpr) := by
      rw [ofConstraints, passExpansion]
      split <;> rfl
    rw [run_bind_ok hcs]
    dsimp only
    rw [hform]
    simp [Except.map]

end ModuleTypeExpr

theorem Lookup.signatureExpr_constrained (fuel : Nat) (env : Env) (cs : List Constraint)
    (base : SignatureExpr) :
    Lookup.signatureExpr fuel env (.constrained cs base) =
      Lookup.signatureExpr fuel env base >>= (Steps.start fuel env).constrainAll env cs := by
  rw [signatureExpr, Steps.signatureExpr]
  rfl

theorem Lookup.moduleTypeExpr_constrained {fuel : Nat} {env : Env} {cs : List Constraint}
    {base : SignatureExpr} {start : Signature} {loads : Loads}
    (hstart : Lookup.signatureExpr fuel env base loads = (.ok start, loads)) :
    Lookup.moduleTypeExpr fuel env (.constrained cs base none) loads =
      (((Steps.start fuel env).constrainAll env cs start loads).1.map .signature,
        ((Steps.start fuel env).constrainAll env cs start loads).2) := by
  have hexpr : Lookup.moduleTypeExpr fuel env (.constrained cs base none) =
      .signature <$> Lookup.signatureExpr fuel env (.constrained cs base) := rfl
  rw [hexpr, map_eq_pure_bind, LookupM.bind_apply, Lookup.signatureExpr_constrained,
    LookupM.bind_apply, hstart]
  dsimp only
  rcases (Steps.start fuel env).constrainAll env cs start loads with ⟨halt | sig, after⟩ <;> rfl

section Expansion

variable {fuel : Nat} {env : Env} {id : Identifier} {cs : List Constraint}
  {base compiled : SignatureExpr} {start sig : Signature} {rounds : List Round}
  {filed : List Report} {loads middle ready after : Loads} (hcaching : loads.caching = true)
  (hbase : (base.pass (.start fuel) env id).run loads = (.ok (compiled, filed), middle))
  (hstart : Lookup.signatureExpr fuel env compiled middle = (.ok start, ready))
  (hrounds : (Pass.start fuel).Rounds env id start ready cs rounds sig after)

include hcaching hbase hstart hrounds

theorem Pass.Rounds.base_again :
    ready.caching = true ∧ Lookup.signatureExpr fuel env compiled after = (.ok start, after) := by
  have hmiddle := ((growing_start fuel).signatureExpr base id rfl).extends hcaching hbase
  have hready := ((LookupM.replaying_fuel fuel).signatureExpr rfl compiled).extends hmiddle.caching
    hstart
  have hafter := hrounds.grows hready.caching
  exact ⟨hready.caching, Lookup.signatureExpr_again hmiddle.caching hstart not_false hafter⟩

theorem Pass.Rounds.expansion (happlied : AllApplied rounds) :
    Lookup.moduleTypeExpr fuel env
        (.ofConstraints true (rounds.map (·.constraint)) compiled sig) after =
      (.ok (.signature sig), after) := by
  obtain ⟨hready, hagain⟩ := hrounds.base_again hcaching hbase hstart
  rw [ModuleTypeExpr.ofConstraints]
  split
  case isTrue hnormal =>
    simp only [Bool.true_and, Bool.and_eq_true] at hnormal
    obtain ⟨-, hmark⟩ :=
      base.pass_literal_compiled _ env id loads trivial compiled filed middle hbase
    have hstartMark : start.compiled = true := hmark hnormal.1 _ _ _ _ _ hstart
    have hexpands := hrounds.expands hready happlied (.refl (hrounds.grows hready).caching)
    have hsigMark := (Steps.constrainAll_compiled hexpands).trans hstartMark
    rw [Signature.marked_eq_self hsigMark]
    rfl
  case isFalse =>
    rw [Lookup.moduleTypeExpr_constrained hagain,
      hrounds.expands hready happlied (.refl (hrounds.grows hready).caching)]
    rfl

theorem Pass.Rounds.no_expansion (hmissed : ¬ AllApplied rounds) (found : Expansion) :
    (Lookup.moduleTypeExpr fuel env
      (.ofConstraints false (rounds.map (·.constraint)) compiled sig) after).1 ≠ .ok found := by
  obtain ⟨hready, hagain⟩ := hrounds.base_again hcaching hbase hstart
  obtain ⟨error, hstops⟩ := hrounds.stops hready hmissed (.refl (hrounds.grows hready).caching)
  have hform : ModuleTypeExpr.ofConstraints false (rounds.map (·.constraint)) compiled sig =
      .constrained (rounds.map (·.constraint)) compiled none := rfl
  rw [hform, Lookup.moduleTypeExpr_constrained hagain, hstops]
  rintro ⟨⟩

end Expansion

/-- Compiling a constrained expression agrees with expanding it. The pass runs through the
constraints in rounds. The expression it comes to has an expansion exactly if every constraint was
applied; that expansion is what the compiled constraints make of the compiled base, one after
another. It is written out exactly if moreover the base is written out and every path in it is
resolved. -/
theorem pass_constrained_agrees_with_expansion {fuel : Nat} {env : Env} {id : Identifier}
    {cs : List Constraint} {base compiled : SignatureExpr} {start : Signature}
    {expr : ModuleTypeExpr} {filed reports : List Report} {loads middle ready after : Loads}
    (hcaching : loads.caching = true)
    (hbase : (base.pass (.start fuel) env id).run loads = (.ok (compiled, filed), middle))
    (hstart : Lookup.signatureExpr fuel env compiled middle = (.ok start, ready))
    (hrun : ((ModuleTypeExpr.constrained cs base none).pass (.start fuel) env id).run loads =
      (.ok (expr, reports), after)) :
    ∃ (rounds : List Round) (sig : Signature),
      (Pass.start fuel).Rounds env id start ready cs rounds sig after ∧
      reports = filed ++ rounds.flatMap (·.reports) ∧
      ((∃ found, (Lookup.moduleTypeExpr fuel env expr after).1 = .ok found) ↔
        AllApplied rounds) ∧
      (AllApplied rounds →
        Lookup.moduleTypeExpr fuel env expr after = (.ok (.signature sig), after) ∧
        (do
          let start ← Lookup.signatureExpr fuel env compiled
          (rounds.map Round.constraint).foldlM (fun sig c => Lookup.constrain fuel env c sig) start)
            after = (.ok sig, after)) ∧
      ((∃ out, expr = .signature out) ↔
        AllApplied rounds ∧ base.hasLiteralRoot = true ∧
          sig.AllLeaves (.ofPath fun path => path.isResolved = true)) ∧
      ∀ out, expr = .signature out → out = { sig with compiled := true } := by
  rw [ModuleTypeExpr.pass_constrained hbase hstart] at hrun
  rcases hcs : (passConstraints (.start fuel) env id start cs).run ready with
    ⟨error | ⟨⟨cs', sig, applied⟩, more⟩, last⟩ <;> rw [hcs] at hrun <;> cases hrun
  obtain ⟨rounds, hrounds, rfl, hflag, rfl⟩ := Pass.rounds_of_passConstraints hcs
  have hliteral : compiled.hasLiteralRoot = base.hasLiteralRoot :=
    (base.pass_hasLiteralRoot _ env id loads trivial compiled filed middle hbase).2
  refine ⟨rounds, sig, hrounds, rfl, ?_, fun happlied => ⟨?_, ?_⟩, ?_, ?_⟩
  · constructor
    · rintro ⟨found, hfound⟩
      by_contra hmissed
      rw [Bool.eq_false_iff.mpr (mt hflag.mp hmissed)] at hfound
      exact hrounds.no_expansion hcaching hbase hstart hmissed found hfound
    · intro happlied
      rw [hflag.mpr happlied, hrounds.expansion hcaching hbase hstart happlied]
      exact ⟨_, rfl⟩
  · rw [hflag.mpr happlied]
    exact hrounds.expansion hcaching hbase hstart happlied
  · obtain ⟨hready, hagain⟩ := hrounds.base_again hcaching hbase hstart
    rw [LookupM.bind_apply, hagain]
    exact hrounds.fold hready happlied (.refl (hrounds.grows hready).caching)
  · rw [ModuleTypeExpr.ofConstraints_isSignature, hflag, hliteral]
  · intro out hout
    exact ModuleTypeExpr.ofConstraints_signature hout

def Signature.valueAfter (items : List Item) (path : Path) (compiled : Bool) : Signature :=
  ⟨items ++ [.value ⟨((Identifier.root "A").child .moduleType "S").child .value "x", [],
    .constr path []⟩], compiled, []⟩

def TypeDecl.member (name : String) : TypeDecl where
  id := ((Identifier.root "A").child .moduleType "S").child .type name
  doc := []
  equation := {}
  representation := none

def Constraint.intFor (name : String) : Constraint :=
  .typeSubst (.dot .root name) { manifest := some (.constr (.root "int") []) }

theorem pass_constrained_agrees_with_expansion_intFor :
    ∃ rounds, AllApplied rounds ∧
      (Pass.start 1).Rounds .empty ((Identifier.root "A").child .moduleType "S")
        (.valueAfter [.type (.member "t")] (.ofIdentifier (TypeDecl.member "t").id) true) {}
        [.intFor "t"] rounds (.valueAfter [] (.ofIdentifier (.coreType "int")) true) {} := by
  obtain ⟨rounds, sig, hrounds, -, -, hexpands, hnormal, -⟩ :=
    @pass_constrained_agrees_with_expansion 1 .empty ((Identifier.root "A").child .moduleType "S")
      [.intFor "t"] (.signature (.valueAfter [.type (.member "t")] (.root "t") false)) _ _
      (.signature (.valueAfter [] (.ofIdentifier (.coreType "int")) true)) [] [] {} {} {} {}
      rfl rfl rfl rfl
  obtain ⟨happlied, -, -⟩ := hnormal.mp ⟨_, rfl⟩
  obtain ⟨hexpansion, -⟩ := hexpands happlied
  cases hexpansion
  exact ⟨rounds, happlied, hrounds⟩

namespace Pass

theorem constrain_isResolved {fuel : Nat} {env : Env} {c : Constraint} {sig next : Signature}
    {loads after : Loads} (h : Lookup.constrain fuel env c sig loads = (.ok next, after)) :
    c.fragment.isResolved = true := by
  rw [Lookup.constrain, Steps.constrain] at h
  cases hresolved : c.fragment.resolved? with
  | none =>
    rw [hresolved] at h
    cases h
  | some resolved =>
    rw [Fragment.isResolved, hresolved]
    rfl

theorem Rounds.passBaseConstraints {p : Pass} {env : Env} {id : Identifier}
    {sig last : Signature} {loads after : Loads} {cs : List Constraint} {rounds : List Round}
    (h : p.Rounds env id sig loads cs rounds last after) (happlied : AllApplied rounds) :
    (passBaseConstraints p env id (some sig) cs).run loads =
      (.ok (rounds.map (·.constraint), rounds.flatMap (·.reports)), after) := by
  induction h with
  | nil => rfl
  | applied hpass hresolved hconstrain _ ih =>
    have hrest := ih (allApplied_cons.mp happlied).2
    have hquiet := run_attempt?_bind_eq_ok (f := pure).mpr (.inl ⟨_, _, hconstrain, rfl⟩)
    rw [bind_pure] at hquiet
    rw [CrossRef.passBaseConstraints, run_bind_ok hpass, applyQuietly, run_bind_ok hquiet,
      run_bind_ok hrest]
    simp [Except.map, Round.reports]
  | reported => cases (allApplied_cons.mp happlied).1

theorem rounds_of_passBaseConstraints {fuel : Nat} {env : Env} {id : Identifier}
    {sig : Signature} {loads after : Loads} {cs compiled : List Constraint} {reports : List Report}
    (hcaching : loads.caching = true)
    (h : (passBaseConstraints (.start fuel) env id (some sig) cs).run loads =
      (.ok (compiled, reports), after)) :
    (∃ rounds last, (Pass.start fuel).Rounds env id sig loads cs rounds last after ∧
      AllApplied rounds ∧ compiled = rounds.map (·.constraint) ∧
      reports = rounds.flatMap (·.reports)) ∨
    ∀ later, after.Extends later → ∃ error,
      (Steps.start fuel env).constrainAll env compiled sig later =
        (.error (.fault error), later) := by
  induction cs generalizing sig loads compiled reports with
  | nil =>
    cases h
    exact .inl ⟨[], sig, .nil, by simp [AllApplied], rfl, rfl⟩
  | cons c cs ih =>
    rw [CrossRef.passBaseConstraints, run_bind_eq_ok] at h
    obtain ⟨c', inner, middle, rest, hpass, h, rfl⟩ := h
    rw [applyQuietly, run_attempt?_bind_eq_ok] at h
    rcases h with ⟨next, ready, hconstrain, h⟩ | ⟨error, ready, hsoft, hfails, h⟩
    · obtain ⟨compiled', more, last, _, hcs, hend, rfl⟩ := run_bind_eq_ok.mp h
      cases hend
      obtain ⟨hready, hagain⟩ := applied_again hcaching hpass hconstrain
      rcases ih hready.caching hcs with ⟨rounds, last, hrounds, happlied, rfl, rfl⟩ | hfails
      · refine .inl ⟨_, last, .applied hpass (constrain_isResolved hconstrain) hconstrain hrounds,
          allApplied_cons.mpr ⟨rfl, happlied⟩, rfl, by simp [Round.reports]⟩
      · refine .inr fun later hlater => ?_
        have hafter := ((growing_start fuel).baseConstraints cs id (some next) rfl).extends
          hready.caching hcs
        have hone := hagain later (hafter.trans hlater)
        rw [Lookup.constrain] at hone
        rw [Steps.constrainAll_cons, LookupM.bind_apply,
          Steps.constrainOne_resolved _ _ (constrain_isResolved hconstrain), hone]
        exact hfails later hlater
    · obtain ⟨compiled', more, last, _, hcs, hend, rfl⟩ := run_bind_eq_ok.mp h
      cases hend
      obtain ⟨hready, hagain⟩ := inapplicable_again hcaching hpass (.inr ⟨error, hsoft, hfails⟩)
      have hafter := ((growing_start fuel).baseConstraints cs id none rfl).extends
        hready.caching hcs
      refine .inr fun later hlater => ?_
      obtain ⟨error, herror⟩ := hagain later (hafter.trans hlater)
      refine ⟨error, ?_⟩
      rw [Steps.constrainAll_cons, LookupM.bind_apply, herror]

end Pass

namespace SignatureExpr

variable {fuel : Nat} {env : Env} {id : Identifier} {cs : List Constraint}
  {base compiled : SignatureExpr} {start sig : Signature} {rounds : List Round}
  {filed : List Report} {loads middle ready after : Loads}

theorem pass_constrained_of_rounds (hcaching : loads.caching = true)
    (hbase : (base.pass (.start fuel) env id).run loads = (.ok (compiled, filed), middle))
    (hstart : Lookup.signatureExpr fuel env compiled middle = (.ok start, ready))
    (hrounds : (Pass.start fuel).Rounds env id start ready cs rounds sig after)
    (happlied : AllApplied rounds) :
    ((constrained cs base).pass (.start fuel) env id).run loads =
        (.ok (.constrained (rounds.map (·.constraint)) compiled,
          filed ++ rounds.flatMap (·.reports)), after) ∧
      Lookup.signatureExpr fuel env (.constrained (rounds.map (·.constraint)) compiled) after =
        (.ok sig, after) := by
  obtain ⟨hready, hagain⟩ := hrounds.base_again hcaching hbase hstart
  constructor
  · rw [pass, run_bind_eq_ok]
    refine ⟨compiled, filed, middle, _, hbase, ?_, rfl⟩
    refine run_attempt?_bind_eq_ok.mpr (.inl ⟨start, ready, hstart, ?_⟩)
    rw [run_bind_ok (hrounds.passBaseConstraints happlied)]
    simp [Except.map]
  · rw [Lookup.signatureExpr_constrained, LookupM.bind_apply, hagain]
    exact hrounds.expands hready happlied (.refl (hrounds.grows hready).caching)

theorem rounds_of_pass_constrained {expr : SignatureExpr} {reports : List Report} {last : Loads}
    (hcaching : loads.caching = true)
    (hrun : ((constrained cs base).pass (.start fuel) env id).run loads =
      (.ok (expr, reports), after))
    (hexpand : Lookup.signatureExpr fuel env expr after = (.ok sig, last)) :
    ∃ compiled filed middle start ready rounds,
      (base.pass (.start fuel) env id).run loads = (.ok (compiled, filed), middle) ∧
      Lookup.signatureExpr fuel env compiled middle = (.ok start, ready) ∧
      (Pass.start fuel).Rounds env id start ready cs rounds sig after ∧ AllApplied rounds ∧
      expr = .constrained (rounds.map (·.constraint)) compiled ∧
      reports = filed ++ rounds.flatMap (·.reports) ∧ last = after := by
  rw [pass, run_bind_eq_ok] at hrun
  obtain ⟨compiled, filed, middle, more, hbase, hrun, rfl⟩ := hrun
  have hmiddle := ((growing_start fuel).signatureExpr base id rfl).extends hcaching hbase
  have hreplays := (LookupM.replaying_fuel fuel).signatureExpr (e := env) rfl compiled
  rw [run_attempt?_bind_eq_ok] at hrun
  rcases hrun with ⟨start, ready, hstart, hrun⟩ | ⟨error, ready, hsoft, hfails, hrun⟩
  · obtain ⟨cs', filed', after', _, hcs, hend, rfl⟩ := run_bind_eq_ok.mp hrun
    cases hend
    have hready := LookupM.Replays.extends hreplays hmiddle.caching hstart
    have hafter := ((growing_start fuel).baseConstraints cs id (some start) rfl).extends
      hready.caching hcs
    have hagain : Lookup.signatureExpr fuel env compiled after = (.ok start, after) :=
      Lookup.signatureExpr_again hmiddle.caching hstart not_false hafter
    rw [Lookup.signatureExpr_constrained, LookupM.bind_apply, hagain] at hexpand
    rcases Pass.rounds_of_passBaseConstraints hready.caching hcs with
      ⟨rounds, last', hrounds, happlied, rfl, rfl⟩ | hstops
    · have hsame := hrounds.expands hready.caching happlied (.refl hafter.caching)
      cases hsame.symm.trans hexpand
      exact ⟨compiled, filed, middle, start, ready, rounds, hbase, hstart, hrounds, happlied, rfl,
        by simp, rfl⟩
    · obtain ⟨error, herror⟩ := hstops after (.refl hafter.caching)
      cases herror.symm.trans hexpand
  · -- The base was lost before its constraints, and it is lost again.
    obtain ⟨cs', filed', after', _, hcs, hend, rfl⟩ := run_bind_eq_ok.mp hrun
    cases hend
    have hready := LookupM.Replays.extends hreplays hmiddle.caching hfails
    have hafter := ((growing_start fuel).baseConstraints cs id none rfl).extends hready.caching hcs
    have hagain : Lookup.signatureExpr fuel env compiled after = (.error (.fault error), after) :=
      Lookup.signatureExpr_again hmiddle.caching hfails (LookupM.not_refused_of_soft hsoft) hafter
    rw [Lookup.signatureExpr_constrained, LookupM.bind_apply, hagain] at hexpand
    cases hexpand

end SignatureExpr

def Pass.AppliesAll (p : Pass) (env : Env) (id : Identifier) (cs : List Constraint)
    (base : SignatureExpr) (loads : Loads) : Prop :=
  ∃ compiled filed middle start ready rounds sig after,
    (base.pass p env id).run loads = (.ok (compiled, filed), middle) ∧
    Lookup.signatureExpr p.fuel env compiled middle = (.ok start, ready) ∧
    p.Rounds env id start ready cs rounds sig after ∧ AllApplied rounds

section Nesting

variable {fuel : Nat} {env : Env} {id : Identifier} {first second : List Constraint}
  {base compiled : SignatureExpr} {start middle sig : Signature} {rounds rounds' : List Round}
  {filed : List Report} {loads based ready between after : Loads} (hcaching : loads.caching = true)
  (hbase : (base.pass (.start fuel) env id).run loads = (.ok (compiled, filed), based))
  (hstart : Lookup.signatureExpr fuel env compiled based = (.ok start, ready))
  (hfirst : (Pass.start fuel).Rounds env id start ready first rounds middle between)
  (hsecond : (Pass.start fuel).Rounds env id middle between second rounds' sig after)
  (happlied : AllApplied rounds) (happlied' : AllApplied rounds')

include hcaching hbase hstart hfirst hsecond happlied happlied'

theorem ModuleTypeExpr.pass_flat :
    ((constrained (first ++ second) base none).pass (.start fuel) env id).run loads =
        (.ok (ofConstraints true ((rounds ++ rounds').map (·.constraint)) compiled sig,
          filed ++ (rounds ++ rounds').flatMap (·.reports)), after) ∧
      Lookup.moduleTypeExpr fuel env
          (ofConstraints true ((rounds ++ rounds').map (·.constraint)) compiled sig) after =
        (.ok (.signature sig), after) := by
  have hrounds := hfirst.append hsecond
  have hall : AllApplied (rounds ++ rounds') :=
    List.forall_mem_append.mpr ⟨happlied, happlied'⟩
  refine ⟨?_, hrounds.expansion hcaching hbase hstart hall⟩
  rw [pass_constrained hbase hstart, hrounds.passConstraints hall]
  rfl

theorem ModuleTypeExpr.pass_nested :
    ((constrained second (.constrained first base) none).pass (.start fuel) env id).run loads =
        (.ok (ofConstraints true (rounds'.map (·.constraint))
            (.constrained (rounds.map (·.constraint)) compiled) sig,
          filed ++ (rounds ++ rounds').flatMap (·.reports)), after) ∧
      Lookup.moduleTypeExpr fuel env
          (ofConstraints true (rounds'.map (·.constraint))
            (.constrained (rounds.map (·.constraint)) compiled) sig) after =
        (.ok (.signature sig), after) := by
  obtain ⟨hbase', hstart'⟩ :=
    SignatureExpr.pass_constrained_of_rounds hcaching hbase hstart hfirst happlied
  refine ⟨?_, hsecond.expansion hcaching hbase' hstart' happlied'⟩
  rw [pass_constrained hbase' hstart', hsecond.passConstraints happlied']
  simp [Except.map]

end Nesting

/-- Constraints in two lists, one below the other, mean the same as in one list. When every
constraint is applied both forms file the same reports, both or neither are written out, and they
expand to the same signature. When the nested form is written out so is the flat one, as the same
signature. -/
theorem pass_nested_agrees_with_flat {fuel : Nat} {env : Env} {id : Identifier}
    {first second : List Constraint} {base : SignatureExpr} {loads : Loads}
    (hcaching : loads.caching = true) :
    ((Pass.start fuel).AppliesAll env id (first ++ second) base loads →
      ∃ flat nested reports sig after,
        ((ModuleTypeExpr.constrained (first ++ second) base none).pass
          (.start fuel) env id).run loads = (.ok (flat, reports), after) ∧
        ((ModuleTypeExpr.constrained second (.constrained first base) none).pass
          (.start fuel) env id).run loads = (.ok (nested, reports), after) ∧
        ((∃ out, flat = .signature out ∧ nested = .signature out) ∨
          ∃ cs b cs' b', flat = .constrained cs b none ∧ nested = .constrained cs' b' none) ∧
        Lookup.moduleTypeExpr fuel env flat after = (.ok (.signature sig), after) ∧
        Lookup.moduleTypeExpr fuel env nested after = (.ok (.signature sig), after)) ∧
    ∀ out reports after,
      ((ModuleTypeExpr.constrained second (.constrained first base) none).pass
        (.start fuel) env id).run loads = (.ok (.signature out, reports), after) →
      ((ModuleTypeExpr.constrained (first ++ second) base none).pass
        (.start fuel) env id).run loads = (.ok (.signature out, reports), after) := by
  constructor
  · rintro ⟨compiled, filed, based, start, ready, rounds, sig, after, hbase, hstart, hrounds, hall⟩
    obtain ⟨one, two, middle, between, rfl, hfirst, hsecond⟩ := hrounds.split
    obtain ⟨happlied, happlied'⟩ := List.forall_mem_append.mp hall
    obtain ⟨hflat, hflatExpands⟩ :=
      ModuleTypeExpr.pass_flat hcaching hbase hstart hfirst hsecond happlied happlied'
    obtain ⟨hnested, hnestedExpands⟩ :=
      ModuleTypeExpr.pass_nested hcaching hbase hstart hfirst hsecond happlied happlied'
    refine ⟨_, _, _, sig, after, hflat, hnested, ?_, hflatExpands, hnestedExpands⟩
    cases hnormal : compiled.hasLiteralRoot && sig.unresolvedCount == 0 <;>
      simp [ModuleTypeExpr.ofConstraints, SignatureExpr.hasLiteralRoot, hnormal]
  · intro out reports after hrun
    have hparts := hrun
    rw [ModuleTypeExpr.pass, run_bind_eq_ok] at hparts
    obtain ⟨expr, filed', between, more, hbase', hparts, -⟩ := hparts
    rw [run_attempt_bind_eq_ok] at hparts
    rcases hparts with ⟨middle, between', hstart', -⟩ | ⟨error, _, -, -, hparts⟩
    · obtain ⟨compiled, filed, based, start, ready, rounds, hbase, hstart, hfirst, happlied, rfl,
        rfl, rfl⟩ := SignatureExpr.rounds_of_pass_constrained hcaching hbase' hstart'
      rw [ModuleTypeExpr.pass_constrained hbase' hstart'] at hrun
      rcases hcs : (passConstraints (.start fuel) env id middle second).run between' with
        ⟨error | ⟨⟨cs', sig, applied⟩, more⟩, last⟩ <;> rw [hcs] at hrun
      · cases hrun
      · simp only [Except.map, Prod.mk.injEq, Except.ok.injEq] at hrun
        obtain ⟨⟨hform, rfl⟩, rfl⟩ := hrun
        obtain ⟨rounds', hsecond, rfl, hflag, rfl⟩ := Pass.rounds_of_passConstraints hcs
        obtain ⟨rfl, -, -⟩ := ModuleTypeExpr.ofConstraints_isSignature.mp ⟨out, hform⟩
        obtain ⟨hflat, -⟩ := ModuleTypeExpr.pass_flat hcaching hbase hstart hfirst hsecond happlied
          (hflag.mp rfl)
        have hsame : ModuleTypeExpr.ofConstraints true ((rounds ++ rounds').map (·.constraint))
            compiled sig = .signature out := ModuleTypeExpr.ofConstraints_same_root hform rfl
        rw [hflat, hsame, List.flatMap_append, List.append_assoc]
    · cases hparts

theorem pass_nested_agrees_with_flat_intFor :
    (Pass.start 1).AppliesAll .empty ((Identifier.root "A").child .moduleType "S")
        ([.intFor "t"] ++ [.intFor "u"])
        (.signature (.valueAfter [.type (.member "t"), .type (.member "u")] (.root "t") false)) {} ∧
      ((ModuleTypeExpr.constrained ([.intFor "t"] ++ [.intFor "u"])
          (.signature (.valueAfter [.type (.member "t"), .type (.member "u")] (.root "t") false))
          none).pass (.start 1) .empty ((Identifier.root "A").child .moduleType "S")).run {} =
        (.ok (.signature (.valueAfter [] (.ofIdentifier (.coreType "int")) true), []), {}) := by
  constructor
  · refine ⟨_, _, _, _, _, _, _, _, rfl, rfl, .applied rfl rfl rfl (.applied rfl rfl rfl .nil), ?_⟩
    simp [AllApplied]
  · exact (pass_nested_agrees_with_flat rfl).2 _ _ _ rfl

end CrossRef
