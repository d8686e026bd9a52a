import CrossRef.Proofs.Compile.Correspondence
import CrossRef.Proofs.Compile.Refinement
import CrossRef.Proofs.Lookup.Replay
import CrossRef.Proofs.Signature.Leaves

/-! Constraint lists. The pass applies the constraints of a list one after another and goes on after
a failure; an expansion applies them too and stops at the first one. Expanding what the pass has
made of a list comes to what the pass itself has come to. -/

namespace CrossRef

open PassM

namespace PassM

variable {α β : Type} {loads after : Loads} {reports : List Report}

def Grows (x : PassM α) : Prop :=
  ∀ loads : Loads, loads.caching = true → loads.Extends (x.run loads).2

theorem Grows.bind {x : PassM α} {f : α → PassM β} (hx : x.Grows) (hf : ∀ a, (f a).Grows) :
    (x >>= f).Grows := by
  intro loads h
  have hgrown := hx loads h
  rcases hrun : x.run loads with ⟨error | ⟨a, filed⟩, middle⟩ <;> rw [hrun] at hgrown
  · rw [run_bind_error hrun]
    exact hgrown
  · rw [run_bind_ok hrun]
    exact hgrown.trans (hf a middle hgrown.caching)

theorem Grows.attempt {x : LookupM α} {f : Except ResolveError α → PassM β} (hx : x.Replays)
    (hok : ∀ a, (f (.ok a)).Grows)
    (herror : ∀ error, error.fetch? = none → (f (.error error)).Grows) :
    (attempt x >>= f).Grows := by
  intro loads h
  obtain ⟨hgrown, -⟩ := hx loads h
  rw [run_attempt_bind]
  rcases hrun : x loads with ⟨(error | _) | a, middle⟩ <;> rw [hrun] at hgrown
  · cases hsoft : error.fetch? with
    | some e => simpa only [hsoft] using hgrown
    | none =>
      simp only [hsoft]
      exact hgrown.trans (herror error hsoft middle hgrown.caching)
  · exact hgrown
  · exact hgrown.trans (hok a middle hgrown.caching)

theorem Grows.quietly {x : PassM α} (hx : x.Grows) : x.quietly.Grows := by
  intro loads h
  have hgrown := hx loads h
  rw [run] at hgrown ⊢
  rw [PassM.quietly]
  rcases hrun : x loads with ⟨error | ⟨a, filed⟩, middle⟩ <;> rw [hrun] at hgrown <;> exact hgrown

def growing : PassRel where
  lookups := LookupM.replaying
  rel x _ := x.Grows
  rel_pure _ _ h := .refl h
  rel_bind := Grows.bind
  rel_attempt := Grows.attempt
  rel_file _ _ _ h := .refl h
  rel_quietly := Grows.quietly

theorem growing_start (fuel : Nat) : growing.PassesRel (.start fuel) (.start fuel) where
  fuel := LookupM.replaying_fuel fuel
  splice he sig := PassRel.compile_rel LookupM.replaying_fuel (fun _ h => .refl h) fuel he sig

theorem Grows.extends {x : PassM α} (hx : x.Grows) (h : loads.caching = true)
    {a : α} (hrun : x.run loads = (.ok (a, reports), after)) : loads.Extends after := by
  have hgrown := hx loads h
  rwa [hrun] at hgrown

end PassM

namespace Steps

variable (s : Steps) (env : Env) {c : Constraint}

def constrainOne (c : Constraint) (sig : Signature) : LookupM Signature := do
  let resolved ← s.resolveFragment (env.addFragmentRoot sig) c
  s.constrain env resolved sig

theorem constrainAll_cons (c : Constraint) (cs : List Constraint) (sig : Signature) :
    s.constrainAll env (c :: cs) sig = s.constrainOne env c sig >>= s.constrainAll env cs := by
  rw [constrainAll, constrainOne, bind_assoc]

theorem constrainOne_resolved (h : c.fragment.isResolved = true) (sig : Signature) :
    s.constrainOne env c sig = s.constrain env c sig := by
  obtain ⟨resolved, hresolved⟩ := Option.isSome_iff_exists.mp h
  have hc : c.withFragment (.resolved resolved) = c := by
    have hf : ∀ f : Fragment, f.resolved? = some resolved → f = .resolved resolved := by
      rintro (f | _ | _) hf <;> cases hf
      rfl
    cases c <;> exact congrArg₂ _ (hf _ hresolved).symm rfl
  rw [constrainOne, resolveFragment_eq, fragment, hresolved]
  simp only [LookupM.orFail, LookupM.result?]
  show (pure (c.withFragment (.resolved resolved)) >>= fun c => s.constrain env c sig) = _
  rw [hc, pure_bind]

end Steps

namespace Constraint

def passBody (p : Pass) (env : Env) (id : Identifier) : Constraint → PassM Constraint
  | moduleEq f decl => do return moduleEq f (← decl.pass p env id)
  | moduleSubst f path => do return moduleSubst f (← Pass.resolve p.fuel env .module path)
  | typeEq f eq => do return typeEq f (← eq.compile p.fuel env id)
  | typeSubst f eq => do return typeSubst f (← eq.compile p.fuel env id)

theorem pass_eq (p : Pass) (env : Env) (id : Identifier) (root : Option Signature)
    (c : Constraint) :
    c.pass p env id root = (do
      let fragment ← p.constraintFragment env root c
      (c.withFragment fragment).passBody p env id) := by
  cases c <;> rw [pass] <;> rfl

theorem fragment_withFragment (c : Constraint) (f : Fragment) :
    (c.withFragment f).fragment = f := by
  cases c <;> rfl

theorem space_withFragment (c : Constraint) (f : Fragment) :
    (c.withFragment f).space = c.space := by
  cases c <;> rfl

theorem passBody_yields (p : Pass) (env : Env) (id : Identifier) (c : Constraint) :
    (c.passBody p env id).Yields fun out => out.fragment = c.fragment ∧ out.space = c.space := by
  cases c <;> exact (yields_true _).bind fun _ _ => ensures_pure ⟨rfl, rfl⟩

theorem passBody_grows (fuel : Nat) (env : Env) (id : Identifier) (c : Constraint) :
    (c.passBody (.start fuel) env id).Grows := by
  have start := growing_start fuel
  cases c with
  | moduleEq f decl => exact (start.moduleDecl decl id rfl).bind fun _ _ h => .refl h
  | moduleSubst f path =>
    have hpath : (Pass.resolve fuel env .module path).Grows :=
      PassRel.resolve (R := growing) start.fuel rfl .module path
    exact hpath.bind fun _ _ h => .refl h
  | typeEq f eq =>
    have heq : (eq.compile fuel env id).Grows :=
      PassRel.typeEquation (R := growing) start.fuel rfl id eq
    exact heq.bind fun _ _ h => .refl h
  | typeSubst f eq =>
    have heq : (eq.compile fuel env id).Grows :=
      PassRel.typeEquation (R := growing) start.fuel rfl id eq
    exact heq.bind fun _ _ h => .refl h

end Constraint

section Again

variable {fuel : Nat} {env : Env} {id : Identifier} {sig : Signature} {c c' : Constraint}
  {inner : List Report} {loads middle : Loads}

theorem Constraint.pass_unresolved (hcaching : loads.caching = true)
    (hpass : (c.pass (.start fuel) env id (some sig)).run loads = (.ok (c', inner), middle))
    (hunresolved : c'.fragment.isResolved = false) {later : Loads}
    (hlater : middle.Extends later) :
    (Steps.start fuel env).constrainOne env c' sig later =
      (.error (.fault c'.missing), later) := by
  rw [Constraint.pass_eq, run_bind_eq_ok] at hpass
  obtain ⟨fragment, filed, found, more, hfragment, hbody, -⟩ := hpass
  obtain ⟨-, hkeeps, hspace⟩ := passBody_yields _ _ _ _ _ trivial _ _ _ hbody
  rw [Constraint.fragment_withFragment] at hkeeps
  rw [Constraint.space_withFragment] at hspace
  have hfound : loads.Extends found :=
    ((growing_start fuel).constraintFragment rfl (some sig) c).extends hcaching hfragment
  have hmiddle : found.Extends middle := (passBody_grows fuel env id _).extends hfound.caching hbody
  rw [Pass.constraintFragment, run_attempt?_bind_eq_ok] at hfragment
  rcases hfragment with ⟨resolved, state, hlookup, hrun⟩ | ⟨error, state, hsoft, hlookup, hrun⟩
  · cases hrun
    rw [hkeeps] at hunresolved
    cases hunresolved
  · cases hrun
    have hreplays := (LookupM.replaying_fuel fuel).fragment (e := env.addFragmentRoot sig) rfl
      rfl c.space c.fragment
    have hfails : (Steps.start fuel env).fragment (env.addFragmentRoot sig) c'.space c'.fragment
        later = (.error (.fault error), later) := by
      rw [hspace, hkeeps]
      exact LookupM.Replays.again hreplays hcaching hlookup (LookupM.not_refused_of_soft hsoft)
        (hmiddle.trans hlater)
    rw [Steps.constrainOne, Steps.resolveFragment_eq, bind_assoc, LookupM.bind_apply,
      LookupM.orFail_apply, hfails]
    simp only [hsoft]

theorem Lookup.signatureExpr_again {expr : SignatureExpr} {outcome : Except Halt Signature}
    {ready : Loads} (hcaching : loads.caching = true)
    (hexpand : Lookup.signatureExpr fuel env expr loads = (outcome, ready))
    (hgoes : ¬ LookupM.Refused outcome) {later : Loads} (hlater : ready.Extends later) :
    Lookup.signatureExpr fuel env expr later = (outcome, later) :=
  LookupM.Replays.again ((LookupM.replaying_fuel fuel).signatureExpr rfl expr) hcaching hexpand
    hgoes hlater

end Again

namespace Pass

/-- Why a constraint with a compiled right-hand side is not applied: its fragment names nothing, or
the change it stands for fails. -/
def Inapplicable (p : Pass) (env : Env) (c : Constraint) (sig : Signature) (loads after : Loads) :
    Prop :=
  c.fragment.isResolved = false ∧ after = loads ∨
    ∃ error, error.fetch? = none ∧
      Lookup.constrain p.fuel env c sig loads = (.error (.fault error), after)

theorem applyConstraint_eq_ok {p : Pass} {env : Env} {id : Identifier} {c : Constraint}
    {sig next : Signature} {applied : Bool} {own : List Report} {loads after : Loads}
    (h : (p.applyConstraint env id c sig).run loads = (.ok ((next, applied), own), after)) :
    (applied = true ∧ own = [] ∧ c.fragment.isResolved = true ∧
      Lookup.constrain p.fuel env c sig loads = (.ok next, after)) ∨
    (applied = false ∧ next = sig ∧ (∃ report, own = [report]) ∧
      p.Inapplicable env c sig loads after) := by
  rw [applyConstraint] at h
  split at h
  case isTrue hresolved =>
    rw [run_attempt_bind_eq_ok] at h
    rcases h with ⟨found, middle, hlookup, hrun⟩ | ⟨error, middle, hsoft, hlookup, hrun⟩
    · cases hrun
      exact .inl ⟨rfl, rfl, hresolved, hlookup⟩
    · cases hrun
      exact .inr ⟨rfl, rfl, ⟨_, rfl⟩, .inr ⟨error, hsoft, hlookup⟩⟩
  case isFalse hresolved =>
    cases h
    exact .inr ⟨rfl, rfl, ⟨_, rfl⟩, .inl ⟨Bool.eq_false_iff.mpr hresolved, rfl⟩⟩

theorem applyConstraint_applied {p : Pass} {env : Env} {id : Identifier} {c : Constraint}
    {sig next : Signature} {loads after : Loads} (hresolved : c.fragment.isResolved = true)
    (happly : Lookup.constrain p.fuel env c sig loads = (.ok next, after)) :
    (p.applyConstraint env id c sig).run loads = (.ok ((next, true), []), after) := by
  rw [applyConstraint, if_pos hresolved, run_attempt_bind, happly]
  rfl

end Pass

structure Round where
  constraint : Constraint
  inner : List Report
  own : Option Report

namespace Round

def reports (round : Round) : List Report := round.inner ++ round.own.toList

end Round

/-- The loop over a constraint list, one round a constraint. A constraint that cannot be applied is
reported and leaves the signature to the next round as it is. -/
inductive Pass.Rounds (p : Pass) (env : Env) (id : Identifier) :
    Signature → Loads → List Constraint → List Round → Signature → Loads → Prop
  | nil {sig : Signature} {loads : Loads} : Rounds p env id sig loads [] [] sig loads
  | applied {sig next last : Signature} {loads middle ready after : Loads} {c c' : Constraint}
      {inner : List Report} {cs : List Constraint} {rounds : List Round} :
      (c.pass p env id (some sig)).run loads = (.ok (c', inner), middle) →
      c'.fragment.isResolved = true →
      Lookup.constrain p.fuel env c' sig middle = (.ok next, ready) →
      Rounds p env id next ready cs rounds last after →
      Rounds p env id sig loads (c :: cs) (⟨c', inner, none⟩ :: rounds) last after
  | reported {sig last : Signature} {loads middle ready after : Loads} {c c' : Constraint}
      {inner : List Report} {report : Report} {cs : List Constraint} {rounds : List Round} :
      (c.pass p env id (some sig)).run loads = (.ok (c', inner), middle) →
      (p.applyConstraint env id c' sig).run middle = (.ok ((sig, false), [report]), ready) →
      Rounds p env id sig ready cs rounds last after →
      Rounds p env id sig loads (c :: cs) (⟨c', inner, some report⟩ :: rounds) last after

def AllApplied (rounds : List Round) : Prop := ∀ round ∈ rounds, round.own = none

theorem allApplied_cons {round : Round} {rounds : List Round} :
    AllApplied (round :: rounds) ↔ round.own = none ∧ AllApplied rounds := by
  simp [AllApplied]

namespace Pass

variable {p : Pass} {env : Env} {id : Identifier}

theorem rounds_of_passConstraints {sig last : Signature} {loads after : Loads}
    {cs compiled : List Constraint} {allApplied : Bool} {reports : List Report}
    (h : (passConstraints p env id sig cs).run loads =
      (.ok ((compiled, last, allApplied), reports), after)) :
    ∃ rounds, p.Rounds env id sig loads cs rounds last after ∧
      compiled = rounds.map (·.constraint) ∧ (allApplied = true ↔ AllApplied rounds) ∧
      reports = rounds.flatMap (·.reports) := by
  induction cs generalizing sig loads compiled allApplied reports with
  | nil =>
    cases h
    exact ⟨[], .nil, rfl, by simp [AllApplied], rfl⟩
  | cons c cs ih =>
    rw [passConstraints, run_bind_eq_ok] at h
    obtain ⟨c', inner, middle, rest, hpass, h, rfl⟩ := h
    rw [run_bind_eq_ok] at h
    obtain ⟨⟨next, applied⟩, own, ready, rest, happly, h, rfl⟩ := h
    rw [run_bind_eq_ok] at h
    obtain ⟨⟨compiled', last', allApplied'⟩, later, final, rest, hcs, h, rfl⟩ := h
    cases h
    obtain ⟨rounds, hrounds, rfl, hflag, rfl⟩ := ih hcs
    rcases applyConstraint_eq_ok happly with
      ⟨rfl, rfl, hresolved, hconstrain⟩ | ⟨rfl, rfl, ⟨report, rfl⟩, -⟩
    · refine ⟨_, .applied hpass hresolved hconstrain hrounds, rfl, ?_, by simp [Round.reports]⟩
      simp [allApplied_cons, hflag]
    · refine ⟨_, .reported hpass happly hrounds, rfl, ?_, by simp [Round.reports]⟩
      simp [allApplied_cons]

theorem Rounds.passConstraints {sig last : Signature} {loads after : Loads}
    {cs : List Constraint} {rounds : List Round}
    (h : p.Rounds env id sig loads cs rounds last after)
    (happlied : AllApplied rounds) :
    (passConstraints p env id sig cs).run loads =
      (.ok ((rounds.map (·.constraint), last, true), rounds.flatMap (·.reports)), after) := by
  induction h with
  | nil => rfl
  | applied hpass hresolved hconstrain _ ih =>
    have hrest := ih (allApplied_cons.mp happlied).2
    rw [CrossRef.passConstraints, run_bind_ok hpass,
      run_bind_ok (applyConstraint_applied hresolved hconstrain), run_bind_ok hrest]
    simp [Except.map, Round.reports]
  | reported => cases (allApplied_cons.mp happlied).1

theorem Rounds.append {sig middle last : Signature} {loads ready after : Loads}
    {cs cs' : List Constraint} {rounds rounds' : List Round}
    (h : p.Rounds env id sig loads cs rounds middle ready)
    (h' : p.Rounds env id middle ready cs' rounds' last after) :
    p.Rounds env id sig loads (cs ++ cs') (rounds ++ rounds') last after := by
  induction h with
  | nil => exact h'
  | applied hpass hresolved hconstrain _ ih => exact .applied hpass hresolved hconstrain (ih h')
  | reported hpass hreport _ ih => exact .reported hpass hreport (ih h')

theorem Rounds.split {sig last : Signature} {loads after : Loads} {cs cs' : List Constraint}
    {rounds : List Round} (h : p.Rounds env id sig loads (cs ++ cs') rounds last after) :
    ∃ first second middle ready, rounds = first ++ second ∧
      p.Rounds env id sig loads cs first middle ready ∧
      p.Rounds env id middle ready cs' second last after := by
  induction cs generalizing sig loads rounds with
  | nil => exact ⟨[], rounds, sig, loads, rfl, .nil, h⟩
  | cons c cs ih =>
    cases h with
    | applied hpass hresolved hconstrain hrest =>
      obtain ⟨first, second, middle, ready, rfl, hfirst, hsecond⟩ := ih hrest
      exact ⟨_, second, middle, ready, rfl, .applied hpass hresolved hconstrain hfirst, hsecond⟩
    | reported hpass hreport hrest =>
      obtain ⟨first, second, middle, ready, rfl, hfirst, hsecond⟩ := ih hrest
      exact ⟨_, second, middle, ready, rfl, .reported hpass hreport hfirst, hsecond⟩

end Pass

section Round

variable {fuel : Nat} {env : Env} {id : Identifier} {sig next : Signature} {c c' : Constraint}
  {inner : List Report} {loads middle ready : Loads} (hcaching : loads.caching = true)
  (hpass : (c.pass (.start fuel) env id (some sig)).run loads = (.ok (c', inner), middle))

include hcaching hpass

theorem Pass.applied_again
    (happly : Lookup.constrain fuel env c' sig middle = (.ok next, ready)) :
    loads.Extends ready ∧ ∀ later, ready.Extends later →
      Lookup.constrain fuel env c' sig later = (.ok next, later) := by
  have hmiddle := ((growing_start fuel).constraint_rel c id (some sig) rfl).extends hcaching hpass
  have hreplays := (LookupM.replaying_fuel fuel).constrain (e := env) rfl c' sig
  have hready := LookupM.Replays.extends hreplays hmiddle.caching happly
  exact ⟨hmiddle.trans hready, fun later hlater =>
    LookupM.Replays.again hreplays hmiddle.caching happly not_false hlater⟩

theorem Pass.inapplicable_again (h : (Pass.start fuel).Inapplicable env c' sig middle ready) :
    loads.Extends ready ∧ ∀ later, ready.Extends later →
      ∃ error, (Steps.start fuel env).constrainOne env c' sig later =
        (.error (.fault error), later) := by
  have hmiddle := ((growing_start fuel).constraint_rel c id (some sig) rfl).extends hcaching hpass
  have hreplays := (LookupM.replaying_fuel fuel).constrain (e := env) rfl c' sig
  have hready : middle.Extends ready := by
    rcases h with ⟨-, rfl⟩ | ⟨error, -, hfails⟩
    · exact .refl hmiddle.caching
    · exact LookupM.Replays.extends hreplays hmiddle.caching hfails
  refine ⟨hmiddle.trans hready, fun later hlater => ?_⟩
  cases hresolved : c'.fragment.isResolved with
  | false =>
    exact ⟨_, Constraint.pass_unresolved hcaching hpass hresolved (hready.trans hlater)⟩
  | true =>
    rcases h with ⟨hunresolved, -⟩ | ⟨error, hsoft, hfails⟩
    · rw [hresolved] at hunresolved
      cases hunresolved
    · rw [Steps.constrainOne_resolved _ _ hresolved]
      exact ⟨error, LookupM.Replays.again hreplays hmiddle.caching hfails
        (LookupM.not_refused_of_soft hsoft) hlater⟩

end Round

namespace Pass.Rounds

variable {fuel : Nat} {env : Env} {id : Identifier} {sig last : Signature} {loads after : Loads}
  {cs : List Constraint} {rounds : List Round}
  (h : (Pass.start fuel).Rounds env id sig loads cs rounds last after)
  (hcaching : loads.caching = true)

include h hcaching

theorem grows : loads.Extends after := by
  induction h with
  | nil => exact .refl hcaching
  | applied hpass _ happly _ ih =>
    obtain ⟨hready, -⟩ := applied_again hcaching hpass happly
    exact hready.trans (ih hready.caching)
  | reported hpass hreport _ ih =>
    obtain ⟨⟨⟩, -⟩ | ⟨-, -, -, hinapplicable⟩ := applyConstraint_eq_ok hreport
    obtain ⟨hready, -⟩ := inapplicable_again hcaching hpass hinapplicable
    exact hready.trans (ih hready.caching)

theorem fold (happlied : AllApplied rounds) {later : Loads} (hlater : after.Extends later) :
    (rounds.map (·.constraint)).foldlM (fun sig c => Lookup.constrain fuel env c sig) sig later =
      (.ok last, later) := by
  induction h with
  | nil => rfl
  | applied hpass _ happly hrest ih =>
    obtain ⟨hready, hagain⟩ := applied_again hcaching hpass happly
    have hafter := hrest.grows hready.caching
    rw [List.map_cons, List.foldlM_cons, LookupM.bind_apply, hagain later (hafter.trans hlater)]
    exact ih hready.caching (allApplied_cons.mp happlied).2 hlater
  | reported => cases (allApplied_cons.mp happlied).1

theorem expands (happlied : AllApplied rounds) {later : Loads} (hlater : after.Extends later) :
    (Steps.start fuel env).constrainAll env (rounds.map (·.constraint)) sig later =
      (.ok last, later) := by
  induction h with
  | nil => rfl
  | applied hpass hresolved happly hrest ih =>
    obtain ⟨hready, hagain⟩ := applied_again hcaching hpass happly
    have hafter := hrest.grows hready.caching
    have hone := hagain later (hafter.trans hlater)
    rw [Lookup.constrain] at hone
    rw [List.map_cons, Steps.constrainAll_cons, LookupM.bind_apply,
      Steps.constrainOne_resolved _ _ hresolved, hone]
    exact ih hready.caching (allApplied_cons.mp happlied).2 hlater
  | reported => cases (allApplied_cons.mp happlied).1

theorem stops (hmissed : ¬ AllApplied rounds) {later : Loads} (hlater : after.Extends later) :
    ∃ error, (Steps.start fuel env).constrainAll env (rounds.map (·.constraint)) sig later =
      (.error (.fault error), later) := by
  induction h with
  | nil => exact absurd (by simp [AllApplied]) hmissed
  | applied hpass hresolved happly hrest ih =>
    obtain ⟨hready, hagain⟩ := applied_again hcaching hpass happly
    have hafter := hrest.grows hready.caching
    have hone := hagain later (hafter.trans hlater)
    rw [Lookup.constrain] at hone
    rw [List.map_cons, Steps.constrainAll_cons, LookupM.bind_apply,
      Steps.constrainOne_resolved _ _ hresolved, hone]
    exact ih hready.caching (fun hall => hmissed (allApplied_cons.mpr ⟨rfl, hall⟩)) hlater
  | reported hpass hreport hrest _ =>
    obtain ⟨⟨⟩, -⟩ | ⟨-, -, -, hinapplicable⟩ := applyConstraint_eq_ok hreport
    obtain ⟨hready, hagain⟩ := inapplicable_again hcaching hpass hinapplicable
    obtain ⟨error, herror⟩ := hagain later ((hrest.grows hready.caching).trans hlater)
    refine ⟨error, ?_⟩
    rw [List.map_cons, Steps.constrainAll_cons, LookupM.bind_apply, herror]

end Pass.Rounds

end CrossRef
