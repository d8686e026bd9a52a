import CrossRef.Proofs.Lookup.Correspondence

/-! Lookups made again. A run keeps the units it has loaded. A lookup that is repeated later in the
same run therefore asks for nothing and comes to the same end, whatever the resolver would answer by
then. -/

namespace CrossRef

namespace Loads

structure Extends (before after : Loads) : Prop where
  caching : after.caching = true
  units : ∀ root unit, before.unit? root = some unit → after.unit? root = some unit

theorem Extends.refl {loads : Loads} (h : loads.caching = true) : loads.Extends loads :=
  ⟨h, fun _ _ hunit => hunit⟩

theorem Extends.trans {first second third : Loads} (h : first.Extends second)
    (h' : second.Extends third) : first.Extends third :=
  ⟨h'.caching, fun root unit hunit => h'.units root unit (h.units root unit hunit)⟩

theorem extends_request {loads : Loads} (h : loads.caching = true) (r : Resolver)
    {root : Identifier} (hmissing : loads.unit? root = none) :
    loads.Extends (loads.request r root).2 ∧
      ∀ unit, (loads.request r root).1 = .ok unit →
        (loads.request r root).2.unit? root = some unit := by
  rw [request]
  cases r.loadUnit loads.requests root with
  | error error =>
    refine ⟨⟨h, fun _ _ hunit => hunit⟩, ?_⟩
    rintro unit ⟨⟩
  | ok loaded =>
    simp only [h, if_true]
    refine ⟨⟨rfl, fun other unit hunit => ?_⟩, ?_⟩
    · have hother : (other == root) = false := by
        rw [beq_eq_false_iff_ne]
        rintro rfl
        rw [hmissing] at hunit
        cases hunit
      rw [unit?, List.lookup_cons, hother]
      exact hunit
    · rintro unit ⟨⟩
      rw [unit?, List.lookup_cons, beq_self_eq_true]

end Loads

namespace Env

variable {e : Env} {root : Identifier} {loads : Loads}

theorem fetch_eq (e : Env) (root : Identifier) (loads : Loads) :
    e.fetch root loads =
      match e.knownUnit? root loads, e.resolver with
      | some unit, _ => (.ok unit, loads)
      | none, some r =>
        ((loads.request r root).1.mapError fun error => .fault (.fetch error),
          (loads.request r root).2)
      | none, none => (.error (.fault (.fetch (.unitNotFound root.name))), loads) := by
  have hunit : e.unit root loads =
      match e.knownUnit? root loads, e.resolver with
      | some unit, _ => (.ok unit, loads)
      | none, some r => loads.request r root
      | none, none => (.error (.unitNotFound root.name), loads) := by
    rw [Env.unit, knownUnit?]
    rcases e.lookupById root with _ | component
    · cases loads.unit? root <;> cases e.resolver <;> rfl
    · cases component <;> cases loads.unit? root <;> cases e.resolver <;> rfl
  rw [fetch, hunit]
  cases e.knownUnit? root loads with
  | some unit => rfl
  | none =>
    cases e.resolver with
    | none => rfl
    | some r =>
      simp only
      rcases loads.request r root with ⟨error | unit, after⟩ <;> rfl

theorem fetch_known {unit : CompilationUnit} (h : e.knownUnit? root loads = some unit) :
    e.fetch root loads = (.ok unit, loads) := by
  rw [fetch_eq, h]

theorem knownUnit?_extends {later : Loads} (h : loads.Extends later) {unit : CompilationUnit}
    (hknown : e.knownUnit? root loads = some unit) : e.knownUnit? root later = some unit := by
  rw [knownUnit?, Option.or_eq_some_iff] at hknown ⊢
  exact hknown.imp_right fun hkept => ⟨hkept.1, h.units root unit hkept.2⟩

end Env

namespace LookupM

variable {α β : Type}

def Refused : Except Halt α → Prop
  | .error (.fault error) => error.fetch?.isSome
  | _ => False

/-- Unless it was stopped, the lookup comes to the same end when it is repeated at any later time,
and then it loads nothing. -/
def Replays (x : LookupM α) : Prop :=
  ∀ loads, loads.caching = true →
    loads.Extends (x loads).2 ∧
      ∀ later, (x loads).2.Extends later → ¬ Refused (x loads).1 → x later = ((x loads).1, later)

theorem Replays.extends {x : LookupM α} (hx : x.Replays) {loads after : Loads}
    (h : loads.caching = true) {outcome : Except Halt α} (hrun : x loads = (outcome, after)) :
    loads.Extends after := by
  have hgrown := (hx loads h).1
  rwa [hrun] at hgrown

theorem Replays.again {x : LookupM α} (hx : x.Replays) {loads after later : Loads}
    (h : loads.caching = true) {outcome : Except Halt α} (hrun : x loads = (outcome, after))
    (hgoes : ¬ Refused outcome) (hlater : after.Extends later) : x later = (outcome, later) := by
  have hagain := (hx loads h).2 later
  rw [hrun] at hagain
  exact hagain hlater hgoes

theorem not_refused_of_soft {error : ResolveError} (h : error.fetch? = none) :
    ¬ Refused (.error (.fault error) : Except Halt α) := by
  simp [Refused, h]

theorem replays_pure (a : α) : (pure a : LookupM α).Replays :=
  fun _ h => ⟨.refl h, fun _ _ _ => rfl⟩

theorem replays_throw (halt : Halt) : (throw halt : LookupM α).Replays :=
  fun _ h => ⟨.refl h, fun _ _ _ => rfl⟩

theorem Replays.bind {x : LookupM α} {f : α → LookupM β} (hx : x.Replays)
    (hf : ∀ a, (f a).Replays) : (x >>= f).Replays := by
  intro loads h
  obtain ⟨hgrown, hagain⟩ := hx loads h
  rcases hrun : x loads with ⟨halt | a, middle⟩ <;> rw [hrun] at hgrown hagain
  · simp only [bind_apply, hrun]
    refine ⟨hgrown, fun later hlater hgoes => ?_⟩
    have hhalt : ¬ Refused (.error halt : Except Halt α) := by
      cases halt <;> exact hgoes
    rw [hagain later hlater hhalt]
  · simp only [bind_apply, hrun]
    obtain ⟨hgrown', hagain'⟩ := hf a middle hgrown.caching
    refine ⟨hgrown.trans hgrown', fun later hlater hgoes => ?_⟩
    rw [hagain later (hgrown'.trans hlater) not_false]
    exact hagain' later hlater hgoes

theorem Replays.orFail {x : LookupM α} (error : ResolveError) (hx : x.Replays) :
    (x.orFail error).Replays := by
  intro loads h
  obtain ⟨hgrown, hagain⟩ := hx loads h
  simp only [orFail_apply]
  rcases hrun : x loads with ⟨(cause | _) | a, middle⟩ <;> rw [hrun] at hgrown hagain
  · cases hcause : cause.fetch? with
    | some e =>
      simp only [hcause]
      refine ⟨hgrown, fun later _ hgoes => ?_⟩
      exact absurd (by simp [Refused, hcause]) hgoes
    | none =>
      simp only [hcause]
      refine ⟨hgrown, fun later hlater _ => ?_⟩
      rw [hagain later hlater (by simp [Refused, hcause])]
      simp only [hcause]
  · refine ⟨hgrown, fun later hlater _ => ?_⟩
    rw [hagain later hlater not_false]
  · refine ⟨hgrown, fun later hlater _ => ?_⟩
    rw [hagain later hlater not_false]

theorem replays_fetch (e : Env) (root : Identifier) : (e.fetch root).Replays := by
  intro loads h
  -- Only a unit that is neither in scope nor kept is asked for, and from then on it is kept.
  cases hknown : e.knownUnit? root loads with
  | some unit =>
    rw [Env.fetch_known hknown]
    exact ⟨.refl h, fun later hlater _ => Env.fetch_known (Env.knownUnit?_extends hlater hknown)⟩
  | none =>
    have hfetch := e.fetch_eq root loads
    obtain ⟨hscope, hmissing⟩ := Option.or_eq_none_iff.mp hknown
    cases hresolver : e.resolver with
    | none =>
      simp only [hknown, hresolver] at hfetch
      rw [hfetch]
      exact ⟨.refl h, fun _ _ hgoes => absurd rfl hgoes⟩
    | some r =>
      simp only [hknown, hresolver] at hfetch
      obtain ⟨hgrown, hcame⟩ := Loads.extends_request h r hmissing
      rcases hrequest : loads.request r root with ⟨error | unit, middle⟩ <;>
        rw [hrequest] at hgrown hcame hfetch <;> rw [hfetch]
      · exact ⟨hgrown, fun _ _ hgoes => absurd rfl hgoes⟩
      · refine ⟨hgrown, fun later hlater _ => Env.fetch_known ?_⟩
        rw [Env.knownUnit?, hscope, Option.none_or]
        exact hlater.units root unit (hcame unit rfl)

def replaying : LookupRel where
  rel x _ := x.Replays
  env e e' := e = e'
  rel_pure := replays_pure
  rel_fail error _ := replays_throw (.fault error)
  rel_bind := Replays.bind
  rel_orFail error _ := Replays.orFail error
  env_answers := by
    rintro e _ rfl
    exact .refl e
  env_push := by
    rintro e _ s rfl
    rfl
  rel_fetch := by
    rintro e _ root rfl
    exact replays_fetch e root

theorem replaying_fuel (fuel : Nat) : replaying.FuelRel fuel fuel := by
  refine LookupRel.fuelRel ?_ (replays_throw .outOfFuel) fuel
  rintro e _ rfl
  rfl

end LookupM

end CrossRef
