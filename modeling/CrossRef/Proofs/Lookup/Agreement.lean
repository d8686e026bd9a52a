import CrossRef.Proofs.Lookup.Correspondence

/-! Lookups with a steady resolver. What was loaded before, how much fuel there is and what stands
inside bound types has no influence on an answer; only the lack of fuel shows. -/

namespace CrossRef

def Loads.Faithful (r : Resolver) (loads : Loads) : Prop :=
  ∀ root unit, loads.unit? root = some unit → r.loadUnit [] root = .ok unit

theorem Loads.faithful_empty (r : Resolver) : Loads.Faithful r {} := by
  intro root unit h
  cases h

theorem Loads.request_answer {r : Resolver} (hr : r.Steady) (loads : Loads) (root : Identifier) :
    (loads.request r root).1 = r.loadUnit [] root := by
  rw [Loads.request, hr loads.requests []]
  cases r.loadUnit [] root <;> rfl

theorem Loads.Faithful.request {r : Resolver} (hr : r.Steady) {loads : Loads}
    (h : loads.Faithful r) (root : Identifier) : (loads.request r root).2.Faithful r := by
  rw [Loads.request, hr loads.requests []]
  cases hload : r.loadUnit [] root with
  | error e => exact h
  | ok loaded =>
    intro other unit hunit
    cases hcaching : loads.caching with
    | false =>
      simp only [Loads.unit?, hcaching] at hunit
      exact h other unit hunit
    | true =>
      simp only [Loads.unit?, hcaching, if_true, List.lookup_cons] at hunit
      cases hother : other == root with
      | false =>
        rw [hother] at hunit
        exact h other unit hunit
      | true =>
        rw [hother] at hunit
        cases hunit
        rw [eq_of_beq hother]
        exact hload

/-- The same outcome, unless one side has given up with `spent`. -/
def SameAnswer {ε α : Type} (spent : ε) (a b : Except ε α) : Prop :=
  a = .error spent ∨ b = .error spent ∨ a = b

theorem SameAnswer.map {ε α β : Type} {spent : ε} {a b : Except ε α} (h : SameAnswer spent a b)
    (f : α → β) : SameAnswer spent (a.map f) (b.map f) := by
  rcases h with rfl | rfl | rfl
  · exact .inl rfl
  · exact .inr (.inl rfl)
  · exact .inr (.inr rfl)

theorem SameAnswer.error {ε α β : Type} {spent e e' : ε}
    (h : SameAnswer spent (.error e : Except ε α) (.error e')) :
    SameAnswer spent (.error e : Except ε β) (.error e') := by
  rcases h with h | h | h <;> cases h
  · exact .inl rfl
  · exact .inr (.inl rfl)
  · exact .inr (.inr rfl)

theorem SameAnswer.symm {ε α : Type} {spent : ε} {a b : Except ε α} (h : SameAnswer spent a b) :
    SameAnswer spent b a := by
  rcases h with h | h | h
  · exact .inr (.inl h)
  · exact .inl h
  · exact .inr (.inr h.symm)

def LookupM.Agree {α : Type} (r : Resolver) (x y : LookupM α) : Prop :=
  ∀ loads loads', loads.Faithful r → loads'.Faithful r →
    SameAnswer .outOfFuel (x loads).1 (y loads').1 ∧
      (x loads).2.Faithful r ∧ (y loads').2.Faithful r

structure Env.SameView (r : Resolver) (e e' : Env) : Prop where
  alike : e.Alike e'
  options : e.options = e'.options
  resolver : e.resolver = some r

namespace Env.SameView

variable {r : Resolver} {e e' : Env}

theorem refl (he : e.resolver = some r) : e.SameView r e := ⟨.refl e, rfl, he⟩

theorem left (h : e.SameView r e') : e.SameView r e := refl h.resolver

theorem right (h : e.SameView r e') : e'.SameView r e' := by
  refine refl ?_
  rw [← h.alike.resolver]
  exact h.resolver

theorem push (h : e.SameView r e') (s : Scope) : (e.push s).SameView r (e'.push s) :=
  ⟨h.alike.push rfl, h.options, h.resolver⟩

end Env.SameView

namespace LookupM

variable {r : Resolver}

theorem agree_pure {α : Type} (a : α) : Agree r (pure a : LookupM α) (pure a) :=
  fun _ _ h h' => ⟨.inr (.inr rfl), h, h'⟩

theorem agree_fail {α : Type} (error : ResolveError) :
    Agree r (fail error : LookupM α) (fail error) :=
  fun _ _ h h' => ⟨.inr (.inr rfl), h, h'⟩

theorem Agree.bind {α β : Type} {x y : LookupM α} {f g : α → LookupM β}
    (h : Agree r x y) (hfg : ∀ a, Agree r (f a) (g a)) : Agree r (x >>= f) (y >>= g) := by
  intro loads loads' hl hl'
  obtain ⟨hsame, hx, hy⟩ := h loads loads' hl hl'
  rw [bind_apply, bind_apply]
  rcases hxrun : x loads with ⟨halt | a, after⟩ <;>
    rcases hyrun : y loads' with ⟨halt' | b, after'⟩ <;>
    rw [hxrun, hyrun] at hsame <;> rw [hxrun] at hx <;> rw [hyrun] at hy
  -- Where only one side has a result, the other one has run out of fuel.
  · exact ⟨hsame.error, hx, hy⟩
  · rcases hsame with hsame | hsame | hsame <;> cases hsame
    exact ⟨.inl rfl, hx, (hfg b after after' hx hy).2.2⟩
  · rcases hsame with hsame | hsame | hsame <;> cases hsame
    exact ⟨.inr (.inl rfl), (hfg a after after' hx hy).2.1, hy⟩
  · rcases hsame with hsame | hsame | hsame <;> cases hsame
    exact hfg a after after' hx hy

def softened {α : Type} (error : ResolveError) : Except Halt α → Except Halt α
  | .error (.fault cause) =>
    match cause.fetch? with
    | some _ => .error (.fault cause)
    | none => .error (.fault error)
  | outcome => outcome

theorem orFail_softened {α : Type} (error : ResolveError) (x : LookupM α) (loads : Loads) :
    x.orFail error loads = (softened error (x loads).1, (x loads).2) := by
  rw [orFail_apply]
  rcases x loads with ⟨(cause | _) | a, after⟩
  · cases cause <;> rfl
  · rfl
  · rfl

theorem Agree.orFail {α : Type} {x y : LookupM α} (error : ResolveError)
    (h : Agree r x y) : Agree r (x.orFail error) (y.orFail error) := by
  intro loads loads' hl hl'
  obtain ⟨hsame, hx, hy⟩ := h loads loads' hl hl'
  rw [orFail_softened, orFail_softened]
  refine ⟨?_, hx, hy⟩
  rcases hsame with hsame | hsame | hsame
  · rw [hsame]
    exact .inl rfl
  · rw [hsame]
    exact .inr (.inl rfl)
  · rw [hsame]
    exact .inr (.inr rfl)

theorem Agree.symm {α : Type} {x y : LookupM α} (h : Agree r x y) : Agree r y x := by
  intro loads loads' hl hl'
  obtain ⟨hsame, hx, hy⟩ := h loads' loads hl' hl
  exact ⟨hsame.symm, hy, hx⟩

theorem agree_outOfFuel {α : Type} {x : LookupM α} (h : Agree r x x) :
    Agree r (throw .outOfFuel : LookupM α) x :=
  fun loads loads' hl hl' => ⟨.inl rfl, hl, (h loads loads' hl hl').2.2⟩

theorem fetch_answer (hr : r.Steady) {e : Env} (he : e.resolver = some r) (root : Identifier)
    {loads : Loads} (hl : loads.Faithful r) :
    (e.fetch root loads).1 =
        (match ((e.lookupById root).bind Component.opened?).bind Component.unit? with
          | some unit => .ok unit
          | none => (r.loadUnit [] root).mapError fun error => .fault (.fetch error)) ∧
      (e.fetch root loads).2.Faithful r := by
  rw [Env.fetch, Env.unit_eq he, Env.knownUnit?]
  cases ((e.lookupById root).bind Component.opened?).bind Component.unit? with
  | some unit => exact ⟨rfl, hl⟩
  | none =>
    cases hloaded : loads.unit? root with
    | some unit =>
      refine ⟨?_, hl⟩
      rw [hl root unit hloaded]
      rfl
    | none =>
      have hanswer := loads.request_answer hr root
      have hafter := hl.request hr root
      simp only [Option.or]
      rcases hrequest : loads.request r root with ⟨error | unit, after⟩ <;>
        rw [hrequest] at hanswer hafter <;> exact ⟨by rw [← hanswer]; rfl, hafter⟩

theorem agree_fetch (hr : r.Steady) {e e' : Env} (h : e.SameView r e') (root : Identifier) :
    Agree r (e.fetch root) (e'.fetch root) := by
  intro loads loads' hl hl'
  obtain ⟨hanswer, hafter⟩ := fetch_answer hr h.left.resolver root hl
  obtain ⟨hanswer', hafter'⟩ := fetch_answer hr h.right.resolver root hl'
  refine ⟨.inr (.inr ?_), hafter, hafter'⟩
  rw [hanswer, hanswer', h.alike.sameAnswers.lookupOpened]

def agreement (hr : r.Steady) : LookupRel where
  rel := Agree r
  env := Env.SameView r
  rel_pure := agree_pure
  rel_fail error _ := agree_fail error
  rel_bind := Agree.bind
  rel_orFail error _ := Agree.orFail error
  env_answers h := h.alike.sameAnswers
  env_push s h := h.push s
  rel_fetch root h := agree_fetch hr h root

/-- Fuel decides whether there is an answer and not which. -/
theorem agreement_fuel (hr : r.Steady) (fuel fuel' : Nat) :
    (agreement hr).FuelRel fuel fuel' := by
  have same := LookupRel.fuelRel (R := agreement hr) (fun h => h.options)
    fun _ _ hl hl' => ⟨.inr (.inr rfl), hl, hl'⟩
  -- Both sides take the same steps until the fuel of one of them is spent.
  induction fuel generalizing fuel' with
  | zero =>
    refine ⟨fun h => h.options, fun {e e'} h budget decl => ?_⟩
    exact agree_outOfFuel ((same fuel').expand h.right budget decl)
  | succ fuel ih =>
    cases fuel' with
    | zero =>
      refine ⟨fun h => h.options, fun {e e'} h budget decl => ?_⟩
      exact (agree_outOfFuel ((same (fuel + 1)).expand h.left budget decl)).symm
    | succ fuel' => exact (ih fuel').succ

end LookupM

end CrossRef
