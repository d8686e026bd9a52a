import CrossRef.Proofs.Compile.Correspondence
import CrossRef.Proofs.Compile.Postcondition
import CrossRef.Proofs.Lookup.Agreement

/-! Passes with a steady resolver. Two runs of the same computation come to the same result,
whatever was loaded before them and however much fuel they have. -/

namespace CrossRef

namespace PassM

variable {r : Resolver} {α β : Type}

/-- Two computations give the same results and file the same reports. -/
def Agree (r : Resolver) (x y : PassM α) : Prop :=
  ∀ loads loads', loads.Faithful r → loads'.Faithful r →
    SameAnswer .outOfFuel (x.run loads).1 (y.run loads').1 ∧
      (x.run loads).2.Faithful r ∧ (y.run loads').2.Faithful r

theorem agree_pure (a : α) : Agree r (pure a : PassM α) (pure a) :=
  fun _ _ h h' => ⟨.inr (.inr rfl), h, h'⟩

theorem agree_file (report : Report) : Agree r (file report) (file report) :=
  fun _ _ h h' => ⟨.inr (.inr rfl), h, h'⟩

theorem Agree.symm {x y : PassM α} (h : Agree r x y) : Agree r y x := by
  intro loads loads' hl hl'
  obtain ⟨hsame, hx, hy⟩ := h loads' loads hl' hl
  exact ⟨hsame.symm, hy, hx⟩

theorem agree_outOfFuel {x : PassM α} (h : Agree r x x) :
    Agree r (abort .outOfFuel : PassM α) x :=
  fun loads loads' hl hl' => ⟨.inl rfl, hl, (h loads loads' hl hl').2.2⟩

theorem Agree.bind_of {P : α → Prop} {x y : PassM α} {f g : α → PassM β} (h : Agree r x y)
    (hxP : x.Yields P) (hyP : y.Yields P) (hfg : ∀ a, P a → Agree r (f a) (g a)) :
    Agree r (x >>= f) (y >>= g) := by
  intro loads loads' hl hl'
  obtain ⟨hsame, hx, hy⟩ := h loads loads' hl hl'
  rcases hxrun : x.run loads with ⟨halt | ⟨a, filed⟩, after⟩ <;>
    rcases hyrun : y.run loads' with ⟨halt' | ⟨b, filed'⟩, after'⟩ <;>
    rw [hxrun, hyrun] at hsame <;> rw [hxrun] at hx <;> rw [hyrun] at hy
  · rw [run_bind_error hxrun, run_bind_error hyrun]
    exact ⟨hsame.error, hx, hy⟩
  · have hb := (hyP loads' trivial b filed' after' hyrun).2
    rw [run_bind_error hxrun, run_bind_ok hyrun]
    rcases hsame with hsame | hsame | hsame <;> cases hsame
    exact ⟨.inl rfl, hx, (hfg b hb after after' hx hy).2.2⟩
  · have ha := (hxP loads trivial a filed after hxrun).2
    rw [run_bind_ok hxrun, run_bind_error hyrun]
    rcases hsame with hsame | hsame | hsame <;> cases hsame
    exact ⟨.inr (.inl rfl), (hfg a ha after after' hx hy).2.1, hy⟩
  · have ha := (hxP loads trivial a filed after hxrun).2
    rw [run_bind_ok hxrun, run_bind_ok hyrun]
    rcases hsame with hsame | hsame | hsame <;> cases hsame
    obtain ⟨hsame, hf, hg⟩ := hfg a ha after after' hx hy
    exact ⟨hsame.map _, hf, hg⟩

theorem Agree.bind {x y : PassM α} {f g : α → PassM β} (h : Agree r x y)
    (hfg : ∀ a, Agree r (f a) (g a)) : Agree r (x >>= f) (y >>= g) :=
  h.bind_of (yields_true x) (yields_true y) fun a _ => hfg a

def attempted : Except Halt α → Except Abort (Except ResolveError α)
  | .ok a => .ok (.ok a)
  | .error .outOfFuel => .error .outOfFuel
  | .error (.fault error) =>
    match error.fetch? with
    | some e => .error (.fetch e)
    | none => .ok (.error error)

theorem run_attempt (x : LookupM α) (loads : Loads) :
    (attempt x).run loads = ((attempted (x loads).1).map fun a => (a, []), (x loads).2) := by
  rw [run, attempt]
  rcases x loads with ⟨(error | _) | a, after⟩
  · cases error <;> rfl
  · rfl
  · rfl

theorem Agree.attempt {x y : LookupM α} (h : LookupM.Agree r x y) :
    Agree r (attempt x) (attempt y) := by
  intro loads loads' hl hl'
  obtain ⟨hsame, hx, hy⟩ := h loads loads' hl hl'
  rw [run_attempt, run_attempt]
  refine ⟨?_, hx, hy⟩
  rcases hsame with hsame | hsame | hsame
  · rw [hsame]
    exact .inl rfl
  · rw [hsame]
    exact .inr (.inl rfl)
  · rw [hsame]
    exact .inr (.inr rfl)

theorem Agree.attempt? {x y : LookupM α} (h : LookupM.Agree r x y) :
    Agree r (attempt? x) (attempt? y) :=
  (Agree.attempt h).bind fun _ => agree_pure _

theorem attempted_soft {outcome : Except Halt α} {error : ResolveError}
    (h : attempted outcome = .ok (.error error)) : error.fetch? = none := by
  rcases outcome with (cause | _) | a
  · cases hcause : cause.fetch? with
    | some e =>
      simp only [attempted, hcause] at h
      cases h
    | none =>
      simp only [attempted, hcause] at h
      cases h
      exact hcause
  · cases h
  · cases h

theorem yields_attempt (x : LookupM α) :
    (attempt x).Yields fun outcome => ∀ error, outcome = .error error → error.fetch? = none := by
  intro loads _ outcome reports after hrun
  refine ⟨trivial, ?_⟩
  rintro error rfl
  rw [run_attempt] at hrun
  rcases houtcome : attempted (x loads).1 with e | outcome <;>
    simp only [houtcome, Except.map] at hrun <;> cases hrun
  exact attempted_soft houtcome

theorem Agree.attempt_bind {x y : LookupM α} {f g : Except ResolveError α → PassM β}
    (h : LookupM.Agree r x y) (hok : ∀ a, Agree r (f (.ok a)) (g (.ok a)))
    (herror : ∀ error, error.fetch? = none → Agree r (f (.error error)) (g (.error error))) :
    Agree r (PassM.attempt x >>= f) (PassM.attempt y >>= g) := by
  refine (Agree.attempt h).bind_of (yields_attempt x) (yields_attempt y) fun outcome hsoft => ?_
  cases outcome with
  | ok a => exact hok a
  | error error => exact herror error (hsoft error rfl)

theorem run_quietly (x : PassM α) (loads : Loads) :
    x.quietly.run loads = ((x.run loads).1.map fun (a, _) => (a, []), (x.run loads).2) := by
  rw [run, run, quietly]
  rcases x loads with ⟨e | ⟨a, filed⟩, after⟩ <;> rfl

theorem Agree.quietly {x y : PassM α} (h : Agree r x y) : Agree r x.quietly y.quietly := by
  intro loads loads' hl hl'
  obtain ⟨hsame, hx, hy⟩ := h loads loads' hl hl'
  rw [run_quietly, run_quietly]
  exact ⟨hsame.map _, hx, hy⟩

def agreement (hr : r.Steady) : PassRel where
  lookups := LookupM.agreement hr
  rel := Agree r
  rel_pure := agree_pure
  rel_bind := Agree.bind
  rel_attempt := Agree.attempt_bind
  rel_file report _ := agree_file report
  rel_quietly := Agree.quietly

theorem agreement_compile (hr : r.Steady) (fuel fuel' : Nat) {e : Env} (he : e.SameView r e)
    (sig : Signature) : Agree r (sig.compile fuel e) (sig.compile fuel' e) := by
  have same (fuel : Nat) {e : Env} (he : e.SameView r e) (sig : Signature) :
      Agree r (sig.compile fuel e) (sig.compile fuel e) :=
    PassRel.compile_rel (R := agreement hr) (fun fuel => LookupM.agreement_fuel hr fuel fuel)
      (fun _ _ hl hl' => ⟨.inr (.inr rfl), hl, hl'⟩) fuel he sig
  induction fuel generalizing fuel' e sig with
  | zero => exact agree_outOfFuel (same fuel' he sig)
  | succ fuel ih =>
    cases fuel' with
    | zero => exact (agree_outOfFuel (same (fuel + 1) he sig)).symm
    | succ fuel' =>
      have passes : (agreement hr).PassesRel ⟨fuel, Signature.compile fuel⟩
          ⟨fuel', Signature.compile fuel'⟩ :=
        ⟨LookupM.agreement_fuel hr fuel fuel', fun he sig => ih fuel' he sig⟩
      exact passes.signature sig he

theorem agreement_passes (hr : r.Steady) (fuel fuel' : Nat) :
    (agreement hr).PassesRel (.start fuel) (.start fuel') where
  fuel := LookupM.agreement_fuel hr fuel fuel'
  splice he sig := agreement_compile hr fuel fuel' he sig

end PassM

end CrossRef
