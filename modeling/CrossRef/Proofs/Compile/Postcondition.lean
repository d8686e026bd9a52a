import CrossRef.Compile

/-! What holds of the results of a computation. Runs that end early have no result, and nothing is
said about them. -/

namespace CrossRef

namespace PassM

section Runs

variable {α β : Type} {loads after : Loads} {b : β} {reports : List Report}

theorem run_bind_eq_ok {x : PassM α} {f : α → PassM β} :
    (x >>= f).run loads = (.ok (b, reports), after) ↔
      ∃ a filed middle more, x.run loads = (.ok (a, filed), middle) ∧
        (f a).run middle = (.ok (b, more), after) ∧ reports = filed ++ more := by
  constructor
  · intro h
    rw [run_bind] at h
    rcases hx : x.run loads with ⟨error | ⟨a, filed⟩, middle⟩ <;> simp only [hx] at h
    · cases h
    · rcases hf : (f a).run middle with ⟨error | ⟨b', more⟩, last⟩ <;> simp only [hf] at h
      · cases h
      · cases h
        exact ⟨a, filed, middle, more, rfl, hf, rfl⟩
  · rintro ⟨a, filed, middle, more, hx, hf, rfl⟩
    rw [run_bind_ok hx, hf]
    rfl

theorem run_attempt_bind_eq_ok {x : LookupM α} {f : Except ResolveError α → PassM β} :
    (attempt x >>= f).run loads = (.ok (b, reports), after) ↔
      (∃ a middle, x loads = (.ok a, middle) ∧
        (f (.ok a)).run middle = (.ok (b, reports), after)) ∨
      ∃ error middle, error.fetch? = none ∧ x loads = (.error (.fault error), middle) ∧
        (f (.error error)).run middle = (.ok (b, reports), after) := by
  rw [run_attempt_bind]
  constructor
  · intro h
    rcases hx : x loads with ⟨(error | _) | a, middle⟩ <;> simp only [hx] at h
    · cases hsoft : error.fetch? <;> simp only [hsoft] at h
      · exact .inr ⟨error, middle, hsoft, rfl, h⟩
      · cases h
    · cases h
    · exact .inl ⟨a, middle, rfl, h⟩
  · rintro (⟨a, middle, hx, hf⟩ | ⟨error, middle, hsoft, hx, hf⟩)
    · rw [hx]
      exact hf
    · simp only [hx, hsoft]
      exact hf

theorem run_attempt?_bind_eq_ok {x : LookupM α} {f : Option α → PassM β} :
    (attempt? x >>= f).run loads = (.ok (b, reports), after) ↔
      (∃ a middle, x loads = (.ok a, middle) ∧
        (f (some a)).run middle = (.ok (b, reports), after)) ∨
      ∃ error middle, error.fetch? = none ∧ x loads = (.error (.fault error), middle) ∧
        (f none).run middle = (.ok (b, reports), after) := by
  rw [attempt?, bind_assoc]
  simp only [pure_bind]
  exact run_attempt_bind_eq_ok

end Runs

/-- A computation that starts where `I` holds and has a result ends where `I` holds, and the result
meets `Q`. -/
def Ensures {α : Type} (I : Loads → Prop) (x : PassM α) (Q : α → Prop) : Prop :=
  ∀ loads, I loads → ∀ a reports after, x.run loads = (.ok (a, reports), after) → I after ∧ Q a

abbrev Yields {α : Type} (x : PassM α) (Q : α → Prop) : Prop := x.Ensures (fun _ => True) Q

variable {α β : Type} {I : Loads → Prop}

theorem ensures_pure {a : α} {Q : α → Prop} (h : Q a) : (pure a : PassM α).Ensures I Q := by
  intro loads hl b reports after hrun
  cases hrun
  exact ⟨hl, h⟩

theorem ensures_abort (reason : Abort) (Q : α → Prop) : (abort reason : PassM α).Ensures I Q := by
  intro loads _ a reports after hrun
  cases hrun

theorem ensures_file (report : Report) : (file report).Ensures I fun _ => True := by
  intro loads hl a reports after hrun
  cases hrun
  exact ⟨hl, trivial⟩

theorem yields_true (x : PassM α) : x.Yields fun _ => True :=
  fun _ _ _ _ _ _ => ⟨trivial, trivial⟩

theorem Ensures.bind {x : PassM α} {f : α → PassM β} {P : α → Prop} {Q : β → Prop}
    (hx : x.Ensures I P) (hf : ∀ a, P a → (f a).Ensures I Q) : (x >>= f).Ensures I Q := by
  intro loads hl b reports after hrun
  obtain ⟨a, filed, middle, more, hxrun, hfrun, -⟩ := run_bind_eq_ok.mp hrun
  obtain ⟨hmiddle, ha⟩ := hx loads hl a filed middle hxrun
  exact hf a ha middle hmiddle b more after hfrun

theorem Ensures.map {x : PassM α} {P : α → Prop} {Q : β → Prop} {f : α → β}
    (hx : x.Ensures I P) (hf : ∀ a, P a → Q (f a)) : (f <$> x).Ensures I Q := by
  rw [map_eq_pure_bind]
  exact hx.bind fun a ha => ensures_pure (hf a ha)

theorem Ensures.mono {x : PassM α} {P Q : α → Prop} (hx : x.Ensures I P)
    (h : ∀ a, P a → Q a) : x.Ensures I Q := by
  intro loads hl a reports after hrun
  obtain ⟨hafter, ha⟩ := hx loads hl a reports after hrun
  exact ⟨hafter, h a ha⟩

theorem Ensures.and {x : PassM α} {P Q : α → Prop} (hx : x.Ensures I P) (hx' : x.Ensures I Q) :
    x.Ensures I fun a => P a ∧ Q a := by
  intro loads hl a reports after hrun
  obtain ⟨hafter, ha⟩ := hx loads hl a reports after hrun
  exact ⟨hafter, ha, (hx' loads hl a reports after hrun).2⟩

theorem Ensures.and_yields {x : PassM α} {P Q : α → Prop} (hx : x.Ensures I P)
    (hx' : x.Yields Q) : x.Ensures I fun a => P a ∧ Q a := by
  intro loads hl a reports after hrun
  obtain ⟨hafter, ha⟩ := hx loads hl a reports after hrun
  exact ⟨hafter, ha, (hx' loads trivial a reports after hrun).2⟩

theorem Ensures.quietly {x : PassM α} {Q : α → Prop} (hx : x.Ensures I Q) :
    x.quietly.Ensures I Q := by
  intro loads hl a reports after hrun
  rw [run, PassM.quietly] at hrun
  rcases hxrun : x loads with ⟨error | ⟨b, filed⟩, last⟩ <;> rw [hxrun] at hrun
  · cases hrun
  · cases hrun
    exact hx loads hl a filed after hxrun

end PassM

open PassM

theorem Signature.yields_compiled (fuel : Nat) (e : Env) (sig : Signature) :
    (sig.compile fuel e).Yields fun out => out.compiled = true := by
  cases fuel with
  | zero => exact ensures_abort _ _
  | succ fuel =>
    obtain ⟨items, compiled, doc⟩ := sig
    cases compiled with
    | true =>
      rw [Signature.compile, Signature.pass]
      exact ensures_pure rfl
    | false =>
      rw [Signature.compile, Signature.pass]
      exact (yields_true _).bind fun _ _ => ensures_pure rfl

def Pass.SplicesCompiled (p : Pass) : Prop :=
  ∀ e sig, (p.splice e sig).Yields fun out => out.compiled = true

theorem Pass.start_splicesCompiled (fuel : Nat) : (Pass.start fuel).SplicesCompiled :=
  fun e sig => sig.yields_compiled fuel e

end CrossRef
