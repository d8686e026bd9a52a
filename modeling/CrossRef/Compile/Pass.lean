import CrossRef.Lookup
import CrossRef.Report

/-! The setting of the compile pass: a computation that loads units and files reports. -/

namespace CrossRef

inductive Abort where
  | fetch (error : FetchError)
  | outOfFuel
deriving DecidableEq

/-- Gives a result together with the reports filed on the way, oldest first. -/
def PassM (α : Type) : Type := Loads → Except Abort (α × List Report) × Loads

namespace PassM

def run {α : Type} (x : PassM α) (loads : Loads) : Except Abort (α × List Report) × Loads := x loads

instance : Monad PassM where
  pure a := fun loads => (.ok (a, []), loads)
  bind x f := fun loads =>
    match x loads with
    | (.error e, loads) => (.error e, loads)
    | (.ok (a, filed), loads) =>
      match f a loads with
      | (.error e, loads) => (.error e, loads)
      | (.ok (b, more), loads) => (.ok (b, filed ++ more), loads)

@[simp] theorem run_pure {α : Type} (a : α) (loads : Loads) :
    (pure a : PassM α).run loads = (.ok (a, []), loads) := rfl

theorem run_bind {α β : Type} (x : PassM α) (f : α → PassM β) (loads : Loads) :
    (x >>= f).run loads =
      match x.run loads with
      | (.error e, loads) => (.error e, loads)
      | (.ok (a, filed), loads) =>
        match (f a).run loads with
        | (.error e, loads) => (.error e, loads)
        | (.ok (b, more), loads) => (.ok (b, filed ++ more), loads) := rfl

theorem run_bind_error {α β : Type} {x : PassM α} {loads after : Loads} {e : Abort}
    (h : x.run loads = (.error e, after)) (f : α → PassM β) :
    (x >>= f).run loads = (.error e, after) := by
  rw [run_bind, h]

theorem run_bind_ok {α β : Type} {x : PassM α} {loads after : Loads} {a : α}
    {filed : List Report} (h : x.run loads = (.ok (a, filed), after)) (f : α → PassM β) :
    (x >>= f).run loads =
      (((f a).run after).1.map fun (b, more) => (b, filed ++ more), ((f a).run after).2) := by
  rw [run_bind, h]
  dsimp only
  rcases (f a).run after with ⟨e | ⟨b, more⟩, last⟩ <;> rfl

theorem ext {α : Type} {x y : PassM α} (h : ∀ loads, x.run loads = y.run loads) : x = y :=
  funext h

theorem bind_pure_self {α : Type} (x : PassM α) : x >>= pure = x := by
  refine ext fun loads => ?_
  rw [run_bind]
  rcases h : x.run loads with ⟨_ | ⟨a, filed⟩, after⟩ <;> simp

theorem pure_bind_eq {α β : Type} (a : α) (f : α → PassM β) : pure a >>= f = f a := by
  refine ext fun loads => ?_
  rw [run_bind, run_pure]
  rcases h : (f a).run loads with ⟨_ | ⟨b, more⟩, after⟩ <;> simp [h]

theorem bind_bind_eq {α β γ : Type} (x : PassM α) (f : α → PassM β) (g : β → PassM γ) :
    x >>= f >>= g = x >>= fun a => f a >>= g := by
  refine ext fun loads => ?_
  simp only [run_bind]
  rcases h : x.run loads with ⟨_ | ⟨a, filed⟩, after⟩
  · rfl
  · rcases h' : (f a).run after with ⟨_ | ⟨b, more⟩, later⟩
    · simp [h']
    · rcases h'' : (g b).run later with ⟨_ | ⟨c, last⟩, final⟩ <;> simp [h', h'']

instance : LawfulMonad PassM := .mk' PassM bind_pure_self pure_bind_eq bind_bind_eq

def abort {α : Type} (reason : Abort) : PassM α := fun loads => (.error reason, loads)

def file (report : Report) : PassM Unit := fun loads => (.ok ((), [report]), loads)

def quietly {α : Type} (x : PassM α) : PassM α := fun loads =>
  match x loads with
  | (.error e, loads) => (.error e, loads)
  | (.ok (a, _), loads) => (.ok (a, []), loads)

/-- The outcome of a lookup as a value. Only a unit that cannot be had stops the pass. -/
def attempt {α : Type} (x : LookupM α) : PassM (Except ResolveError α) := fun loads =>
  match x loads with
  | (.ok a, loads) => (.ok (.ok a, []), loads)
  | (.error .outOfFuel, loads) => (.error .outOfFuel, loads)
  | (.error (.fault error), loads) =>
    match error.fetch? with
    | some e => (.error (.fetch e), loads)
    | none => (.ok (.error error, []), loads)

theorem run_attempt_bind {α β : Type} (x : LookupM α) (f : Except ResolveError α → PassM β)
    (loads : Loads) :
    (attempt x >>= f).run loads =
      match x loads with
      | (.ok a, after) => (f (.ok a)).run after
      | (.error .outOfFuel, after) => (.error .outOfFuel, after)
      | (.error (.fault error), after) =>
        match error.fetch? with
        | some e => (.error (.fetch e), after)
        | none => (f (.error error)).run after := by
  have unreported (y : Except Abort (β × List Report) × Loads) :
      (match y with
        | (.error e, after) => (.error e, after)
        | (.ok (b, more), after) => (.ok (b, [] ++ more), after)) = y := by
    rcases y with ⟨_ | ⟨b, more⟩, after⟩ <;> rfl
  rw [run_bind, run, attempt]
  rcases x loads with ⟨(error | _) | a, after⟩
  · cases h : error.fetch? with
    | some e => simp only [h]
    | none => simpa only [h] using unreported _
  · rfl
  · exact unreported _

def attempt? {α : Type} (x : LookupM α) : PassM (Option α) := do
  return (← attempt x).toOption

end PassM

namespace Pass

open PassM

def resolve (fuel : Nat) (env : Env) (kind : PathKind) (path : Path) : PassM Path :=
  match path with
  | .resolved p => pure (.resolved p)
  | written => do
    match ← attempt (Lookup.path fuel env kind written) with
    | .ok p => pure (.resolved p)
    | .error _ => pure written

def resolveOrReport (fuel : Nat) (env : Env) (kind : PathKind) (construct : Construct)
    (parent : Identifier) (path : Path) : PassM Path :=
  match path with
  | .resolved p => pure (.resolved p)
  | written => do
    match ← attempt (Lookup.path fuel env kind written) with
    | .ok p => pure (.resolved p)
    | .error error =>
      file
        { construct, subject := written.text, phase := .resolve, parent := some parent,
          error := some error }
      pure written

theorem resolve_unresolved (fuel : Nat) (env : Env) (kind : PathKind) {path : Path}
    (h : path.isResolved = false) :
    resolve fuel env kind path = (do
      match ← attempt (Lookup.path fuel env kind path) with
      | .ok p => pure (.resolved p)
      | .error _ => pure path) := by
  cases path with
  | resolved p => cases h
  | _ => rfl

theorem resolveOrReport_unresolved (fuel : Nat) (env : Env) (kind : PathKind)
    (construct : Construct) (parent : Identifier) {path : Path} (h : path.isResolved = false) :
    resolveOrReport fuel env kind construct parent path = (do
      match ← attempt (Lookup.path fuel env kind path) with
      | .ok p => pure (.resolved p)
      | .error error =>
        file
          { construct, subject := path.text, phase := .resolve, parent := some parent,
            error := some error }
        pure path) := by
  cases path with
  | resolved p => cases h
  | _ => rfl

end Pass

end CrossRef
