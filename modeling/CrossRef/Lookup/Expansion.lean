import CrossRef.Env
import CrossRef.Signature.LeafMap

/-! What modules and module types expand to, and the setting in which expansions are computed. -/

namespace CrossRef

/-- A functor's body stays as it is until the functor is applied. -/
inductive Expansion where
  | signature (sig : Signature)
  | functor (param : FunctorParameter) (body : ModuleTypeExpr)

namespace StoredExpansion

def toExpansion : StoredExpansion → Expansion
  | signature sig => .signature sig
  | functor param body => .functor param body.toModuleTypeExpr

end StoredExpansion

namespace Expansion

def mapLeaves (r : LeafMap) : Expansion → Expansion
  | signature sig => signature (sig.mapLeaves r)
  | functor param body => functor (param.mapLeaves r) (body.mapLeaves r)

def reroot (e : Expansion) (source : Identifier) (target : ResolvedPath) : Expansion :=
  e.mapLeaves (.reroot source target)

end Expansion

inductive Halt where
  | fault (error : ResolveError)
  | outOfFuel
deriving DecidableEq

/-- A lookup may load units, and what it has loaded stays loaded when it fails. -/
abbrev LookupM := ExceptT Halt (StateM Loads)

namespace LookupM

def fail {α : Type} (error : ResolveError) : LookupM α := throw (.fault error)

theorem pure_apply {α : Type} (a : α) (loads : Loads) :
    (pure a : LookupM α) loads = (.ok a, loads) := rfl

theorem fail_apply {α : Type} (error : ResolveError) (loads : Loads) :
    (fail error : LookupM α) loads = (.error (.fault error), loads) := rfl

theorem bind_apply {α β : Type} (x : LookupM α) (f : α → LookupM β) (loads : Loads) :
    (x >>= f) loads =
      match x loads with
      | (.ok a, after) => f a after
      | (.error halt, after) => (.error halt, after) := by
  show (ExceptT.bind x f) loads = _
  rcases h : x loads with ⟨_ | a, after⟩
  · simp only [ExceptT.bind, ExceptT.mk, ExceptT.bindCont, bind, StateT.bind, h]
    rfl
  · simp only [ExceptT.bind, ExceptT.mk, ExceptT.bindCont, bind, StateT.bind, h]

theorem bind_eq_ok {α β : Type} {x : LookupM α} {f : α → LookupM β} {loads after : Loads} {b : β} :
    (x >>= f) loads = (.ok b, after) ↔
      ∃ a middle, x loads = (.ok a, middle) ∧ f a middle = (.ok b, after) := by
  rw [bind_apply]
  rcases x loads with ⟨halt | a, middle⟩
  · constructor
    · intro h
      cases h
    · rintro ⟨_, _, h, _⟩
      cases h
  · constructor
    · intro h
      exact ⟨a, middle, rfl, h⟩
    · rintro ⟨_, _, h, hf⟩
      cases h
      exact hf

def attempt {α : Type} (x : LookupM α) : LookupM (Except ResolveError α) := fun loads =>
  match x loads with
  | (.ok a, loads) => (.ok (.ok a), loads)
  | (.error .outOfFuel, loads) => (.error .outOfFuel, loads)
  | (.error (.fault error), loads) =>
    match error.fetch? with
    | some _ => (.error (.fault error), loads)
    | none => (.ok (.error error), loads)

def result? {α : Type} (x : LookupM α) : LookupM (Option α) := do
  return (← x.attempt).toOption

end LookupM

namespace Env

def fetch (env : Env) (root : Identifier) : LookupM CompilationUnit := fun loads =>
  match env.unit root loads with
  | (.ok unit, loads) => (.ok unit, loads)
  | (.error e, loads) => (.error (.fault (.fetch e)), loads)

def fetchByName (env : Env) (name : String) : LookupM (Option CompilationUnit) :=
  match env.lookupUnit name with
  | .found root => some <$> env.fetch root
  | .notFound | .forwardReference => pure none

end Env

namespace Expansion

def asSignature : Expansion → LookupM Signature
  | signature sig => pure sig
  | functor _ _ => LookupM.fail .unexpectedFunctor

end Expansion

end CrossRef
