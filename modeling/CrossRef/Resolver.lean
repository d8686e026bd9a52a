import CrossRef.CompilationUnit
import CrossRef.Error

/-! Access to other units, and the record of what was loaded. -/

namespace CrossRef

/-- The answer to the question for a unit of some name. `forwardReference` is a unit that is
compiled later than the one that asks. -/
inductive UnitLookup where
  | found (root : Identifier)
  | notFound
  | forwardReference
deriving DecidableEq

structure Resolver where
  lookupUnit : String → UnitLookup
  /-- Loads the unit with a given root. The answer may depend on the requests made before. -/
  loadUnit : (earlier : List Identifier) → (root : Identifier) → Except FetchError CompilationUnit

namespace Resolver

def Steady (r : Resolver) : Prop :=
  ∀ earlier earlier' root, r.loadUnit earlier root = r.loadUnit earlier' root

end Resolver

/-- A resolver given by the units it holds. Other names may be those of units that cannot be read,
that are announced and not there, or that are compiled later. -/
structure Catalog where
  units : List CompilationUnit := []
  broken : List String := []
  missing : List String := []
  forward : List String := []
  roots : List (String × Identifier) := []

namespace Catalog

def unit? (c : Catalog) (name : String) : Option CompilationUnit :=
  c.units.reverse.find? (·.name = name)

def lookupUnit (c : Catalog) (name : String) : UnitLookup :=
  if name ∈ c.forward then .forwardReference
  else match c.roots.lookup name with
    | some root => .found root
    | none =>
      if (c.unit? name).isSome || name ∈ c.broken || name ∈ c.missing then .found (.root name)
      else .notFound

def loadUnit (c : Catalog) (root : Identifier) : Except FetchError CompilationUnit :=
  if root.name ∈ c.broken then .error (.loadFailed root.name "truncated file")
  else match c.unit? root.name with
    | some unit => .ok unit
    | none => .error (.unitNotFound root.name)

def toResolver (c : Catalog) : Resolver := ⟨c.lookupUnit, fun _ => c.loadUnit⟩

end Catalog

/-- What a run has asked its resolver to load: the units that came, unless the run keeps none, and
all requests in order. -/
structure Loads where
  caching : Bool := true
  units : List (Identifier × CompilationUnit) := []
  requests : List Identifier := []

namespace Loads

def unit? (l : Loads) (root : Identifier) : Option CompilationUnit := l.units.lookup root

def request (l : Loads) (resolver : Resolver) (root : Identifier) :
    Except FetchError CompilationUnit × Loads :=
  match resolver.loadUnit l.requests root with
  | .ok unit =>
    (.ok unit,
      { l with
        units := if l.caching then (root, unit) :: l.units else l.units
        requests := l.requests ++ [root] })
  | .error e => (.error e, { l with requests := l.requests ++ [root] })

end Loads

end CrossRef
