import CrossRef.Identifier

/-! Names that later items of a signature redefine. -/

namespace CrossRef

/-- The members of an include that the enclosing signature redefines, sort by sort. -/
structure Shadowed where
  modules : List String := []
  moduleTypes : List String := []
  types : List String := []
  values : List String := []
  classes : List String := []
  classTypes : List String := []
deriving DecidableEq

namespace Shadowed

def names (s : Shadowed) : IdentKind → List String
  | .module => s.modules
  | .moduleType => s.moduleTypes
  | .type => s.types
  | .value => s.values
  | .classDecl => s.classes
  | .classType => s.classTypes
  | _ => []

def hiddenName? (s : Shadowed) (id : Identifier) : Option String :=
  if id.name ∈ s.names id.kind then some ("\x7b" ++ id.name ++ "\x7d") else none

def isEmpty (s : Shadowed) : Bool :=
  s.modules.isEmpty && s.moduleTypes.isEmpty && s.types.isEmpty && s.values.isEmpty &&
    s.classes.isEmpty && s.classTypes.isEmpty

end Shadowed

end CrossRef
