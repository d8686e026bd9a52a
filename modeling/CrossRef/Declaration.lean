import CrossRef.TypeExpr.LeafMap

/-! Declarations whose parts are type expressions: types, values, exceptions and extensions. -/

namespace CrossRef

abbrev Docs := List String

structure TypeEquation where
  params : List String := []
  isPrivate : Bool := false
  manifest : Option TypeExpr := none
  constraints : List (TypeExpr × TypeExpr) := []

structure Field where
  id : Identifier
  doc : Docs
  isMutable : Bool
  type : TypeExpr

inductive ConstructorArgs where
  | tuple (types : List TypeExpr)
  | record (fields : List Field)

structure Constructor where
  id : Identifier
  doc : Docs
  args : ConstructorArgs
  res : Option TypeExpr

inductive TypeRepr where
  | variant (constructors : List Constructor)
  | record (fields : List Field)
  | extensible

structure TypeDecl where
  id : Identifier
  doc : Docs
  equation : TypeEquation
  representation : Option TypeRepr

structure Value where
  id : Identifier
  doc : Docs
  type : TypeExpr

structure External where
  id : Identifier
  doc : Docs
  type : TypeExpr
  primitives : List String

structure Extension where
  typePath : Path
  doc : Docs
  typeParams : List String
  isPrivate : Bool
  constructors : List Constructor

namespace TypeEquation

def mapLeaves (r : LeafMap) (eq : TypeEquation) : TypeEquation :=
  { eq with
    manifest := eq.manifest.map (·.mapLeaves r)
    constraints := eq.constraints.map fun (l, t) => (l.mapLeaves r, t.mapLeaves r) }

def paths (eq : TypeEquation) : List Path :=
  (eq.manifest.map (·.paths)).getD [] ++ eq.constraints.flatMap fun (l, t) => l.paths ++ t.paths

end TypeEquation

namespace Field

def mapLeaves (r : LeafMap) (f : Field) : Field :=
  { f with id := r.ident f.id, type := f.type.mapLeaves r }

end Field

namespace ConstructorArgs

def mapLeaves (r : LeafMap) : ConstructorArgs → ConstructorArgs
  | tuple types => tuple (types.map (·.mapLeaves r))
  | record fields => record (fields.map (·.mapLeaves r))

def paths : ConstructorArgs → List Path
  | tuple types => types.flatMap (·.paths)
  | record fields => fields.flatMap (·.type.paths)

end ConstructorArgs

namespace Constructor

def mapLeaves (r : LeafMap) (c : Constructor) : Constructor :=
  { c with id := r.ident c.id, args := c.args.mapLeaves r, res := c.res.map (·.mapLeaves r) }

def paths (c : Constructor) : List Path := c.args.paths ++ (c.res.map (·.paths)).getD []

end Constructor

namespace TypeRepr

def mapLeaves (r : LeafMap) : TypeRepr → TypeRepr
  | variant constructors => variant (constructors.map (·.mapLeaves r))
  | record fields => record (fields.map (·.mapLeaves r))
  | extensible => extensible

def paths : TypeRepr → List Path
  | variant constructors => constructors.flatMap (·.paths)
  | record fields => fields.flatMap (·.type.paths)
  | extensible => []

end TypeRepr

namespace TypeDecl

def mapLeaves (r : LeafMap) (t : TypeDecl) : TypeDecl :=
  { t with
    id := r.ident t.id
    equation := t.equation.mapLeaves r
    representation := t.representation.map (·.mapLeaves r) }

def paths (t : TypeDecl) : List Path :=
  t.equation.paths ++ (t.representation.map (·.paths)).getD []

end TypeDecl

namespace Value

def mapLeaves (r : LeafMap) (v : Value) : Value :=
  { v with id := r.ident v.id, type := v.type.mapLeaves r }

end Value

namespace External

def mapLeaves (r : LeafMap) (e : External) : External :=
  { e with id := r.ident e.id, type := e.type.mapLeaves r }

end External

namespace Extension

def mapLeaves (r : LeafMap) (e : Extension) : Extension :=
  { e with
    typePath := r.path e.typePath
    constructors := e.constructors.map (·.mapLeaves r) }

def paths (e : Extension) : List Path := e.typePath :: e.constructors.flatMap (·.paths)

end Extension

end CrossRef
