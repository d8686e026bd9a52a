import CrossRef.Declaration
import CrossRef.Json.TypeExpr

/-! The JSON form of declarations that are made of type expressions. -/

namespace CrossRef

namespace TypeEquation

def toJson (eq : TypeEquation) : Json :=
  .obj [("params", .strings eq.params), ("private", .bool eq.isPrivate),
    ("manifest", .ofOption (eq.manifest.map (·.toJson))),
    ("constraints", .arr (eq.constraints.map fun (l, t) => .arr [l.toJson, t.toJson]))]

def readConstraint (levels : Nat) (j : Json) : Option (TypeExpr × TypeExpr) := do
  let (l, t) ← j.pair?
  return (← TypeExpr.read levels l, ← TypeExpr.read levels t)

def read (levels : Nat) (j : Json) : Option TypeEquation := do
  return {
    params := ← j.get? "params" Json.strings?
    isPrivate := ← j.get? "private" Json.bool?
    manifest := ← j.get? "manifest" (Json.optional? (TypeExpr.read levels))
    constraints := ← j.get? "constraints" (Json.list? (readConstraint levels)) }

end TypeEquation

namespace Field

def toJson (f : Field) : Json :=
  .obj [("id", f.id.toJson), ("doc", .strings f.doc), ("mutable", .bool f.isMutable),
    ("type_", f.type.toJson)]

def read (levels : Nat) (j : Json) : Option Field := do
  return {
    id := ← j.get? "id" (Identifier.read levels)
    doc := ← j.get? "doc" Json.strings?
    isMutable := ← j.get? "mutable" Json.bool?
    type := ← j.get? "type_" (TypeExpr.read levels) }

end Field

namespace ConstructorArgs

def toJson : ConstructorArgs → Json
  | tuple types => .tagged "Tuple" (.arr (types.map (·.toJson)))
  | record fields => .tagged "Record" (.arr (fields.map (·.toJson)))

def read (levels : Nat) (j : Json) : Option ConstructorArgs := do
  match ← j.tagged? with
  | ("Tuple", v) => return tuple (← v.list? (TypeExpr.read levels))
  | ("Record", v) => return record (← v.list? (Field.read levels))
  | _ => none

end ConstructorArgs

namespace Constructor

def toJson (c : Constructor) : Json :=
  .obj [("id", c.id.toJson), ("doc", .strings c.doc), ("args", c.args.toJson),
    ("res", .ofOption (c.res.map (·.toJson)))]

def read (levels : Nat) (j : Json) : Option Constructor := do
  return {
    id := ← j.get? "id" (Identifier.read levels)
    doc := ← j.get? "doc" Json.strings?
    args := ← j.get? "args" (ConstructorArgs.read levels)
    res := ← j.get? "res" (Json.optional? (TypeExpr.read levels)) }

end Constructor

namespace TypeRepr

def toJson : TypeRepr → Json
  | variant constructors => .tagged "Variant" (.arr (constructors.map (·.toJson)))
  | record fields => .tagged "Record" (.arr (fields.map (·.toJson)))
  | extensible => .str "Extensible"

def read (levels : Nat) (j : Json) : Option TypeRepr :=
  if j.tag? = some "Extensible" then some extensible
  else do
    match ← j.tagged? with
    | ("Variant", v) => return variant (← v.list? (Constructor.read levels))
    | ("Record", v) => return record (← v.list? (Field.read levels))
    | _ => none

end TypeRepr

namespace TypeDecl

def toJson (t : TypeDecl) : Json :=
  .obj [("id", t.id.toJson), ("doc", .strings t.doc), ("equation", t.equation.toJson),
    ("representation", .ofOption (t.representation.map (·.toJson)))]

def read (levels : Nat) (j : Json) : Option TypeDecl := do
  return {
    id := ← j.get? "id" (Identifier.read levels)
    doc := ← j.get? "doc" Json.strings?
    equation := ← j.get? "equation" (TypeEquation.read levels)
    representation := ← j.get? "representation" (Json.optional? (TypeRepr.read levels)) }

def ofJson? (j : Json) : Option TypeDecl := read j.depth j

end TypeDecl

namespace Value

def toJson (v : Value) : Json :=
  .obj [("id", v.id.toJson), ("doc", .strings v.doc), ("type_", v.type.toJson)]

def read (levels : Nat) (j : Json) : Option Value := do
  return {
    id := ← j.get? "id" (Identifier.read levels)
    doc := ← j.get? "doc" Json.strings?
    type := ← j.get? "type_" (TypeExpr.read levels) }

def ofJson? (j : Json) : Option Value := read j.depth j

end Value

namespace External

def toJson (e : External) : Json :=
  .obj [("id", e.id.toJson), ("doc", .strings e.doc), ("type_", e.type.toJson),
    ("primitives", .strings e.primitives)]

def read (levels : Nat) (j : Json) : Option External := do
  return {
    id := ← j.get? "id" (Identifier.read levels)
    doc := ← j.get? "doc" Json.strings?
    type := ← j.get? "type_" (TypeExpr.read levels)
    primitives := ← j.get? "primitives" Json.strings? }

def ofJson? (j : Json) : Option External := read j.depth j

end External

namespace Extension

def toJson (e : Extension) : Json :=
  .obj [("type_path", e.typePath.toJson), ("doc", .strings e.doc),
    ("type_params", .strings e.typeParams), ("private", .bool e.isPrivate),
    ("constructors", .arr (e.constructors.map (·.toJson)))]

def read (levels : Nat) (j : Json) : Option Extension := do
  return {
    typePath := ← j.get? "type_path" (Path.read levels)
    doc := ← j.get? "doc" Json.strings?
    typeParams := ← j.get? "type_params" Json.strings?
    isPrivate := ← j.get? "private" Json.bool?
    constructors := ← j.get? "constructors" (Json.list? (Constructor.read levels)) }

end Extension

end CrossRef
