import CrossRef.Json.Path
import CrossRef.TypeExpr.Basic

/-! The JSON form of type expressions. -/

namespace CrossRef

namespace Label

def toJson : Label → Json
  | labelled name => .tagged "Labelled" (.str name)
  | optional name => .tagged "Optional" (.str name)

def ofJson? (j : Json) : Option Label := do
  match ← j.tagged? with
  | ("Labelled", v) => return labelled (← v.str?)
  | ("Optional", v) => return optional (← v.str?)
  | _ => none

end Label

namespace VariantKind

def toJson : VariantKind → Json
  | fixed => .str "Fixed"
  | closed tags => .tagged "Closed" (.strings tags)
  | extensible => .str "Open"

def ofJson? (j : Json) : Option VariantKind :=
  if j.tag? = some "Fixed" then some fixed
  else if j.tag? = some "Open" then some extensible
  else do
    match ← j.tagged? with
    | ("Closed", v) => return closed (← v.strings?)
    | _ => none

end VariantKind

mutual

def TypeExpr.toJson : TypeExpr → Json
  | .var name => .tagged "Var" (.str name)
  | .any => .str "Any"
  | .arrow label arg ret =>
    .tagged "Arrow"
      (.obj [("label", .ofOption (label.map Label.toJson)), ("arg", arg.toJson),
        ("ret", ret.toJson)])
  | .tuple types => .tagged "Tuple" (.arr (typesToJson types))
  | .constr path args => .tagged "Constr" (.arr [path.toJson, .arr (typesToJson args)])
  | .variant kind elements =>
    .tagged "Variant" (.obj [("kind", kind.toJson), ("elements", .arr (elementsToJson elements))])
  | .object fields isOpen =>
    .tagged "Object" (.obj [("fields", .arr (objectFieldsToJson fields)), ("open", .bool isOpen)])
  | .classRef path args => .tagged "Class" (.arr [path.toJson, .arr (typesToJson args)])
  | .poly vars body => .tagged "Poly" (.arr [.strings vars, body.toJson])
  | .package path constraints =>
    .tagged "Package"
      (.obj [("path", path.toJson), ("substitutions", .arr (packageToJson constraints))])

def typesToJson : List TypeExpr → List Json
  | [] => []
  | t :: ts => t.toJson :: typesToJson ts

def elementsToJson : List VariantElement → List Json
  | [] => []
  | .type t :: es => .tagged "Type" t.toJson :: elementsToJson es
  | .constructor name constant args :: es =>
    .tagged "Constructor"
      (.obj [("name", .str name), ("constant", .bool constant),
        ("arguments", .arr (typesToJson args))]) :: elementsToJson es

def objectFieldsToJson : List ObjectField → List Json
  | [] => []
  | .method name t :: fs =>
    .tagged "Method" (.obj [("name", .str name), ("type_", t.toJson)]) :: objectFieldsToJson fs
  | .inherit t :: fs => .tagged "Inherit" t.toJson :: objectFieldsToJson fs

def packageToJson : List PackageConstraint → List Json
  | [] => []
  | ⟨fragment, t⟩ :: cs => .arr [fragment.toJson, t.toJson] :: packageToJson cs

end

namespace VariantElement

def read (type : Json → Option TypeExpr) (j : Json) : Option VariantElement := do
  match ← j.tagged? with
  | ("Type", v) => return .type (← type v)
  | ("Constructor", v) =>
    return .constructor (← v.get? "name" Json.str?) (← v.get? "constant" Json.bool?)
      (← v.get? "arguments" (Json.list? type))
  | _ => none

end VariantElement

namespace ObjectField

def read (type : Json → Option TypeExpr) (j : Json) : Option ObjectField := do
  match ← j.tagged? with
  | ("Method", v) => return .method (← v.get? "name" Json.str?) (← v.get? "type_" type)
  | ("Inherit", v) => return .inherit (← type v)
  | _ => none

end ObjectField

namespace PackageConstraint

def read (levels : Nat) (type : Json → Option TypeExpr) (j : Json) : Option PackageConstraint := do
  let (fragment, t) ← j.pair?
  return ⟨← Fragment.read levels fragment, ← type t⟩

end PackageConstraint

namespace TypeExpr

def read : (levels : Nat) → Json → Option TypeExpr
  | 0, _ => none
  | levels + 1, j =>
    if j.tag? = some "Any" then some any
    else do
      match ← j.tagged? with
      | ("Var", v) => return var (← v.str?)
      | ("Arrow", v) =>
        return arrow (← v.get? "label" (Json.optional? Label.ofJson?))
          (← v.get? "arg" (read levels)) (← v.get? "ret" (read levels))
      | ("Tuple", v) => return tuple (← v.list? (read levels))
      | ("Constr", v) =>
        let (path, args) ← v.pair?
        return constr (← Path.read levels path) (← args.list? (read levels))
      | ("Variant", v) =>
        return variant (← v.get? "kind" VariantKind.ofJson?)
          (← v.get? "elements" (Json.list? (VariantElement.read (read levels))))
      | ("Object", v) =>
        return object (← v.get? "fields" (Json.list? (ObjectField.read (read levels))))
          (← v.get? "open" Json.bool?)
      | ("Class", v) =>
        let (path, args) ← v.pair?
        return classRef (← Path.read levels path) (← args.list? (read levels))
      | ("Poly", v) =>
        let (vars, body) ← v.pair?
        return poly (← vars.strings?) (← read levels body)
      | ("Package", v) =>
        return package (← v.get? "path" (Path.read levels))
          (← v.get? "substitutions" (Json.list? (PackageConstraint.read levels (read levels))))
      | _ => none

def ofJson? (j : Json) : Option TypeExpr := read j.depth j

end TypeExpr

end CrossRef
