import CrossRef.ClassType
import CrossRef.Json.Declaration

/-! The JSON form of classes and class types. -/

namespace CrossRef

namespace Method

def toJson (m : Method) : Json :=
  .obj [("id", m.id.toJson), ("doc", .strings m.doc), ("private", .bool m.isPrivate),
    ("virtual_", .bool m.isVirtual), ("type_", m.type.toJson)]

def read (levels : Nat) (j : Json) : Option Method := do
  return {
    id := ← j.get? "id" (Identifier.read levels)
    doc := ← j.get? "doc" Json.strings?
    isPrivate := ← j.get? "private" Json.bool?
    isVirtual := ← j.get? "virtual_" Json.bool?
    type := ← j.get? "type_" (TypeExpr.read levels) }

end Method

namespace InstanceVariable

def toJson (v : InstanceVariable) : Json :=
  .obj [("id", v.id.toJson), ("doc", .strings v.doc), ("mutable", .bool v.isMutable),
    ("virtual_", .bool v.isVirtual), ("type_", v.type.toJson)]

def read (levels : Nat) (j : Json) : Option InstanceVariable := do
  return {
    id := ← j.get? "id" (Identifier.read levels)
    doc := ← j.get? "doc" Json.strings?
    isMutable := ← j.get? "mutable" Json.bool?
    isVirtual := ← j.get? "virtual_" Json.bool?
    type := ← j.get? "type_" (TypeExpr.read levels) }

end InstanceVariable

mutual

def ClassTypeExpr.toJson : ClassTypeExpr → Json
  | .constr path args => .tagged "Constr" (.arr [path.toJson, .arr (args.map (·.toJson))])
  | .signature sig => .tagged "Signature" sig.toJson

def ClassSignature.toJson : ClassSignature → Json
  | ⟨self, items⟩ =>
    .obj [("self_", .ofOption (self.map (·.toJson))), ("items", .arr (classItemsToJson items))]

def classItemsToJson : List ClassItem → List Json
  | [] => []
  | item :: items => item.toJson :: classItemsToJson items

def ClassItem.toJson : ClassItem → Json
  | .method m => .tagged "Method" m.toJson
  | .instanceVariable v => .tagged "InstanceVariable" v.toJson
  | .constraint lhs rhs => .tagged "Constraint" (.arr [lhs.toJson, rhs.toJson])
  | .inherit expr => .tagged "Inherit" expr.toJson
  | .comment text => .tagged "Comment" (.str text)

end

mutual

def ClassTypeExpr.read : (levels : Nat) → Json → Option ClassTypeExpr
  | 0, _ => none
  | levels + 1, j => do
    match ← j.tagged? with
    | ("Constr", v) =>
      let (path, args) ← v.pair?
      return .constr (← Path.read levels path) (← args.list? (TypeExpr.read levels))
    | ("Signature", v) => return .signature (← ClassSignature.read levels v)
    | _ => none

def ClassSignature.read : (levels : Nat) → Json → Option ClassSignature
  | 0, _ => none
  | levels + 1, j => do
    return {
      self := ← j.get? "self_" (Json.optional? (TypeExpr.read levels))
      items := ← j.get? "items" (Json.list? (ClassItem.read levels)) }

def ClassItem.read : (levels : Nat) → Json → Option ClassItem
  | 0, _ => none
  | levels + 1, j => do
    match ← j.tagged? with
    | ("Method", v) => return .method (← Method.read levels v)
    | ("InstanceVariable", v) => return .instanceVariable (← InstanceVariable.read levels v)
    | ("Constraint", v) =>
      let (lhs, rhs) ← v.pair?
      return .constraint (← TypeExpr.read levels lhs) (← TypeExpr.read levels rhs)
    | ("Inherit", v) => return .inherit (← ClassTypeExpr.read levels v)
    | ("Comment", v) => return .comment (← v.str?)
    | _ => none

end

namespace ClassDecl

def toJson : ClassDecl → Json
  | classType expr => .tagged "ClassType" expr.toJson
  | arrow label arg body =>
    .tagged "Arrow" (.arr [.ofOption (label.map (·.toJson)), arg.toJson, body.toJson])

def read : (levels : Nat) → Json → Option ClassDecl
  | 0, _ => none
  | levels + 1, j => do
    match ← j.tagged? with
    | ("ClassType", v) => return classType (← ClassTypeExpr.read levels v)
    | ("Arrow", .arr [label, arg, body]) =>
      return arrow (← label.optional? Label.ofJson?) (← TypeExpr.read levels arg)
        (← read levels body)
    | _ => none

end ClassDecl

namespace Class

def toJson (c : Class) : Json :=
  .obj [("id", c.id.toJson), ("doc", .strings c.doc), ("virtual_", .bool c.isVirtual),
    ("params", .strings c.params), ("decl", c.decl.toJson),
    ("expansion", .ofOption (c.expansion.map (·.toJson)))]

def read (levels : Nat) (j : Json) : Option Class := do
  return {
    id := ← j.get? "id" (Identifier.read levels)
    doc := ← j.get? "doc" Json.strings?
    isVirtual := ← j.get? "virtual_" Json.bool?
    params := ← j.get? "params" Json.strings?
    decl := ← j.get? "decl" (ClassDecl.read levels)
    expansion := ← j.get? "expansion" (Json.optional? (ClassSignature.read levels)) }

def ofJson? (j : Json) : Option Class := read j.depth j

end Class

namespace ClassType

def toJson (c : ClassType) : Json :=
  .obj [("id", c.id.toJson), ("doc", .strings c.doc), ("virtual_", .bool c.isVirtual),
    ("params", .strings c.params), ("expr", c.expr.toJson),
    ("expansion", .ofOption (c.expansion.map (·.toJson)))]

def read (levels : Nat) (j : Json) : Option ClassType := do
  return {
    id := ← j.get? "id" (Identifier.read levels)
    doc := ← j.get? "doc" Json.strings?
    isVirtual := ← j.get? "virtual_" Json.bool?
    params := ← j.get? "params" Json.strings?
    expr := ← j.get? "expr" (ClassTypeExpr.read levels)
    expansion := ← j.get? "expansion" (Json.optional? (ClassSignature.read levels)) }

def ofJson? (j : Json) : Option ClassType := read j.depth j

end ClassType

end CrossRef
