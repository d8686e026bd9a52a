import CrossRef.Fragment
import CrossRef.Json.Basic
import CrossRef.Path

/-! The JSON form of identifiers, paths and fragments. Readers of nested values take the number of
levels they may enter. -/

namespace CrossRef

namespace IdentKind

def all : List IdentKind :=
  [root, module, parameter, result, moduleType, type, coreType, value, classDecl, classType,
    exception, extension, constructor, field, method, instanceVariable]

def jsonName : IdentKind → String
  | root => "Root"
  | module => "Module"
  | parameter => "Parameter"
  | result => "Result"
  | moduleType => "ModuleType"
  | type => "Type"
  | coreType => "CoreType"
  | value => "Value"
  | classDecl => "Class"
  | classType => "ClassType"
  | exception => "Exception"
  | extension => "Extension"
  | constructor => "Constructor"
  | field => "Field"
  | method => "Method"
  | instanceVariable => "InstanceVariable"

def toJson (k : IdentKind) : Json := .str k.jsonName

def ofJson? (j : Json) : Option IdentKind := do
  let tag ← j.tag?
  all.find? (·.jsonName = tag)

end IdentKind

namespace PathKind

def all : List PathKind := [module, moduleType, type, classType]

def jsonName : PathKind → String
  | module => "Module"
  | moduleType => "ModuleType"
  | type => "Type"
  | classType => "ClassType"

def toJson (k : PathKind) : Json := .str k.jsonName

def ofJson? (j : Json) : Option PathKind := do
  let tag ← j.tag?
  all.find? (·.jsonName = tag)

end PathKind

namespace Identifier

def toJson : Identifier → Json
  | top kind name => .obj [("kind", kind.toJson), ("name", .str name), ("parent", .null)]
  | child parent kind name =>
    .obj [("kind", kind.toJson), ("name", .str name), ("parent", parent.toJson)]

def read : (levels : Nat) → Json → Option Identifier
  | 0, _ => none
  | levels + 1, j => do
    let kind ← j.get? "kind" IdentKind.ofJson?
    let name ← j.get? "name" Json.str?
    match ← j.get? "parent" (Json.optional? (read levels)) with
    | none => return top kind name
    | some parent => return child parent kind name

def ofJson? (j : Json) : Option Identifier := read j.depth j

end Identifier

namespace ResolvedPath

def toJson : ResolvedPath → Json
  | identifier id => .tagged "Identifier" id.toJson
  | apply functor argument =>
    .tagged "Apply" (.obj [("functor", functor.toJson), ("argument", argument.toJson)])
  | dot parent kind name =>
    .tagged "Dot" (.obj [("parent", parent.toJson), ("kind", kind.toJson), ("name", .str name)])

def read : (levels : Nat) → Json → Option ResolvedPath
  | 0, _ => none
  | levels + 1, j => do
    match ← j.tagged? with
    | ("Identifier", v) => return identifier (← Identifier.read levels v)
    | ("Apply", v) =>
      return apply (← v.get? "functor" (read levels)) (← v.get? "argument" (read levels))
    | ("Dot", v) =>
      return dot (← v.get? "parent" (read levels)) (← v.get? "kind" IdentKind.ofJson?)
        (← v.get? "name" Json.str?)
    | _ => none

def ofJson? (j : Json) : Option ResolvedPath := read j.depth j

end ResolvedPath

namespace Path

def toJson : Path → Json
  | resolved path => .tagged "Resolved" path.toJson
  | root name => .tagged "Unresolved" (.tagged "Root" (.str name))
  | dot parent name =>
    .tagged "Unresolved" (.tagged "Dot" (.arr [parent.toJson, .str name]))
  | apply functor argument =>
    .tagged "Unresolved" (.tagged "Apply" (.arr [functor.toJson, argument.toJson]))

def read : (levels : Nat) → Json → Option Path
  | 0, _ => none
  | levels + 1, j => do
    match ← j.tagged? with
    | ("Resolved", v) => return resolved (← ResolvedPath.read levels v)
    | ("Unresolved", v) =>
      match ← v.tagged? with
      | ("Root", v) => return root (← v.str?)
      | ("Dot", v) =>
        let (parent, name) ← v.pair?
        return dot (← read levels parent) (← name.str?)
      | ("Apply", v) =>
        let (functor, argument) ← v.pair?
        return apply (← read levels functor) (← read levels argument)
      | _ => none
    | _ => none

def ofJson? (j : Json) : Option Path := read j.depth j

end Path

namespace ResolvedFragment

def toJson : ResolvedFragment → Json
  | root => .str "Root"
  | module parent name => .tagged "Module" (.arr [parent.toJson, .str name])
  | type parent name => .tagged "Type" (.arr [parent.toJson, .str name])

def read : (levels : Nat) → Json → Option ResolvedFragment
  | 0, _ => none
  | levels + 1, j =>
    if j.tag? = some "Root" then some root
    else do
      match ← j.tagged? with
      | ("Module", v) =>
        let (parent, name) ← v.pair?
        return module (← read levels parent) (← name.str?)
      | ("Type", v) =>
        let (parent, name) ← v.pair?
        return type (← read levels parent) (← name.str?)
      | _ => none

end ResolvedFragment

namespace Fragment

def toJson : Fragment → Json
  | resolved fragment => .tagged "Resolved" fragment.toJson
  | root => .tagged "Unresolved" (.str "Root")
  | dot parent name => .tagged "Unresolved" (.tagged "Dot" (.arr [parent.toJson, .str name]))

def read : (levels : Nat) → Json → Option Fragment
  | 0, _ => none
  | levels + 1, j => do
    match ← j.tagged? with
    | ("Resolved", v) => return resolved (← ResolvedFragment.read levels v)
    | ("Unresolved", v) =>
      if v.tag? = some "Root" then return root
      else
        match ← v.tagged? with
        | ("Dot", v) =>
          let (parent, name) ← v.pair?
          return dot (← read levels parent) (← name.str?)
        | _ => none
    | _ => none

def ofJson? (j : Json) : Option Fragment := read j.depth j

end Fragment

end CrossRef
