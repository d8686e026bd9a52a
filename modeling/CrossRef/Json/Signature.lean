import CrossRef.Json.ClassType
import CrossRef.Signature.Basic

/-! The JSON form of signatures, modules and module-type expressions. -/

namespace CrossRef

namespace Shadowed

def toJson (s : Shadowed) : Json :=
  .obj [("modules", .strings s.modules), ("module_types", .strings s.moduleTypes),
    ("types", .strings s.types), ("values", .strings s.values), ("classes", .strings s.classes),
    ("class_types", .strings s.classTypes)]

def ofJson? (j : Json) : Option Shadowed := do
  return {
    modules := ← j.get? "modules" Json.strings?
    moduleTypes := ← j.get? "module_types" Json.strings?
    types := ← j.get? "types" Json.strings?
    values := ← j.get? "values" Json.strings?
    classes := ← j.get? "classes" Json.strings?
    classTypes := ← j.get? "class_types" Json.strings? }

end Shadowed

namespace TypeOfOrigin

def toJson : TypeOfOrigin → Json
  | moduleType path => .tagged "ModuleType" path.toJson
  | structInclude path => .tagged "StructInclude" path.toJson

def read (levels : Nat) (j : Json) : Option TypeOfOrigin := do
  match ← j.tagged? with
  | ("ModuleType", v) => return moduleType (← Path.read levels v)
  | ("StructInclude", v) => return structInclude (← Path.read levels v)
  | _ => none

def ofJson? (j : Json) : Option TypeOfOrigin := read j.depth j

end TypeOfOrigin

namespace ModuleSubstitution

def toJson (m : ModuleSubstitution) : Json :=
  .obj [("id", m.id.toJson), ("doc", .strings m.doc), ("manifest", m.manifest.toJson)]

def read (levels : Nat) (j : Json) : Option ModuleSubstitution := do
  return {
    id := ← j.get? "id" (Identifier.read levels)
    doc := ← j.get? "doc" Json.strings?
    manifest := ← j.get? "manifest" (Path.read levels) }

end ModuleSubstitution

mutual

def Signature.toJson : Signature → Json
  | ⟨items, compiled, doc⟩ =>
    .obj [("items", .arr (itemsToJson items)), ("compiled", .bool compiled), ("doc", .strings doc)]

def itemsToJson : List Item → List Json
  | [] => []
  | item :: items => item.toJson :: itemsToJson items

def Item.toJson : Item → Json
  | .module m => .tagged "Module" m.toJson
  | .moduleSubstitution m => .tagged "ModuleSubstitution" m.toJson
  | .moduleType m => .tagged "ModuleType" m.toJson
  | .type t => .tagged "Type" t.toJson
  | .typeSubstitution t => .tagged "TypeSubstitution" t.toJson
  | .value v => .tagged "Value" v.toJson
  | .external e => .tagged "External" e.toJson
  | .classDecl c => .tagged "Class" c.toJson
  | .classType c => .tagged "ClassType" c.toJson
  | .extension e => .tagged "TypeExtension" e.toJson
  | .exception e => .tagged "Exception" e.toJson
  | .included i => .tagged "Include" i.toJson
  | .opened doc content =>
    .tagged "Open" (.obj [("doc", .strings doc), ("expansion", content.toJson)])
  | .comment text => .tagged "Comment" (.str text)

def Module.toJson : Module → Json
  | ⟨id, doc, decl, hidden⟩ =>
    .obj [("id", id.toJson), ("doc", .strings doc), ("decl", decl.toJson),
      ("hidden", .bool hidden)]

def ModuleDecl.toJson : ModuleDecl → Json
  | .aliasOf path expansion => .tagged "Alias" (.arr [path.toJson, expansionToJson expansion])
  | .typed expr => .tagged "ModuleType" expr.toJson

def ModuleType.toJson : ModuleType → Json
  | ⟨id, doc, none⟩ => .obj [("id", id.toJson), ("doc", .strings doc), ("expr", .null)]
  | ⟨id, doc, some expr⟩ =>
    .obj [("id", id.toJson), ("doc", .strings doc), ("expr", expr.toJson)]

def expansionToJson : Option StoredExpansion → Json
  | none => .null
  | some expansion => expansion.toJson

def StoredExpansion.toJson : StoredExpansion → Json
  | .signature sig => .tagged "Signature" sig.toJson
  | .functor param body => .tagged "Functor" (.arr [param.toJson, body.toJson])

def FunctorParameter.toJson : FunctorParameter → Json
  | .unit => .str "Unit"
  | .named id expr => .tagged "Named" (.obj [("id", id.toJson), ("expr", expr.toJson)])

def ModuleTypeExpr.toJson : ModuleTypeExpr → Json
  | .path path expansion =>
    .tagged "Path" (.obj [("path", path.toJson), ("expansion", expansionToJson expansion)])
  | .signature sig => .tagged "Signature" sig.toJson
  | .functor param body => .tagged "Functor" (.arr [param.toJson, body.toJson])
  | .constrained constraints base expansion =>
    .tagged "With"
      (.obj [("substitutions", .arr (constraintsToJson constraints)), ("base", base.toJson),
        ("expansion", expansionToJson expansion)])
  | .typeOf origin expansion =>
    .tagged "TypeOf" (.obj [("origin", origin.toJson), ("expansion", expansionToJson expansion)])

def SignatureExpr.toJson : SignatureExpr → Json
  | .path path => .tagged "Path" path.toJson
  | .signature sig => .tagged "Signature" sig.toJson
  | .constrained constraints base =>
    .tagged "With" (.arr [.arr (constraintsToJson constraints), base.toJson])
  | .typeOf origin => .tagged "TypeOf" origin.toJson

def constraintsToJson : List Constraint → List Json
  | [] => []
  | c :: cs => c.toJson :: constraintsToJson cs

def Constraint.toJson : Constraint → Json
  | .moduleEq fragment decl => .tagged "ModuleEq" (.arr [fragment.toJson, decl.toJson])
  | .moduleSubst fragment path => .tagged "ModuleSubst" (.arr [fragment.toJson, path.toJson])
  | .typeEq fragment eq => .tagged "TypeEq" (.arr [fragment.toJson, eq.toJson])
  | .typeSubst fragment eq => .tagged "TypeSubst" (.arr [fragment.toJson, eq.toJson])

def Include.toJson : Include → Json
  | ⟨parent, doc, decl, strengthened, shadowed, content⟩ =>
    .obj [("parent", parent.toJson), ("doc", .strings doc), ("decl", decl.toJson),
      ("strengthened", .ofOption (strengthened.map (·.toJson))),
      ("expansion", .obj [("shadowed", shadowed.toJson), ("content", content.toJson)])]

def IncludeDecl.toJson : IncludeDecl → Json
  | .aliasOf path => .tagged "Alias" path.toJson
  | .typed expr => .tagged "ModuleType" expr.toJson

end

mutual

def Signature.read : (levels : Nat) → Json → Option Signature
  | 0, _ => none
  | levels + 1, j => do
    return {
      items := ← j.get? "items" (Json.list? (Item.read levels))
      compiled := ← j.get? "compiled" Json.bool?
      doc := ← j.get? "doc" Json.strings? }

def Item.read : (levels : Nat) → Json → Option Item
  | 0, _ => none
  | levels + 1, j => do
    match ← j.tagged? with
    | ("Module", v) => return .module (← Module.read levels v)
    | ("ModuleSubstitution", v) => return .moduleSubstitution (← ModuleSubstitution.read levels v)
    | ("ModuleType", v) => return .moduleType (← ModuleType.read levels v)
    | ("Type", v) => return .type (← TypeDecl.read levels v)
    | ("TypeSubstitution", v) => return .typeSubstitution (← TypeDecl.read levels v)
    | ("Value", v) => return .value (← Value.read levels v)
    | ("External", v) => return .external (← External.read levels v)
    | ("Class", v) => return .classDecl (← Class.read levels v)
    | ("ClassType", v) => return .classType (← ClassType.read levels v)
    | ("TypeExtension", v) => return .extension (← Extension.read levels v)
    | ("Exception", v) => return .exception (← Constructor.read levels v)
    | ("Include", v) => return .included (← Include.read levels v)
    | ("Open", v) =>
      return .opened (← v.get? "doc" Json.strings?) (← v.get? "expansion" (Signature.read levels))
    | ("Comment", v) => return .comment (← v.str?)
    | _ => none

def Module.read : (levels : Nat) → Json → Option Module
  | 0, _ => none
  | levels + 1, j => do
    return {
      id := ← j.get? "id" (Identifier.read levels)
      doc := ← j.get? "doc" Json.strings?
      decl := ← j.get? "decl" (ModuleDecl.read levels)
      hidden := ← j.get? "hidden" Json.bool? }

def ModuleDecl.read : (levels : Nat) → Json → Option ModuleDecl
  | 0, _ => none
  | levels + 1, j => do
    match ← j.tagged? with
    | ("Alias", v) =>
      let (path, expansion) ← v.pair?
      return .aliasOf (← Path.read levels path)
        (← expansion.optional? (StoredExpansion.read levels))
    | ("ModuleType", v) => return .typed (← ModuleTypeExpr.read levels v)
    | _ => none

def ModuleType.read : (levels : Nat) → Json → Option ModuleType
  | 0, _ => none
  | levels + 1, j => do
    return {
      id := ← j.get? "id" (Identifier.read levels)
      doc := ← j.get? "doc" Json.strings?
      expr := ← j.get? "expr" (Json.optional? (ModuleTypeExpr.read levels)) }

def StoredExpansion.read : (levels : Nat) → Json → Option StoredExpansion
  | 0, _ => none
  | levels + 1, j => do
    match ← j.tagged? with
    | ("Signature", v) => return .signature (← Signature.read levels v)
    | ("Functor", v) =>
      let (param, body) ← v.pair?
      return .functor (← FunctorParameter.read levels param) (← StoredExpansion.read levels body)
    | _ => none

def FunctorParameter.read : (levels : Nat) → Json → Option FunctorParameter
  | 0, _ => none
  | levels + 1, j =>
    if j.tag? = some "Unit" then some .unit
    else do
      match ← j.tagged? with
      | ("Named", v) =>
        return .named (← v.get? "id" (Identifier.read levels))
          (← v.get? "expr" (ModuleTypeExpr.read levels))
      | _ => none

def ModuleTypeExpr.read : (levels : Nat) → Json → Option ModuleTypeExpr
  | 0, _ => none
  | levels + 1, j => do
    match ← j.tagged? with
    | ("Path", v) =>
      return .path (← v.get? "path" (Path.read levels))
        (← v.get? "expansion" (Json.optional? (StoredExpansion.read levels)))
    | ("Signature", v) => return .signature (← Signature.read levels v)
    | ("Functor", v) =>
      let (param, body) ← v.pair?
      return .functor (← FunctorParameter.read levels param) (← ModuleTypeExpr.read levels body)
    | ("With", v) =>
      return .constrained (← v.get? "substitutions" (Json.list? (Constraint.read levels)))
        (← v.get? "base" (SignatureExpr.read levels))
        (← v.get? "expansion" (Json.optional? (StoredExpansion.read levels)))
    | ("TypeOf", v) =>
      return .typeOf (← v.get? "origin" (TypeOfOrigin.read levels))
        (← v.get? "expansion" (Json.optional? (StoredExpansion.read levels)))
    | _ => none

def SignatureExpr.read : (levels : Nat) → Json → Option SignatureExpr
  | 0, _ => none
  | levels + 1, j => do
    match ← j.tagged? with
    | ("Path", v) => return .path (← Path.read levels v)
    | ("Signature", v) => return .signature (← Signature.read levels v)
    | ("With", v) =>
      let (constraints, base) ← v.pair?
      return .constrained (← constraints.list? (Constraint.read levels))
        (← SignatureExpr.read levels base)
    | ("TypeOf", v) => return .typeOf (← TypeOfOrigin.read levels v)
    | _ => none

def Constraint.read : (levels : Nat) → Json → Option Constraint
  | 0, _ => none
  | levels + 1, j => do
    let (tag, v) ← j.tagged?
    let (fragment, v) ← v.pair?
    match tag with
    | "ModuleEq" => return .moduleEq (← Fragment.read levels fragment) (← ModuleDecl.read levels v)
    | "ModuleSubst" => return .moduleSubst (← Fragment.read levels fragment) (← Path.read levels v)
    | "TypeEq" => return .typeEq (← Fragment.read levels fragment) (← TypeEquation.read levels v)
    | "TypeSubst" =>
      return .typeSubst (← Fragment.read levels fragment) (← TypeEquation.read levels v)
    | _ => none

def Include.read : (levels : Nat) → Json → Option Include
  | 0, _ => none
  | levels + 1, j => do
    let expansion ← j.field? "expansion"
    return {
      parent := ← j.get? "parent" (Identifier.read levels)
      doc := ← j.get? "doc" Json.strings?
      decl := ← j.get? "decl" (IncludeDecl.read levels)
      strengthened := ← j.get? "strengthened" (Json.optional? (Path.read levels))
      shadowed := ← expansion.get? "shadowed" Shadowed.ofJson?
      content := ← expansion.get? "content" (Signature.read levels) }

def IncludeDecl.read : (levels : Nat) → Json → Option IncludeDecl
  | 0, _ => none
  | levels + 1, j => do
    match ← j.tagged? with
    | ("Alias", v) => return .aliasOf (← Path.read levels v)
    | ("ModuleType", v) => return .typed (← SignatureExpr.read levels v)
    | _ => none

end

namespace Signature

def ofJson? (j : Json) : Option Signature := read j.depth j

end Signature

namespace Item

def ofJson? (j : Json) : Option Item := read j.depth j

end Item

namespace Module

def ofJson? (j : Json) : Option Module := read j.depth j

end Module

namespace ModuleType

def ofJson? (j : Json) : Option ModuleType := read j.depth j

end ModuleType

namespace StoredExpansion

def ofJson? (j : Json) : Option StoredExpansion := read j.depth j

end StoredExpansion

namespace FunctorParameter

def ofJson? (j : Json) : Option FunctorParameter := read j.depth j

end FunctorParameter

namespace ModuleTypeExpr

def ofJson? (j : Json) : Option ModuleTypeExpr := read j.depth j

end ModuleTypeExpr

namespace SignatureExpr

def ofJson? (j : Json) : Option SignatureExpr := read j.depth j

end SignatureExpr

namespace Constraint

def ofJson? (j : Json) : Option Constraint := read j.depth j

end Constraint

namespace FunctorArgument

def toJson (arg : FunctorArgument) : Json :=
  .obj [("id", arg.id.toJson), ("expr", arg.expr.toJson)]

def ofJson? (j : Json) : Option FunctorArgument := do
  return ⟨← j.get? "id" Identifier.ofJson?, ← j.get? "expr" ModuleTypeExpr.ofJson?⟩

end FunctorArgument

end CrossRef
