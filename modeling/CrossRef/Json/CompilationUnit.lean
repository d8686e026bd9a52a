import CrossRef.CompilationUnit
import CrossRef.Json.Signature
import CrossRef.Options

/-! The JSON form of units and options. -/

namespace CrossRef

namespace Import

def toJson : Import → Json
  | unresolved name => .tagged "Unresolved" (.str name)
  | resolved root name =>
    .tagged "Resolved" (.obj [("root", root.toJson), ("name", .str name)])

def read (levels : Nat) (j : Json) : Option Import := do
  match ← j.tagged? with
  | ("Unresolved", v) => return unresolved (← v.str?)
  | ("Resolved", v) =>
    return resolved (← v.get? "root" (Identifier.read levels)) (← v.get? "name" Json.str?)
  | _ => none

def ofJson? (j : Json) : Option Import := read j.depth j

end Import

namespace Packed

def toJson (p : Packed) : Json := .obj [("id", p.id.toJson), ("path", p.path.toJson)]

def read (levels : Nat) (j : Json) : Option Packed := do
  return ⟨← j.get? "id" (Identifier.read levels), ← j.get? "path" (Path.read levels)⟩

end Packed

namespace UnitContent

def toJson : UnitContent → Json
  | module sig => .tagged "Module" sig.toJson
  | pack packed => .tagged "Pack" (.arr (packed.map (·.toJson)))

def read (levels : Nat) (j : Json) : Option UnitContent := do
  match ← j.tagged? with
  | ("Module", v) => return module (← Signature.read levels v)
  | ("Pack", v) => return pack (← v.list? (Packed.read levels))
  | _ => none

end UnitContent

namespace CompilationUnit

def toJson (unit : CompilationUnit) : Json :=
  .obj [("id", unit.id.toJson), ("doc", .strings unit.doc),
    ("imports", .arr (unit.imports.map (·.toJson))), ("content", unit.content.toJson),
    ("hidden", .bool unit.hidden)]

def read (levels : Nat) (j : Json) : Option CompilationUnit := do
  return {
    id := ← j.get? "id" (Identifier.read levels)
    doc := ← j.get? "doc" Json.strings?
    imports := ← j.get? "imports" (Json.list? (Import.read levels))
    content := ← j.get? "content" (UnitContent.read levels)
    hidden := ← j.get? "hidden" Json.bool? }

def ofJson? (j : Json) : Option CompilationUnit := read j.depth j

end CompilationUnit

namespace Json

/-- Reads a member that has a default. Unlike a missing member, `null` is no value here. -/
def getD? {α : Type} (j : Json) (key : String) (read : Json → Option α) (default : α) :
    Option α :=
  match j with
  | obj members =>
    match members.lookup key with
    | none => some default
    | some v => read v
  | _ => none

def word? (j : Json) : Option UInt64 := do
  let n ← j.nat?
  if h : n < UInt64.size then some (.ofNatLT n h) else none

end Json

namespace ResolverOptions

def toJson (o : ResolverOptions) : Json :=
  .obj [("open_modules", .strings o.openModules), ("max_alias_depth", .nat o.limit),
    ("strengthen_includes", .bool o.strengthenIncludes)]

def ofJson? (j : Json) : Option ResolverOptions := do
  let defaults : ResolverOptions := {}
  return {
    openModules := ← j.getD? "open_modules" Json.strings? defaults.openModules
    maxAliasDepth := ← j.getD? "max_alias_depth" Json.word? defaults.maxAliasDepth
    strengthenIncludes := ← j.getD? "strengthen_includes" Json.bool? defaults.strengthenIncludes }

end ResolverOptions

end CrossRef
