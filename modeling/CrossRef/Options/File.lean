import CrossRef.Error
import CrossRef.Options
import CrossRef.Toml.Document

/-! Options as they are written in a TOML file. -/

namespace CrossRef.ResolverOptions

def entry {α : Type} (table : Toml.Table) (key : String) (default : α)
    (read : Toml.Value → Option α) : Except ConfigError α :=
  match table.get? key with
  | none => .ok default
  | some value =>
    match read value with
    | some a => .ok a
    | none => .error (.parse ("invalid value for key `" ++ key ++ "`"))

def readNames : Toml.Value → Option (List String)
  | .array values => values.mapM fun
    | .str name => some name
    | _ => none
  | _ => none

def readDepth : Toml.Value → Option UInt64
  | .int (.ofNat n) => if h : n < UInt64.size then some (.ofNatLT n h) else none
  | _ => none

def readFlag : Toml.Value → Option Bool
  | .bool b => some b
  | _ => none

/-- Missing entries take their defaults and unknown ones are passed over. -/
def ofToml (text : String) : Except ConfigError ResolverOptions :=
  let defaults : ResolverOptions := {}
  match Toml.parse? text with
  | none => .error (.parse "not a TOML document")
  | some table => do
    return {
      openModules := ← entry table "open_modules" defaults.openModules readNames
      maxAliasDepth := ← entry table "max_alias_depth" defaults.maxAliasDepth readDepth
      strengthenIncludes :=
        ← entry table "strengthen_includes" defaults.strengthenIncludes readFlag }

def ofFile (content : Option ByteArray) : Except ConfigError ResolverOptions :=
  match content with
  | none => .error (.read "the file does not exist")
  | some bytes =>
    match String.fromUTF8? bytes with
    | none => .error (.read "the file is not UTF-8 text")
    | some text => ofToml text

end CrossRef.ResolverOptions
