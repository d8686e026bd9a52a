/-! Identifiers: every declaration has one, and it records where the declaration was bound. -/

namespace CrossRef

inductive IdentKind where
  | root
  | module
  | parameter
  | result
  | moduleType
  | type
  | coreType
  | value
  | classDecl
  | classType
  | exception
  | extension
  | constructor
  | field
  | method
  | instanceVariable
deriving DecidableEq

namespace IdentKind

def isModuleLike : IdentKind → Bool
  | root | module | parameter => true
  | _ => false

end IdentKind

/-- `top` stands at the head of a chain, `child` is bound below its parent. -/
inductive Identifier where
  | top (kind : IdentKind) (name : String)
  | child (parent : Identifier) (kind : IdentKind) (name : String)
deriving DecidableEq

namespace Identifier

def root (name : String) : Identifier := top .root name

def coreType (name : String) : Identifier := top .coreType name

def result (id : Identifier) : Identifier := child id .result ""

def kind : Identifier → IdentKind
  | top k _ => k
  | child _ k _ => k

def name : Identifier → String
  | top _ n => n
  | child _ _ n => n

def parent? : Identifier → Option Identifier
  | top _ _ => none
  | child p _ _ => some p

def ancestors : Identifier → List Identifier
  | top k n => [top k n]
  | child p k n => child p k n :: p.ancestors

def displayName : Identifier → String
  | top _ n => n
  | child p _ n => if n = "" then p.displayName else n

def isWithin (id other : Identifier) : Bool := other ∈ id.ancestors

def rebase : (id source target : Identifier) → Option Identifier
  | top k n, source, target => if top k n = source then some target else none
  | child p k n, source, target =>
    if child p k n = source then some target
    else (p.rebase source target).map (child · k n)

/-- Names in braces cannot be written in source text; shadowed members are renamed to them. -/
def isHidden (id : Identifier) : Bool := id.name.toList.head? = some '\x7b'

def text : Identifier → String
  | top _ n => n
  | child p _ n => if n = "" then p.text else p.text ++ "." ++ n

end Identifier

def coreTypes : List String :=
  ["int", "char", "string", "bytes", "float", "bool", "unit", "exn", "array", "list",
    "option", "int32", "int64", "nativeint", "lazy_t", "format6", "extension_constructor"]

end CrossRef
