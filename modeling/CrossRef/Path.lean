import CrossRef.Dotted
import CrossRef.Identifier

/-! Paths: references to declarations from the place where they are written. -/

namespace CrossRef

inductive PathKind where
  | module
  | moduleType
  | type
  | classType
deriving DecidableEq

namespace PathKind

def text : PathKind → String
  | module => "module"
  | moduleType => "module type"
  | type => "type"
  | classType => "class type"

end PathKind

/-- A path whose target is known. `dot` is only needed below an application, because members of
an identified module have identifiers of their own. -/
inductive ResolvedPath where
  | identifier (id : Identifier)
  | apply (functor argument : ResolvedPath)
  | dot (parent : ResolvedPath) (kind : IdentKind) (name : String)
deriving DecidableEq

namespace ResolvedPath

def child : ResolvedPath → IdentKind → String → ResolvedPath
  | identifier id, kind, name => identifier (id.child kind name)
  | path, kind, name => path.dot kind name

def identifier? : ResolvedPath → Option Identifier
  | identifier id => some id
  | _ => none

def mapIdentifiers (f : Identifier → Identifier) : ResolvedPath → ResolvedPath
  | identifier id => identifier (f id)
  | apply functor argument => apply (functor.mapIdentifiers f) (argument.mapIdentifiers f)
  | dot parent kind name => dot (parent.mapIdentifiers f) kind name

def rerootIdentifier (source : Identifier) (target : ResolvedPath) :
    Identifier → Option ResolvedPath
  | .top k n => if .top k n = source then some target else none
  | .child p k n =>
    if .child p k n = source then some target
    else (rerootIdentifier source target p).map (·.child k n)

/-- Makes what went through `source` go through `target`; `none` when `source` is not mentioned. -/
def reroot : (path : ResolvedPath) → (source : Identifier) → (target : ResolvedPath) →
    Option ResolvedPath
  | identifier id, source, target => rerootIdentifier source target id
  | apply functor argument, source, target =>
    match functor.reroot source target, argument.reroot source target with
    | none, none => none
    | f, a => some (apply (f.getD functor) (a.getD argument))
  | dot parent kind name, source, target =>
    (parent.reroot source target).map (·.child kind name)

def text : ResolvedPath → String
  | identifier id => id.text
  | apply functor argument => functor.text ++ "(" ++ argument.text ++ ")"
  | dot parent _ name => parent.text ++ "." ++ name

end ResolvedPath

/-- A path as it stands in a declaration: resolved, or what was written. -/
inductive Path where
  | resolved (path : ResolvedPath)
  | root (name : String)
  | dot (parent : Path) (name : String)
  | apply (functor argument : Path)
deriving DecidableEq

namespace Path

def ofIdentifier (id : Identifier) : Path := resolved (.identifier id)

def dotted (text : String) : Path :=
  match Dotted.split text with
  | [] => root ""
  | name :: names => names.foldl dot (root name)

def isResolved : Path → Bool
  | resolved _ => true
  | _ => false

def mapResolved (f : ResolvedPath → ResolvedPath) : Path → Path
  | resolved path => resolved (f path)
  | root name => root name
  | dot parent name => dot (parent.mapResolved f) name
  | apply functor argument => apply (functor.mapResolved f) (argument.mapResolved f)

def unresolvedSteps : Path → Nat
  | resolved _ => 0
  | root _ => 1
  | dot parent _ => parent.unresolvedSteps + 1
  | apply functor argument => functor.unresolvedSteps + argument.unresolvedSteps + 1

def text : Path → String
  | resolved path => path.text
  | root name => name
  | dot parent name => parent.text ++ "." ++ name
  | apply functor argument => functor.text ++ "(" ++ argument.text ++ ")"

end Path

end CrossRef
