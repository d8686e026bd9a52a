import CrossRef.Signature.Basic

/-! Compilation units. -/

namespace CrossRef

inductive Import where
  | unresolved (name : String)
  | resolved (root : Identifier) (name : String)

namespace Import

def name : Import → String
  | unresolved n => n
  | resolved _ n => n

end Import

structure Packed where
  id : Identifier
  path : Path

namespace Packed

def toModule (p : Packed) : Module := ⟨p.id, [], .aliasOf p.path none, false⟩

end Packed

inductive UnitContent where
  | module (sig : Signature)
  | pack (packed : List Packed)

namespace UnitContent

def signature : UnitContent → Signature
  | module sig => sig
  | pack packed => .ofItems (packed.map fun p => .module p.toModule)

end UnitContent

structure CompilationUnit where
  id : Identifier
  doc : Docs
  imports : List Import
  content : UnitContent
  hidden : Bool

namespace CompilationUnit

def name (unit : CompilationUnit) : String := unit.id.name

end CompilationUnit

end CrossRef
