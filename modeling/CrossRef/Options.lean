/-! Options of a run. -/

namespace CrossRef

structure ResolverOptions where
  openModules : List String := []
  /-- How many aliases and module-type paths one lookup may follow. -/
  maxAliasDepth : UInt64 := 64
  strengthenIncludes : Bool := true
deriving DecidableEq

namespace ResolverOptions

def limit (o : ResolverOptions) : Nat := o.maxAliasDepth.toNat

end ResolverOptions

end CrossRef
