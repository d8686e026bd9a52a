import CrossRef.Dotted

/-! Fragments: references relative to a signature, as on the left of a `with` constraint. -/

namespace CrossRef

inductive ResolvedFragment where
  | root
  | module (parent : ResolvedFragment) (name : String)
  | type (parent : ResolvedFragment) (name : String)
deriving DecidableEq

namespace ResolvedFragment

def segments : ResolvedFragment → List String
  | root => []
  | module parent name => parent.segments ++ [name]
  | type parent name => parent.segments ++ [name]

def text (fragment : ResolvedFragment) : String := Dotted.join fragment.segments

end ResolvedFragment

inductive Fragment where
  | resolved (fragment : ResolvedFragment)
  | root
  | dot (parent : Fragment) (name : String)
deriving DecidableEq

namespace Fragment

def dotted (text : String) : Fragment := (Dotted.split text).foldl dot root

def resolved? : Fragment → Option ResolvedFragment
  | resolved fragment => some fragment
  | _ => none

def isResolved (fragment : Fragment) : Bool := fragment.resolved?.isSome

def segments : Fragment → List String
  | resolved fragment => fragment.segments
  | root => []
  | dot parent name => parent.segments ++ [name]

def text (fragment : Fragment) : String := Dotted.join fragment.segments

end Fragment

end CrossRef
