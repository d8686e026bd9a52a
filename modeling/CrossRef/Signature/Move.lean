import CrossRef.Signature.LeafMap

/-! Moving a signature to another place: under another parent, below another path, or with one of
its types replaced by a definition. -/

namespace CrossRef

/-- The place of `id` when the members of `old` become members of `new`. Shadowed members of `old`
are renamed; `none` when `id` does not lie within `old`. -/
def Identifier.moved? (old new : Identifier) (shadowed : Shadowed) : Identifier → Option Identifier
  | .top k n => if .top k n = old then some new else none
  | .child p k n =>
    if .child p k n = old then some new
    else if p = old then
      some (new.child k ((shadowed.hiddenName? (.child p k n)).getD n))
    else (moved? old new shadowed p).map (·.child k n)

namespace Signature

/-- Makes the declarations of a signature members of `parent`. References into the signature
follow, references elsewhere stay. -/
def reparent (sig : Signature) (parent : Identifier) (shadowed : Shadowed) : Signature :=
  match sig.parent? with
  | none => sig
  | some old =>
    if old = parent ∧ shadowed.isEmpty then sig
    else sig.mapLeaves (.identifiers fun id => (Identifier.moved? old parent shadowed id).getD id)

def reroot (sig : Signature) (source : Identifier) (target : ResolvedPath) : Signature :=
  sig.mapLeaves (.reroot source target)

def substituteType (sig : Signature) (target : Identifier) (params : List String)
    (manifest : TypeExpr) : Signature :=
  sig.mapLeaves (.unfoldType target params manifest)

end Signature

end CrossRef
