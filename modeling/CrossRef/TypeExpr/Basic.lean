import CrossRef.Fragment
import CrossRef.Path

/-! Type expressions. -/

namespace CrossRef

inductive Label where
  | labelled (name : String)
  | optional (name : String)
deriving DecidableEq

/-- Which tags a polymorphic variant admits; `closed` lists the tags that must be present. -/
inductive VariantKind where
  | fixed
  | closed (tags : List String)
  | extensible
deriving DecidableEq

mutual

inductive TypeExpr where
  | var (name : String)
  | any
  | arrow (label : Option Label) (arg ret : TypeExpr)
  | tuple (types : List TypeExpr)
  | constr (path : Path) (args : List TypeExpr)
  | variant (kind : VariantKind) (elements : List VariantElement)
  | object (fields : List ObjectField) (isOpen : Bool)
  | classRef (path : Path) (args : List TypeExpr)
  | poly (vars : List String) (body : TypeExpr)
  | package (path : Path) (constraints : List PackageConstraint)

inductive VariantElement where
  | type (type : TypeExpr)
  | constructor (name : String) (constant : Bool) (arguments : List TypeExpr)

inductive ObjectField where
  | method (name : String) (type : TypeExpr)
  | inherit (type : TypeExpr)

structure PackageConstraint where
  fragment : Fragment
  type : TypeExpr

end

end CrossRef
