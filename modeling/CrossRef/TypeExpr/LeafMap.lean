import CrossRef.TypeExpr.Basic

/-! Maps on leaves: identifiers, paths, and the two leaves of type expressions that can give way to
other expressions, variables and applied constructors. -/

namespace CrossRef

/-- What becomes of each sort of leaf. An application's arguments are changed before `constr`
sees them. -/
structure LeafMap where
  ident : Identifier → Identifier := id
  path : Path → Path := id
  var : String → TypeExpr := .var
  constr : Path → List TypeExpr → TypeExpr := fun p args => .constr (path p) args

namespace LeafMap

def identifiers (f : Identifier → Identifier) : LeafMap where
  ident := f
  path := Path.mapResolved (ResolvedPath.mapIdentifiers f)

def reroot (source : Identifier) (target : ResolvedPath) : LeafMap where
  path := Path.mapResolved fun p => (p.reroot source target).getD p

end LeafMap

mutual

def TypeExpr.mapLeaves (r : LeafMap) : TypeExpr → TypeExpr
  | .var name => r.var name
  | .any => .any
  | .arrow label arg ret => .arrow label (arg.mapLeaves r) (ret.mapLeaves r)
  | .tuple types => .tuple (mapTypes r types)
  | .constr path args => r.constr path (mapTypes r args)
  | .variant kind elements => .variant kind (mapElements r elements)
  | .object fields isOpen => .object (mapFields r fields) isOpen
  | .classRef path args => .classRef (r.path path) (mapTypes r args)
  | .poly vars body => .poly vars (body.mapLeaves r)
  | .package path constraints => .package (r.path path) (mapConstraints r constraints)

def mapTypes (r : LeafMap) : List TypeExpr → List TypeExpr
  | [] => []
  | t :: ts => t.mapLeaves r :: mapTypes r ts

def mapElements (r : LeafMap) : List VariantElement → List VariantElement
  | [] => []
  | .type t :: es => .type (t.mapLeaves r) :: mapElements r es
  | .constructor name constant args :: es =>
    .constructor name constant (mapTypes r args) :: mapElements r es

def mapFields (r : LeafMap) : List ObjectField → List ObjectField
  | [] => []
  | .method name t :: fs => .method name (t.mapLeaves r) :: mapFields r fs
  | .inherit t :: fs => .inherit (t.mapLeaves r) :: mapFields r fs

def mapConstraints (r : LeafMap) : List PackageConstraint → List PackageConstraint
  | [] => []
  | ⟨fragment, t⟩ :: cs => ⟨fragment, t.mapLeaves r⟩ :: mapConstraints r cs

end

namespace TypeExpr

def argument? (params : List String) (args : List TypeExpr) (name : String) : Option TypeExpr :=
  (params.zip args).reverse.lookup name

/-- Puts the arguments in place of the parameters. A parameter without argument stays a variable,
and a variable is replaced also where a quantifier binds it. -/
def instantiate (manifest : TypeExpr) (params : List String) (args : List TypeExpr) : TypeExpr :=
  manifest.mapLeaves { var := fun name => (argument? params args name).getD (.var name) }

end TypeExpr

namespace LeafMap

def unfoldType (target : Identifier) (params : List String) (manifest : TypeExpr) : LeafMap where
  constr := fun path args =>
    if path = .ofIdentifier target then manifest.instantiate params args else .constr path args

end LeafMap

mutual

def TypeExpr.paths : TypeExpr → List Path
  | .var _ | .any => []
  | .arrow _ arg ret => arg.paths ++ ret.paths
  | .tuple types => pathsOfTypes types
  | .constr path args => path :: pathsOfTypes args
  | .variant _ elements => pathsOfElements elements
  | .object fields _ => pathsOfFields fields
  | .classRef path args => path :: pathsOfTypes args
  | .poly _ body => body.paths
  | .package path constraints => path :: pathsOfConstraints constraints

def pathsOfTypes : List TypeExpr → List Path
  | [] => []
  | t :: ts => t.paths ++ pathsOfTypes ts

def pathsOfElements : List VariantElement → List Path
  | [] => []
  | .type t :: es => t.paths ++ pathsOfElements es
  | .constructor _ _ args :: es => pathsOfTypes args ++ pathsOfElements es

def pathsOfFields : List ObjectField → List Path
  | [] => []
  | .method _ t :: fs => t.paths ++ pathsOfFields fs
  | .inherit t :: fs => t.paths ++ pathsOfFields fs

def pathsOfConstraints : List PackageConstraint → List Path
  | [] => []
  | ⟨_, t⟩ :: cs => t.paths ++ pathsOfConstraints cs

end

end CrossRef
