import CrossRef.Declaration

/-! Classes and class types. -/

namespace CrossRef

structure Method where
  id : Identifier
  doc : Docs
  isPrivate : Bool
  isVirtual : Bool
  type : TypeExpr

structure InstanceVariable where
  id : Identifier
  doc : Docs
  isMutable : Bool
  isVirtual : Bool
  type : TypeExpr

mutual

inductive ClassTypeExpr where
  | constr (path : Path) (args : List TypeExpr)
  | signature (sig : ClassSignature)

structure ClassSignature where
  self : Option TypeExpr
  items : List ClassItem

inductive ClassItem where
  | method (m : Method)
  | instanceVariable (v : InstanceVariable)
  | constraint (lhs rhs : TypeExpr)
  | inherit (expr : ClassTypeExpr)
  | comment (text : String)

end

inductive ClassDecl where
  | classType (expr : ClassTypeExpr)
  | arrow (label : Option Label) (arg : TypeExpr) (body : ClassDecl)

structure Class where
  id : Identifier
  doc : Docs
  isVirtual : Bool
  params : List String
  decl : ClassDecl
  expansion : Option ClassSignature

structure ClassType where
  id : Identifier
  doc : Docs
  isVirtual : Bool
  params : List String
  expr : ClassTypeExpr
  expansion : Option ClassSignature

mutual

def ClassTypeExpr.mapLeaves (r : LeafMap) : ClassTypeExpr → ClassTypeExpr
  | .constr path args => .constr (r.path path) (args.map (·.mapLeaves r))
  | .signature sig => .signature (sig.mapLeaves r)

def ClassSignature.mapLeaves (r : LeafMap) : ClassSignature → ClassSignature
  | ⟨self, items⟩ => ⟨self.map (·.mapLeaves r), mapClassItems r items⟩

def mapClassItems (r : LeafMap) : List ClassItem → List ClassItem
  | [] => []
  | item :: items => item.mapLeaves r :: mapClassItems r items

def ClassItem.mapLeaves (r : LeafMap) : ClassItem → ClassItem
  | .method m => .method { m with id := r.ident m.id, type := m.type.mapLeaves r }
  | .instanceVariable v =>
    .instanceVariable { v with id := r.ident v.id, type := v.type.mapLeaves r }
  | .constraint lhs rhs => .constraint (lhs.mapLeaves r) (rhs.mapLeaves r)
  | .inherit expr => .inherit (expr.mapLeaves r)
  | .comment text => .comment text

end

mutual

def ClassTypeExpr.paths : ClassTypeExpr → List Path
  | .constr path args => path :: args.flatMap (·.paths)
  | .signature sig => sig.paths

def ClassSignature.paths : ClassSignature → List Path
  | ⟨self, items⟩ => (self.map (·.paths)).getD [] ++ pathsOfClassItems items

def pathsOfClassItems : List ClassItem → List Path
  | [] => []
  | item :: items => item.paths ++ pathsOfClassItems items

def ClassItem.paths : ClassItem → List Path
  | .method m => m.type.paths
  | .instanceVariable v => v.type.paths
  | .constraint lhs rhs => lhs.paths ++ rhs.paths
  | .inherit expr => expr.paths
  | .comment _ => []

end

namespace ClassDecl

def body : ClassDecl → ClassTypeExpr
  | classType expr => expr
  | arrow _ _ decl => decl.body

def mapLeaves (r : LeafMap) : ClassDecl → ClassDecl
  | classType expr => classType (expr.mapLeaves r)
  | arrow label arg decl => arrow label (arg.mapLeaves r) (decl.mapLeaves r)

def paths : ClassDecl → List Path
  | classType expr => expr.paths
  | arrow _ arg decl => arg.paths ++ decl.paths

end ClassDecl

namespace Class

def mapLeaves (r : LeafMap) (c : Class) : Class :=
  { c with
    id := r.ident c.id
    decl := c.decl.mapLeaves r
    expansion := c.expansion.map (·.mapLeaves r) }

def paths (c : Class) : List Path := c.decl.paths ++ (c.expansion.map (·.paths)).getD []

end Class

namespace ClassType

def mapLeaves (r : LeafMap) (c : ClassType) : ClassType :=
  { c with
    id := r.ident c.id
    expr := c.expr.mapLeaves r
    expansion := c.expansion.map (·.mapLeaves r) }

def paths (c : ClassType) : List Path := c.expr.paths ++ (c.expansion.map (·.paths)).getD []

end ClassType

end CrossRef
