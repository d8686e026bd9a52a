import CrossRef.Compile.Declaration

/-! Compiling classes and class types. -/

namespace CrossRef

mutual

def ClassTypeExpr.compile (fuel : Nat) (env : Env) (id : Identifier) :
    ClassTypeExpr → PassM ClassTypeExpr
  | .constr path args => do
    let path ← Pass.resolveOrReport fuel env .classType .classDecl id path
    return .constr path (← compileTypes fuel env id args)
  | .signature sig => do return .signature (← sig.compile fuel env id)

def ClassSignature.compile (fuel : Nat) (env : Env) (id : Identifier) :
    ClassSignature → PassM ClassSignature
  | ⟨self, items⟩ => do
    let self ← compileOptionalType fuel env id self
    return ⟨self, ← compileClassItems fuel env id items⟩

def compileClassItems (fuel : Nat) (env : Env) (id : Identifier) :
    List ClassItem → PassM (List ClassItem)
  | [] => pure []
  | item :: items => do
    return (← item.compile fuel env id) :: (← compileClassItems fuel env id items)

def ClassItem.compile (fuel : Nat) (env : Env) (id : Identifier) : ClassItem → PassM ClassItem
  | .method m => do return .method { m with type := ← m.type.compile fuel env id }
  | .instanceVariable v => do
    return .instanceVariable { v with type := ← v.type.compile fuel env id }
  | .constraint lhs rhs => do
    return .constraint (← lhs.compile fuel env id) (← rhs.compile fuel env id)
  | .inherit expr => do return .inherit (← expr.compile fuel env id)
  | .comment text => pure (.comment text)

end

def ClassDecl.compile (fuel : Nat) (env : Env) (id : Identifier) : ClassDecl → PassM ClassDecl
  | classType expr => do return classType (← expr.compile fuel env id)
  | arrow label arg body => do
    let arg ← arg.compile fuel env id
    return arrow label arg (← body.compile fuel env id)

/-- The expansion of a class, given what it is declared as and the expansion it had. A signature
written in the declaration is compiled there; one that is found through a path is compiled without
reports, since they belong to the class it comes from. -/
def compileClassExpansion (fuel : Nat) (env : Env) (id : Identifier) (expr : ClassTypeExpr)
    (previous : Option ClassSignature) : PassM (Option ClassSignature) :=
  match expr with
  | .signature sig => pure (some sig)
  | .constr _ _ => do
    let found ← PassM.attempt? (Lookup.classSignature fuel env expr)
    match found.or previous with
    | some sig => return some (← (sig.compile fuel env id).quietly)
    | none => return none

def Class.compile (fuel : Nat) (env : Env) (c : Class) : PassM Class := do
  let decl ← c.decl.compile fuel env c.id
  let expansion ← compileClassExpansion fuel env c.id decl.body c.expansion
  return { c with decl, expansion }

def ClassType.compile (fuel : Nat) (env : Env) (c : ClassType) : PassM ClassType := do
  let expr ← c.expr.compile fuel env c.id
  let expansion ← compileClassExpansion fuel env c.id expr c.expansion
  return { c with expr, expansion }

end CrossRef
