import CrossRef.Compile.TypeExpr

/-! Compiling declarations that are made of type expressions. -/

namespace CrossRef

def compileOptionalType (fuel : Nat) (env : Env) (parent : Identifier) :
    Option TypeExpr → PassM (Option TypeExpr)
  | none => pure none
  | some t => do return some (← t.compile fuel env parent)

def compileTypePairs (fuel : Nat) (env : Env) (parent : Identifier) :
    List (TypeExpr × TypeExpr) → PassM (List (TypeExpr × TypeExpr))
  | [] => pure []
  | (l, t) :: rest => do
    let l ← l.compile fuel env parent
    let t ← t.compile fuel env parent
    return (l, t) :: (← compileTypePairs fuel env parent rest)

def TypeEquation.compile (fuel : Nat) (env : Env) (parent : Identifier) (eq : TypeEquation) :
    PassM TypeEquation := do
  let manifest ← compileOptionalType fuel env parent eq.manifest
  let constraints ← compileTypePairs fuel env parent eq.constraints
  return { eq with manifest, constraints }

def compileRecord (fuel : Nat) (env : Env) (parent : Identifier) : List Field → PassM (List Field)
  | [] => pure []
  | f :: fs => do
    let type ← f.type.compile fuel env parent
    return { f with type } :: (← compileRecord fuel env parent fs)

def ConstructorArgs.compile (fuel : Nat) (env : Env) (parent : Identifier) :
    ConstructorArgs → PassM ConstructorArgs
  | tuple types => do return tuple (← compileTypes fuel env parent types)
  | record fields => do return record (← compileRecord fuel env parent fields)

def Constructor.compile (fuel : Nat) (env : Env) (parent : Identifier) (c : Constructor) :
    PassM Constructor := do
  let args ← c.args.compile fuel env parent
  let res ← compileOptionalType fuel env parent c.res
  return { c with args, res }

def compileConstructors (fuel : Nat) (env : Env) (parent : Identifier) :
    List Constructor → PassM (List Constructor)
  | [] => pure []
  | c :: cs => do
    return (← c.compile fuel env parent) :: (← compileConstructors fuel env parent cs)

def TypeRepr.compile (fuel : Nat) (env : Env) (parent : Identifier) : TypeRepr → PassM TypeRepr
  | variant constructors => do
    return variant (← compileConstructors fuel env parent constructors)
  | record fields => do return record (← compileRecord fuel env parent fields)
  | extensible => pure extensible

def TypeDecl.compile (fuel : Nat) (env : Env) (t : TypeDecl) : PassM TypeDecl := do
  let equation ← t.equation.compile fuel env t.id
  match t.representation with
  | none => return { t with equation }
  | some repr =>
    let repr ← repr.compile fuel env t.id
    return { t with equation, representation := some repr }

def Value.compile (fuel : Nat) (env : Env) (v : Value) : PassM Value := do
  return { v with type := ← v.type.compile fuel env v.id }

def External.compile (fuel : Nat) (env : Env) (e : External) : PassM External := do
  return { e with type := ← e.type.compile fuel env e.id }

/-- The constructors of an extension are compiled on behalf of themselves. -/
def compileExtended (fuel : Nat) (env : Env) : List Constructor → PassM (List Constructor)
  | [] => pure []
  | c :: cs => do return (← c.compile fuel env c.id) :: (← compileExtended fuel env cs)

def Extension.compile (fuel : Nat) (env : Env) (e : Extension) : PassM Extension := do
  let typePath ← Pass.resolve fuel env .type e.typePath
  let constructors ← compileExtended fuel env e.constructors
  return { e with typePath, constructors }

end CrossRef
