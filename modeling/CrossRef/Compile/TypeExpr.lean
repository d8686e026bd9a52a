import CrossRef.Compile.Pass

/-! Compiling type expressions. Paths that do not resolve stay as they are written; only package
types file reports. -/

namespace CrossRef

open PassM

namespace Pass

def packageSignature (fuel : Nat) (env : Env) : Path → LookupM Signature
  | .resolved target => do (← Lookup.moduleTypeExpansion fuel env target).asSignature
  | written => LookupM.fail (.unresolvedPath written.text)

def packageRoot (fuel : Nat) (env : Env) (parent : Identifier) (path : Path) :
    PassM (Option Signature) := do
  match ← attempt (packageSignature fuel env path) with
  | .ok sig => pure (some sig)
  | .error error =>
    file
      { construct := .package, subject := path.text, phase := .lookup, parent := some parent,
        error := some error }
    pure none

def packageFragment (fuel : Nat) (env : Env) (parent : Identifier) (root : Option Signature)
    (f : Fragment) : PassM Fragment :=
  match root with
  | none => pure f
  | some sig => do
    match ← attempt? (Lookup.fragment fuel (env.addFragmentRoot sig) .type f) with
    | some resolved => pure (.resolved resolved)
    | none =>
      file
        { construct := .typeFragment, subject := f.text, phase := .resolve,
          parent := some parent }
      pure f

end Pass

mutual

def TypeExpr.compile (fuel : Nat) (env : Env) (parent : Identifier) : TypeExpr → PassM TypeExpr
  | .var name => pure (.var name)
  | .any => pure .any
  | .arrow label arg ret => do
    return .arrow label (← arg.compile fuel env parent) (← ret.compile fuel env parent)
  | .tuple types => do return .tuple (← compileTypes fuel env parent types)
  | .constr path args => do
    return .constr (← Pass.resolve fuel env .type path) (← compileTypes fuel env parent args)
  | .variant kind elements => do
    return .variant kind (← compileElements fuel env parent elements)
  | .object fields isOpen => do return .object (← compileFields fuel env parent fields) isOpen
  | .classRef path args => do
    return .classRef (← Pass.resolve fuel env .classType path) (← compileTypes fuel env parent args)
  | .poly vars body => do return .poly vars (← body.compile fuel env parent)
  | .package path constraints => do
    let path ← Pass.resolve fuel env .moduleType path
    let root ← Pass.packageRoot fuel env parent path
    return .package path (← compilePackage fuel env parent root constraints)

def compileTypes (fuel : Nat) (env : Env) (parent : Identifier) :
    List TypeExpr → PassM (List TypeExpr)
  | [] => pure []
  | t :: ts => do return (← t.compile fuel env parent) :: (← compileTypes fuel env parent ts)

def compileElements (fuel : Nat) (env : Env) (parent : Identifier) :
    List VariantElement → PassM (List VariantElement)
  | [] => pure []
  | .type t :: es => do
    return .type (← t.compile fuel env parent) :: (← compileElements fuel env parent es)
  | .constructor name constant args :: es => do
    return .constructor name constant (← compileTypes fuel env parent args) ::
      (← compileElements fuel env parent es)

def compileFields (fuel : Nat) (env : Env) (parent : Identifier) :
    List ObjectField → PassM (List ObjectField)
  | [] => pure []
  | .method name t :: fs => do
    return .method name (← t.compile fuel env parent) :: (← compileFields fuel env parent fs)
  | .inherit t :: fs => do
    return .inherit (← t.compile fuel env parent) :: (← compileFields fuel env parent fs)

def compilePackage (fuel : Nat) (env : Env) (parent : Identifier) (root : Option Signature) :
    List PackageConstraint → PassM (List PackageConstraint)
  | [] => pure []
  | ⟨fragment, t⟩ :: cs => do
    let fragment ← Pass.packageFragment fuel env parent root fragment
    let t ← t.compile fuel env parent
    return ⟨fragment, t⟩ :: (← compilePackage fuel env parent root cs)

end

end CrossRef
