import CrossRef.Lookup.Class
import CrossRef.Lookup.Step
import CrossRef.Signature.Strengthen

/-! Lookups. Every alias and every path that a lookup follows costs one unit of its allowance, which
is `maxAliasDepth` at first. A fragment of several names starts a lookup of its own, and only such
fragments use up fuel. -/

namespace CrossRef

def Steps.ofFollow (expand : Nat → Env → ModuleDecl → LookupM Expansion) (budget : Nat)
    (follow : Env → Target → LookupM Expansion) : Steps where
  follow := follow
  reopen := expand budget
  restart := fun scope => expand scope.options.limit scope

def followTarget (expand : Nat → Env → ModuleDecl → LookupM Expansion) :
    (budget : Nat) → Env → Target → LookupM Expansion
  | 0, env, _ => LookupM.fail (.aliasDepthExceeded env.options.limit)
  | budget + 1, env, target =>
    (Steps.ofFollow expand budget (followTarget expand budget)).step env target

def Steps.within (expand : Nat → Env → ModuleDecl → LookupM Expansion) (budget : Nat) : Steps :=
  .ofFollow expand budget (followTarget expand budget)

def expandDecl : (fuel budget : Nat) → Env → ModuleDecl → LookupM Expansion
  | 0, _, _, _ => throw .outOfFuel
  | fuel + 1, budget, env, decl => (Steps.within (expandDecl fuel) budget).moduleDecl env decl

def Steps.start (fuel : Nat) (env : Env) : Steps :=
  .within (expandDecl fuel) env.options.limit

/-- The signature of a class, following abbreviations with an allowance of `budget`. A stored
expansion ends the chain. -/
def classTypeSignature (fuel : Nat) :
    (budget : Nat) → Env → ClassTypeExpr → LookupM ClassSignature
  | _, _, .signature sig => pure sig
  | 0, env, .constr _ _ => LookupM.fail (.aliasDepthExceeded env.options.limit)
  | budget + 1, env, .constr path _ => do
    let s := Steps.within (expandDecl fuel) budget
    let target ← s.classTypePath env path
    match ← s.classComponent env target with
    | .classDecl c =>
      match c.expansion with
      | some sig => pure sig
      | none => classTypeSignature fuel budget env c.decl.body
    | .classType c =>
      match c.expansion with
      | some sig => pure sig
      | none => classTypeSignature fuel budget env c.expr
    | _ => LookupM.fail (.notFound .classType target.text)

namespace Lookup

def path (fuel : Nat) (env : Env) (kind : PathKind) (p : Path) : LookupM ResolvedPath :=
  (Steps.start fuel env).path env kind p

def modulePath (fuel : Nat) (env : Env) (p : Path) : LookupM ResolvedPath :=
  path fuel env .module p

def moduleExpansion (fuel : Nat) (env : Env) (p : ResolvedPath) : LookupM Expansion :=
  (Steps.start fuel env).follow env (.module p)

def moduleTypeExpansion (fuel : Nat) (env : Env) (p : ResolvedPath) : LookupM Expansion :=
  (Steps.start fuel env).follow env (.moduleType p)

def signatureOf (fuel : Nat) (env : Env) (component : Component) : LookupM Signature := do
  let s := Steps.start fuel env
  match component with
  | .module m => (← s.moduleDecl env m.decl).asSignature
  | .moduleType m => (← s.moduleType env m).asSignature
  | .parameter arg => (← s.moduleTypeExpr env arg.expr).asSignature
  | .unit unit => pure unit.content.signature
  | _ => LookupM.fail (.notAModule "")

def classSignature (fuel : Nat) (env : Env) (expr : ClassTypeExpr) : LookupM ClassSignature :=
  classTypeSignature fuel env.options.limit env expr

def classSignatureOf (fuel : Nat) (env : Env) : Component → LookupM (Option ClassSignature)
  | .classDecl c => (classSignature fuel env c.decl.body).result?
  | .classType c => (classSignature fuel env c.expr).result?
  | _ => pure none

def fragment (fuel : Nat) (env : Env) (ns : Namespace) (f : Fragment) : LookupM ResolvedFragment :=
  (Steps.start fuel env).fragment env ns f

def moduleTypeExpr (fuel : Nat) (env : Env) (expr : ModuleTypeExpr) : LookupM Expansion :=
  (Steps.start fuel env).moduleTypeExpr env expr

def signatureExpr (fuel : Nat) (env : Env) (expr : SignatureExpr) : LookupM Signature :=
  (Steps.start fuel env).signatureExpr env expr

def constrain (fuel : Nat) (env : Env) (c : Constraint) (sig : Signature) : LookupM Signature :=
  (Steps.start fuel env).constrain env c sig

def aliasExpansion (fuel : Nat) (env : Env) (p : Path) (strengthen : Bool) :
    LookupM Expansion := do
  let target ← modulePath fuel env p
  match ← moduleExpansion fuel env target, strengthen with
  | .signature sig, true => pure (.signature (sig.strengthen target))
  | expansion, _ => pure expansion

end Lookup

end CrossRef
