import CrossRef.Compile.Signature

/-! The compile pass: a unit with every reference resolved that can be. -/

namespace CrossRef

/-- Compiles a signature. Each include on the way spends one unit of fuel on its content. -/
def Signature.compile : (fuel : Nat) → Env → Signature → PassM Signature
  | 0, _, _ => PassM.abort .outOfFuel
  | fuel + 1, env, sig => sig.pass { fuel, splice := Signature.compile fuel } env

def Pass.start (fuel : Nat) : Pass where
  fuel := fuel
  splice := Signature.compile fuel

def compileItems (fuel : Nat) (env : Env) (items : List Item) : PassM (List Item × Env) :=
  passItems (.start fuel) env items

namespace Import

def resolve (env : Env) : Import → Import
  | unresolved name =>
    match env.lookupUnit name with
    | .found root => resolved root name
    | .notFound | .forwardReference => unresolved name
  | resolved root name => resolved root name

end Import

namespace Pass

/-- Opens the units called `names`, passing over the unit `self` and those that are not known. -/
def openUnits (self : String) : Env → List String → PassM Env
  | env, [] => pure env
  | env, name :: names =>
    if name = self then openUnits self env names
    else do
      match ← PassM.attempt (env.fetchByName name) with
      | .ok (some unit) => openUnits self (env.openUnit unit) names
      | .ok none | .error _ => openUnits self env names

def packed (fuel : Nat) (env : Env) : List Packed → PassM (List Packed)
  | [] => pure []
  | p :: ps => do
    let path ← resolve fuel env .module p.path
    return ⟨p.id, path⟩ :: (← packed fuel env ps)

end Pass

def UnitContent.compile (fuel : Nat) (env : Env) : UnitContent → PassM UnitContent
  | module sig => do return module (← sig.compile fuel env)
  | pack packed => do return pack (← Pass.packed fuel env packed)

namespace CompilationUnit

def compileIn (fuel : Nat) (env : Env) (unit : CompilationUnit) : PassM CompilationUnit := do
  let imports := unit.imports.map (·.resolve env)
  let opened ← Pass.openUnits unit.name env env.options.openModules
  let content ← unit.content.compile fuel (opened.addDocs unit.doc)
  return { unit with imports, content }

def reset (unit : CompilationUnit) : CompilationUnit :=
  match unit.content with
  | .module sig => { unit with content := .module { sig with compiled := false } }
  | .pack _ => unit

end CompilationUnit

structure Compiled where
  unit : CompilationUnit
  reports : List Report

inductive Outcome where
  | compiled (result : Compiled)
  | failed (error : CompileError)
  | outOfFuel

def compile (fuel : Nat) (resolver : Resolver) (options : ResolverOptions)
    (unit : CompilationUnit) : Outcome :=
  match (unit.compileIn fuel (.create resolver options)).run {} with
  | (.ok (unit, reports), _) => .compiled ⟨unit, reports⟩
  | (.error (.fetch source), _) => .failed ⟨unit.name, source⟩
  | (.error .outOfFuel, _) => .outOfFuel

end CrossRef
