import CrossRef.Lookup.Constraint

/-! One step of an expansion, given the steps that may follow it. -/

namespace CrossRef.Steps

def signatureExpr (s : Steps) (env : Env) : SignatureExpr → LookupM Signature
  | .path path => do
    let target ← s.moduleTypePath env path
    (← s.follow env (.moduleType target)).asSignature
  | .signature sig => pure sig
  | .constrained constraints base => do
    s.constrainAll env constraints (← s.signatureExpr env base)
  | .typeOf origin => do
    s.signatureOfModule env (← s.modulePath env origin.path)

def moduleTypeExpr (s : Steps) (env : Env) : ModuleTypeExpr → LookupM Expansion
  | .path _ (some expansion)
  | .constrained _ _ (some expansion)
  | .typeOf _ (some expansion) => pure expansion.toExpansion
  | .path path none => do
    s.follow env (.moduleType (← s.moduleTypePath env path))
  | .signature sig => pure (.signature sig)
  | .functor param body => pure (.functor param body)
  | .constrained constraints base none =>
    .signature <$> s.signatureExpr env (.constrained constraints base)
  | .typeOf origin none => .signature <$> s.signatureExpr env (.typeOf origin)

def moduleDecl (s : Steps) (env : Env) : ModuleDecl → LookupM Expansion
  | .aliasOf _ (some expansion) => pure expansion.toExpansion
  | .aliasOf path none => s.follow env (.aliased path)
  | .typed expr => s.moduleTypeExpr env expr

def moduleType (s : Steps) (env : Env) (m : ModuleType) : LookupM Expansion :=
  match m.expr with
  | some expr => s.moduleTypeExpr env expr
  | none => LookupM.fail (.abstractModuleType m.id.text)

def functorResult (s : Steps) (env : Env) (param : FunctorParameter) (body : ModuleTypeExpr) :
    LookupM Expansion :=
  s.moduleTypeExpr (env.addParameter param) body

/-- A module found in a signature is read in the scope of that signature. -/
def memberModule (s : Steps) (env : Env) (sig : Signature) (name : String) : LookupM Expansion :=
  match sig.module? name with
  | some m => s.moduleDecl (env.openSignature sig) m.decl
  | none => LookupM.fail (.notFound .module name)

def outerIdentifier (s : Steps) (env : Env) (id : Identifier) : LookupM Expansion :=
  match id.kind, id.parent? with
  | .root, _ => do return .signature (← env.fetch id).content.signature
  | .module, some parent => do
    s.memberModule env (← s.signatureOfContainer env parent) id.name
  | .parameter, some functor => do
    match ← s.follow env (.container functor) with
    | .functor (.named arg expr) _ =>
      if arg = id then s.moduleTypeExpr env expr
      else LookupM.fail (.notFound .module id.text)
    | _ => LookupM.fail (.notFound .module id.text)
  | .module, none | .parameter, none => LookupM.fail (.notFound .module id.text)
  | _, _ => LookupM.fail (.notAModule id.text)

def identifier (s : Steps) (env : Env) (id : Identifier) : LookupM Expansion :=
  match env.lookupById id with
  | some (.module m) => s.moduleDecl env m.decl
  | some (.parameter arg) => s.moduleTypeExpr env arg.expr
  | some (.unit unit) => pure (.signature unit.content.signature)
  | _ => s.outerIdentifier env id

def module (s : Steps) (env : Env) : ResolvedPath → LookupM Expansion
  | .identifier id => s.identifier env id
  | .apply functor argument => do
    match ← s.follow env (.module functor) with
    | .functor param body =>
      let result ← s.functorResult env param body
      match param with
      | .named id _ => pure (result.reroot id argument)
      | .unit => pure result
    | .signature _ => LookupM.fail (.applicationOfNonFunctor functor.text)
  | .dot parent _ name => do
    s.memberModule env (← s.signatureOfModule env parent) name

def moduleTypeAmong (env : Env) (path : ResolvedPath) (name : String) (sig : Signature) :
    LookupM (ModuleType × Env) :=
  match sig.moduleType? name with
  | some m => pure (m, env.openSignature sig)
  | none => LookupM.fail (.notFound .moduleType path.text)

def findModuleType (s : Steps) (env : Env) : ResolvedPath → LookupM (ModuleType × Env)
  | .identifier id =>
    match env.lookupById id, id.parent? with
    | some (.moduleType m), _ => pure (m, env)
    | _, some parent => do
      moduleTypeAmong env (.identifier id) id.name (← s.signatureOfContainer env parent)
    | _, none => LookupM.fail (.notFound .moduleType id.text)
  | .dot parent kind name => do
    moduleTypeAmong env (.dot parent kind name) name (← s.signatureOfModule env parent)
  | .apply functor argument => LookupM.fail (.notFound .moduleType (functor.apply argument).text)

def container (s : Steps) (env : Env) (id : Identifier) : LookupM Expansion :=
  match id.kind, id.parent? with
  | .root, _ | .module, _ | .parameter, _ => s.follow env (.module (.identifier id))
  | .moduleType, _ => s.follow env (.moduleType (.identifier id))
  | .result, some functor => do
    match ← s.follow env (.container functor) with
    | .functor param body => s.functorResult env param body
    | .signature _ => LookupM.fail (.notAModule id.text)
  | _, _ => LookupM.fail (.notAModule id.text)

def step (s : Steps) (env : Env) : Target → LookupM Expansion
  | .module path => s.module env path
  | .moduleType path => do
    let (m, scope) ← s.findModuleType env path
    s.moduleType scope m
  | .container id => s.container env id
  | .aliased path => do
    s.follow env (.module (← s.modulePath env path))

end CrossRef.Steps
