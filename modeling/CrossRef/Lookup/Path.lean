import CrossRef.Lookup.Expansion

/-! Resolution of paths. -/

namespace CrossRef

/-- What a lookup can be sent after. Each costs one unit of the lookup's allowance. -/
inductive Target where
  | module (path : ResolvedPath)
  | moduleType (path : ResolvedPath)
  | container (id : Identifier)
  | aliased (path : Path)

/-- What one step of a lookup can rely on: going after a target and expanding a declaration with
what is left of the allowance, and expanding one with the full allowance. -/
structure Steps where
  follow : Env → Target → LookupM Expansion
  reopen : Env → ModuleDecl → LookupM Expansion
  restart : Env → ModuleDecl → LookupM Expansion

namespace Steps

def signatureOfModule (s : Steps) (env : Env) (path : ResolvedPath) : LookupM Signature := do
  (← s.follow env (.module path)).asSignature

def signatureOfContainer (s : Steps) (env : Env) (id : Identifier) : LookupM Signature := do
  (← s.follow env (.container id)).asSignature

/-- A name is looked up in scope and then among the units; a projection must name a module of what
stands before the dot, and only functors are applied. -/
def modulePath (s : Steps) (env : Env) : Path → LookupM ResolvedPath
  | .resolved path => pure path
  | .root name =>
    match env.lookupByName .module name with
    | some (id, _) => pure (.identifier id)
    | none =>
      match env.lookupUnit name with
      | .found root => pure (.identifier root)
      | .notFound | .forwardReference => LookupM.fail (.notFound .module name)
  | .dot parent name => do
    let owner ← s.modulePath env parent
    let sig ← s.signatureOfModule env owner
    match sig.find? .module name with
    | some _ => pure (owner.child .module name)
    | none => LookupM.fail (.notFound .module (parent.dot name).text)
  | .apply f a => do
    let functor ← s.modulePath env f
    let argument ← s.modulePath env a
    match ← s.follow env (.module functor) with
    | .functor _ _ => pure (functor.apply argument)
    | .signature _ => LookupM.fail (.applicationOfNonFunctor functor.text)

def memberPath (s : Steps) (env : Env) (kind : PathKind) (ns : Namespace) :
    Path → LookupM ResolvedPath
  | .resolved path => pure path
  | .dot parent name => do
    let owner ← s.modulePath env parent
    let sig ← s.signatureOfModule env owner
    match sig.find? ns name with
    | some item => pure (owner.child item.kind name)
    | none => LookupM.fail (.notFound kind (parent.dot name).text)
  | path => LookupM.fail (.notFound kind path.text)

def moduleTypePath (s : Steps) (env : Env) : Path → LookupM ResolvedPath
  | .root name =>
    match env.lookupByName .moduleType name with
    | some (id, _) => pure (.identifier id)
    | none => LookupM.fail (.notFound .moduleType name)
  | path => s.memberPath env .moduleType .moduleType path

def typePath (s : Steps) (env : Env) : Path → LookupM ResolvedPath
  | .root name =>
    match env.lookupByName .type name with
    | some (id, _) => pure (.identifier id)
    | none =>
      if name ∈ coreTypes then pure (.identifier (.coreType name))
      else LookupM.fail (.notFound .type name)
  | path => s.memberPath env .type .type path

def classTypePath (s : Steps) (env : Env) : Path → LookupM ResolvedPath
  | .root name =>
    match env.lookupByName .classType name with
    | some (id, _) => pure (.identifier id)
    | none => LookupM.fail (.notFound .classType name)
  | path => s.memberPath env .classType .classType path

def path (s : Steps) (env : Env) : PathKind → Path → LookupM ResolvedPath
  | .module => s.modulePath env
  | .moduleType => s.moduleTypePath env
  | .type => s.typePath env
  | .classType => s.classTypePath env

end Steps

end CrossRef
