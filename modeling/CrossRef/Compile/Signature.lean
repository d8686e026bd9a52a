import CrossRef.Compile.ClassType
import CrossRef.Signature.Paths

/-! Compiling signatures, modules and module types. Items are compiled in order and each sees the
declarations before it. The content of an include is compiled by whoever is asked to, because it is
no part of the signature in which the include stands. -/

namespace CrossRef

open PassM

structure Pass where
  fuel : Nat
  splice : Env → Signature → PassM Signature

namespace Pass

def constraintFragment (p : Pass) (env : Env) (root : Option Signature) (c : Constraint) :
    PassM Fragment :=
  match root with
  | none => pure c.fragment
  | some sig => do
    match ← attempt? (Lookup.fragment p.fuel (env.addFragmentRoot sig) c.space c.fragment) with
    | some resolved => pure (.resolved resolved)
    | none => pure c.fragment

/-- Applies a compiled constraint to a signature. When that fails a report is filed and the
signature stays as it is; the flag tells whether the constraint was applied. -/
def applyConstraint (p : Pass) (env : Env) (id : Identifier) (c : Constraint) (sig : Signature) :
    PassM (Signature × Bool) :=
  if c.fragment.isResolved then do
    match ← attempt (Lookup.constrain p.fuel env c sig) with
    | .ok next => pure (next, true)
    | .error error =>
      file
        { construct := .substitution, subject := c.fragment.text, phase := .compile,
          parent := some id, error := some error }
      pure (sig, false)
  else do
    file
      { construct := if c.targetsModule then .moduleFragment else .typeFragment,
        subject := c.fragment.text, phase := .resolve, parent := some id }
    pure (sig, false)

def applyQuietly (p : Pass) (env : Env) (c : Constraint) : Option Signature →
    PassM (Option Signature)
  | none => pure none
  | some sig => attempt? (Lookup.constrain p.fuel env c sig)

def includedSignature (p : Pass) (env : Env) : IncludeDecl → LookupM Signature
  | .aliasOf path => do (← Lookup.aliasExpansion p.fuel env path false).asSignature
  | .typed expr => Lookup.signatureExpr p.fuel env expr

def strengthening (p : Pass) (env : Env) : Option Path → PassM (Option Path)
  | none => pure none
  | some path => some <$> resolve p.fuel env .module path

def strengthenedBy (env : Env) : Option Path → IncludeDecl → Option ResolvedPath
  | some (.resolved path), _ => some path
  | _, .aliasOf (.resolved path) => if env.options.strengthenIncludes then some path else none
  | _, _ => none

/-- Puts a signature in the place of an include: under the new parent first, so that the manifests
of its types lead back to the included module and not to the copies. -/
def includeContent (env : Env) (i : Include) (sig : Signature) : Signature :=
  let moved := sig.reparent i.parent i.shadowed
  match strengthenedBy env i.strengthened i.decl with
  | some path => moved.strengthen path
  | none => moved

/-- Expands an include whose declaration is compiled, and says what later items see. A failure
leaves the include and the environment as they are. -/
def expandInclude (p : Pass) (env : Env) (written : String) (i : Include) : PassM (Include × Env) :=
  if i.content.compiled then pure (i, env.openSignature i.content)
  else do
    match ← attempt (p.includedSignature env i.decl) with
    | .error error =>
      file
        { construct := .includeItem, subject := written, phase := .expand,
          parent := some i.parent, error := some error }
      pure (i, env)
    | .ok sig =>
      let content ← p.splice env (includeContent env i sig)
      pure ({ i with content }, env.openSignature content)

end Pass

mutual

def Signature.pass (p : Pass) (env : Env) : Signature → PassM Signature
  | ⟨items, true, doc⟩ => pure ⟨items, true, doc⟩
  | ⟨items, false, doc⟩ => do
    let (items, _) ← passItems p (env.addDocs doc) items
    return ⟨items, true, doc⟩

def passItems (p : Pass) (env : Env) : List Item → PassM (List Item × Env)
  | [] => pure ([], env)
  | item :: items => do
    let (item, next) ← item.pass p env
    let (items, last) ← passItems p next items
    return (item :: items, last)

/-- A type sees itself, everything else only what stands before it. -/
def Item.pass (p : Pass) (env : Env) : Item → PassM (Item × Env)
  | .module m => do
    let m ← m.pass p env
    return (.module m, env.addModule m)
  | .moduleSubstitution m => do
    let manifest ← Pass.resolve p.fuel env .module m.manifest
    return (.moduleSubstitution { m with manifest }, env)
  | .moduleType m => do
    let m ← m.pass p env
    return (.moduleType m, env.addModuleType m)
  | .type t => do
    let item := Item.type (← t.compile p.fuel (env.addItem (.type t)))
    return (item, env.addItem item)
  | .typeSubstitution t => do return (.typeSubstitution (← t.compile p.fuel env), env)
  | .value v => do
    let item := Item.value (← v.compile p.fuel env)
    return (item, env.addItem item)
  | .external e => do
    let item := Item.external (← e.compile p.fuel env)
    return (item, env.addItem item)
  | .classDecl c => do
    let item := Item.classDecl (← c.compile p.fuel env)
    return (item, env.addItem item)
  | .classType c => do
    let item := Item.classType (← c.compile p.fuel env)
    return (item, env.addItem item)
  | .extension e => do return (.extension (← e.compile p.fuel env), env)
  | .exception e => do return (.exception (← e.compile p.fuel env e.id), env)
  | .included i => do
    let (i, next) ← i.pass p env
    return (.included i, next)
  | .opened doc content => do
    let content ← content.pass p env
    return (.opened doc content, env.openSignature content)
  | .comment text => pure (.comment text, env)

def Module.pass (p : Pass) (env : Env) : Module → PassM Module
  | ⟨id, doc, decl, true⟩ => pure ⟨id, doc, decl, true⟩
  | ⟨id, doc, decl, false⟩ => do
    let decl ← decl.pass p (env.addDocs doc) id
    return ⟨id, doc, decl, false⟩

def ModuleDecl.pass (p : Pass) (env : Env) (id : Identifier) : ModuleDecl → PassM ModuleDecl
  | .aliasOf path expansion => do
    let path ← Pass.resolveOrReport p.fuel env .module .modulePath id path
    return .aliasOf path (← passExpansion p env expansion)
  | .typed expr => do return .typed (← expr.pass p env id)

def ModuleType.pass (p : Pass) (env : Env) : ModuleType → PassM ModuleType
  | ⟨id, doc, none⟩ => pure ⟨id, doc, none⟩
  | ⟨id, doc, some expr⟩ => do
    let expr ← expr.pass p env id
    return ⟨id, doc, some expr⟩

def passExpansion (p : Pass) (env : Env) :
    Option StoredExpansion → PassM (Option StoredExpansion)
  | none => pure none
  | some expansion => do return some (← expansion.pass p env)

def StoredExpansion.pass (p : Pass) (env : Env) : StoredExpansion → PassM StoredExpansion
  | .signature sig => do return .signature (← sig.pass p env)
  | .functor param body => do
    let param ← param.pass p env
    return .functor param (← body.pass p (env.addParameter param))

def FunctorParameter.pass (p : Pass) (env : Env) : FunctorParameter → PassM FunctorParameter
  | .unit => pure .unit
  | .named id expr => do return .named id (← expr.pass p env id)

/-- A constraint list over a written signature gives way to its result when every constraint was
applied and nothing is left unresolved. -/
def ModuleTypeExpr.pass (p : Pass) (env : Env) (id : Identifier) :
    ModuleTypeExpr → PassM ModuleTypeExpr
  | .path path expansion => do
    let path ← Pass.resolveOrReport p.fuel env .moduleType .moduleTypePath id path
    return .path path (← passExpansion p env expansion)
  | .signature sig => do return .signature (← sig.pass p env)
  | .functor param body => do
    let param ← param.pass p env
    return .functor param (← body.pass p (env.addParameter param) id.result)
  | .constrained constraints base expansion => do
    let compiled ← base.pass p env id
    match ← attempt (Lookup.signatureExpr p.fuel env compiled) with
    | .error error =>
      file
        { construct := .moduleType, subject := base.text, phase := .resolve, parent := some id,
          error := some error }
      return .constrained constraints base expansion
    | .ok sig =>
      let (constraints, sig, allApplied) ← passConstraints p env id sig constraints
      if allApplied && compiled.hasLiteralRoot && sig.unresolvedCount == 0 then
        return .signature { sig with compiled := true }
      else
        return .constrained constraints compiled (← passExpansion p env expansion)
  | .typeOf origin expansion => do
    let path ← Pass.resolveOrReport p.fuel env .module .modulePath id origin.path
    return .typeOf (origin.withPath path) (← passExpansion p env expansion)

def passConstraints (p : Pass) (env : Env) (id : Identifier) (sig : Signature) :
    List Constraint → PassM (List Constraint × Signature × Bool)
  | [] => pure ([], sig, true)
  | c :: cs => do
    let c ← c.pass p env id (some sig)
    let (sig, applied) ← p.applyConstraint env id c sig
    let (cs, sig, allApplied) ← passConstraints p env id sig cs
    return (c :: cs, sig, applied && allApplied)

/-- Nothing is reported about the expression itself; whoever needs its signature does that. -/
def SignatureExpr.pass (p : Pass) (env : Env) (id : Identifier) :
    SignatureExpr → PassM SignatureExpr
  | .path path => do return .path (← Pass.resolve p.fuel env .moduleType path)
  | .signature sig => do return .signature (← sig.pass p env)
  | .constrained constraints base => do
    let base ← base.pass p env id
    let root ← attempt? (Lookup.signatureExpr p.fuel env base)
    return .constrained (← passBaseConstraints p env id root constraints) base
  | .typeOf origin => do
    let path ← Pass.resolve p.fuel env .module origin.path
    return .typeOf (origin.withPath path)

def passBaseConstraints (p : Pass) (env : Env) (id : Identifier) (root : Option Signature) :
    List Constraint → PassM (List Constraint)
  | [] => pure []
  | c :: cs => do
    let c ← c.pass p env id root
    let root ← p.applyQuietly env c root
    return c :: (← passBaseConstraints p env id root cs)

def Constraint.pass (p : Pass) (env : Env) (id : Identifier) (root : Option Signature)
    (c : Constraint) : PassM Constraint := do
  let fragment ← p.constraintFragment env root c
  match c with
  | .moduleEq _ decl => return .moduleEq fragment (← decl.pass p env id)
  | .moduleSubst _ path => return .moduleSubst fragment (← Pass.resolve p.fuel env .module path)
  | .typeEq _ eq => return .typeEq fragment (← eq.compile p.fuel env id)
  | .typeSubst _ eq => return .typeSubst fragment (← eq.compile p.fuel env id)

def Include.pass (p : Pass) (env : Env) : Include → PassM (Include × Env)
  | ⟨parent, doc, decl, strengthened, shadowed, content⟩ => do
    let compiled ← decl.pass p env parent
    let strengthened ← p.strengthening env strengthened
    p.expandInclude env decl.text ⟨parent, doc, compiled, strengthened, shadowed, content⟩

def IncludeDecl.pass (p : Pass) (env : Env) (parent : Identifier) :
    IncludeDecl → PassM IncludeDecl
  | .aliasOf path => do return .aliasOf (← Pass.resolve p.fuel env .module path)
  | .typed expr => do return .typed (← expr.pass p env parent)

end

end CrossRef
