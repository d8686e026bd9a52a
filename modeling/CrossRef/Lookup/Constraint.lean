import CrossRef.Lookup.Path
import CrossRef.Signature.Move

/-! `with` constraints: finding the member a fragment names, and changing it. -/

namespace CrossRef

namespace Constraint

def space (c : Constraint) : Namespace := if c.targetsModule then .module else .type

def missing (c : Constraint) : ResolveError := .unresolvedFragment c.fragment.text

end Constraint

namespace Steps

/-- Walks down from `sig`. On the way every name is a module, at the end it is a module or a type
as `ns` says. -/
def locate (s : Steps) (ns : Namespace) (fault : ResolveError) :
    Env → Signature → ResolvedFragment → List String → LookupM ResolvedFragment
  | _, _, _, [] => LookupM.fail fault
  | _, sig, here, [name] =>
    match ns, sig.find? ns name with
    | .module, some (.module _) => pure (here.module name)
    | .type, some (.type _) => pure (here.type name)
    | _, _ => LookupM.fail fault
  | env, sig, here, name :: next :: rest =>
    match sig.module? name with
    | none => LookupM.fail fault
    | some m => do
      let scope := env.openSignature sig
      let inner ← (← s.restart scope m.decl).asSignature
      s.locate ns fault scope inner (here.module name) (next :: rest)

def fragment (s : Steps) (env : Env) (ns : Namespace) (f : Fragment) : LookupM ResolvedFragment :=
  match f.resolved? with
  | some resolved => pure resolved
  | none =>
    match env.fragmentRoot? with
    | none => LookupM.fail (.unresolvedFragment f.text)
    | some sig => s.locate ns (.unresolvedFragment f.text) env sig .root f.segments

/-- Resolves the fragment of a constraint. Whatever goes wrong on the way, the constraint names
nothing. -/
def resolveFragment (s : Steps) (env : Env) (c : Constraint) : LookupM Constraint := do
  match ← (s.fragment env c.space c.fragment).result? with
  | some resolved => pure (c.withFragment (.resolved resolved))
  | none => LookupM.fail c.missing

def constrainMember (s : Steps) (env : Env) (c : Constraint) (name : String) (sig : Signature) :
    LookupM Signature :=
  match c with
  | .moduleEq _ decl =>
    match sig.setModuleDecl name decl with
    | some changed => pure changed
    | none => LookupM.fail c.missing
  | .moduleSubst _ path => do
    let target ← s.modulePath env path
    match sig.remove (·.declaresModule name) with
    | some (.module m, rest) => pure (rest.reroot m.id target)
    | _ => LookupM.fail c.missing
  | .typeEq _ eq =>
    match sig.setTypeEquation name eq with
    | some changed => pure changed
    | none => LookupM.fail c.missing
  | .typeSubst _ eq =>
    match eq.manifest with
    | none => LookupM.fail (.missingManifest c.fragment.text)
    | some manifest =>
      match sig.remove (·.declaresType name) with
      | some (.type t, rest) => pure (rest.substituteType t.id eq.params manifest)
      | _ => LookupM.fail c.missing

/-- Applies a constraint below the modules on the way to its member. Each of them ends up with its
signature written out. -/
def constrainAt (s : Steps) (c : Constraint) : Env → List String → Signature → LookupM Signature
  | _, [], _ => LookupM.fail c.missing
  | env, [name], sig => s.constrainMember env c name sig
  | env, name :: next :: rest, sig =>
    match sig.module? name with
    | none => LookupM.fail c.missing
    | some m => do
      let scope := env.openSignature sig
      let inner ← (← s.reopen scope m.decl).asSignature
      let changed ← s.constrainAt c scope (next :: rest) inner
      match sig.setModuleDecl name (.typed (.signature changed)) with
      | some out => pure out
      | none => LookupM.fail c.missing

def constrain (s : Steps) (env : Env) (c : Constraint) (sig : Signature) : LookupM Signature :=
  match c.fragment.resolved? with
  | some resolved => s.constrainAt c env resolved.segments sig
  | none => LookupM.fail c.missing

def constrainAll (s : Steps) (env : Env) : List Constraint → Signature → LookupM Signature
  | [], sig => pure sig
  | c :: cs, sig => do
    let resolved ← s.resolveFragment (env.addFragmentRoot sig) c
    s.constrainAll env cs (← s.constrain env resolved sig)

end Steps

end CrossRef
