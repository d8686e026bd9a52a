import CrossRef.Options
import CrossRef.Resolver
import CrossRef.Signature.Member

/-! Environments: nested scopes of bindings. An environment is a value, so that extending it never
changes the one it was made from. -/

namespace CrossRef

inductive Component where
  | module (m : Module)
  | moduleType (m : ModuleType)
  | parameter (arg : FunctorArgument)
  | unit (u : CompilationUnit)
  | type (t : TypeDecl)
  | value (v : Value)
  | external (e : External)
  | classDecl (c : Class)
  | classType (c : ClassType)

namespace Component

def namespaces : Component → List Namespace
  | module _ | parameter _ | unit _ => [.module]
  | moduleType _ => [.moduleType]
  | type _ => [.type]
  | value _ | external _ => [.value]
  | classDecl _ | classType _ => [.type, .classType]

def ofItem? : Item → Option Component
  | .module m => some (module m)
  | .moduleType m => some (moduleType m)
  | .type t => some (type t)
  | .value v => some (value v)
  | .external e => some (external e)
  | .classDecl c => some (classDecl c)
  | .classType c => some (classType c)
  | _ => none

end Component

structure Scope where
  names : List ((Namespace × String) × Identifier) := []
  elements : List (Identifier × Component) := []
  fragmentRoot : Option Signature := none
  docs : Docs := []

namespace Scope

/-- Binds an identifier, and its name too unless that is in braces. -/
def bind (s : Scope) (id : Identifier) (component : Component) : Scope :=
  { s with
    names :=
      if id.isHidden then s.names
      else component.namespaces.foldl (fun names ns => ((ns, id.name), id) :: names) s.names
    elements := (id, component) :: s.elements }

def bindItem (s : Scope) (item : Item) : Scope :=
  match item.identifier?, Component.ofItem? item with
  | some id, some component => s.bind id component
  | _, _ => s

def bindMembers (s : Scope) (sig : Signature) : Scope := sig.members.foldl bindItem s

end Scope

structure Env where
  resolver : Option Resolver := none
  options : ResolverOptions := {}
  scopes : List Scope := []

namespace Env

def empty : Env := {}

def create (resolver : Resolver) (options : ResolverOptions) : Env :=
  { resolver := some resolver, options }

def push (env : Env) (scope : Scope) : Env := { env with scopes := scope :: env.scopes }

def addItem (env : Env) (item : Item) : Env :=
  match item.identifier?, Component.ofItem? item with
  | some id, some component => env.push (Scope.bind {} id component)
  | _, _ => env

def addModule (env : Env) (m : Module) : Env := env.push (Scope.bind {} m.id (.module m))

def addModuleType (env : Env) (m : ModuleType) : Env :=
  env.push (Scope.bind {} m.id (.moduleType m))

def addArgument (env : Env) (arg : FunctorArgument) : Env :=
  env.push (Scope.bind {} arg.id (.parameter arg))

def addParameter (env : Env) : FunctorParameter → Env
  | .unit => env
  | .named id expr => env.addArgument ⟨id, expr⟩

def addFragmentRoot (env : Env) (sig : Signature) : Env := env.push { fragmentRoot := some sig }

def fragmentRoot? (env : Env) : Option Signature := env.scopes.findSome? (·.fragmentRoot)

def addDocs (env : Env) (docs : Docs) : Env :=
  if docs.isEmpty then env else env.push { docs }

def docs (env : Env) : Docs := env.scopes.flatMap (·.docs)

def openSignature (env : Env) (sig : Signature) : Env := env.push (Scope.bindMembers {} sig)

def openUnit (env : Env) (unit : CompilationUnit) : Env :=
  env.push ((Scope.bindMembers {} unit.content.signature).bind unit.id (.unit unit))

def lookupById (env : Env) (id : Identifier) : Option Component :=
  env.scopes.findSome? (·.elements.lookup id)

def lookupByName (env : Env) (ns : Namespace) (name : String) :
    Option (Identifier × Component) := do
  let id ← env.scopes.findSome? (·.names.lookup (ns, name))
  let component ← env.lookupById id
  return (id, component)

def lookupUnit (env : Env) (name : String) : UnitLookup :=
  match env.resolver with
  | some resolver => resolver.lookupUnit name
  | none => .notFound

def unit (env : Env) (root : Identifier) (loads : Loads) :
    Except FetchError CompilationUnit × Loads :=
  match env.lookupById root with
  | some (.unit unit) => (.ok unit, loads)
  | _ =>
    match loads.unit? root with
    | some unit => (.ok unit, loads)
    | none =>
      match env.resolver with
      | some resolver => loads.request resolver root
      | none => (.error (.unitNotFound root.name), loads)

end Env

end CrossRef
