import CrossRef.ClassType
import CrossRef.Shadowed

/-! Signatures, modules and module-type expressions. -/

namespace CrossRef

structure ModuleSubstitution where
  id : Identifier
  doc : Docs
  manifest : Path

inductive TypeOfOrigin where
  | moduleType (path : Path)
  | structInclude (path : Path)

namespace TypeOfOrigin

def path : TypeOfOrigin → Path
  | moduleType p => p
  | structInclude p => p

def mapPath (f : Path → Path) : TypeOfOrigin → TypeOfOrigin
  | moduleType p => moduleType (f p)
  | structInclude p => structInclude (f p)

def withPath (origin : TypeOfOrigin) (path : Path) : TypeOfOrigin := origin.mapPath fun _ => path

end TypeOfOrigin

mutual

/-- An ordered list of declarations; `compiled` marks a signature whose references are settled. -/
structure Signature where
  items : List Item
  compiled : Bool
  doc : Docs

inductive Item where
  | module (m : Module)
  | moduleSubstitution (m : ModuleSubstitution)
  | moduleType (m : ModuleType)
  | type (t : TypeDecl)
  | typeSubstitution (t : TypeDecl)
  | value (v : Value)
  | external (e : External)
  | classDecl (c : Class)
  | classType (c : ClassType)
  | extension (e : Extension)
  | exception (e : Constructor)
  | included (i : Include)
  | opened (doc : Docs) (content : Signature)
  | comment (text : String)

structure Module where
  id : Identifier
  doc : Docs
  decl : ModuleDecl
  hidden : Bool

inductive ModuleDecl where
  | aliasOf (path : Path) (expansion : Option StoredExpansion)
  | typed (expr : ModuleTypeExpr)

structure ModuleType where
  id : Identifier
  doc : Docs
  expr : Option ModuleTypeExpr

inductive StoredExpansion where
  | signature (sig : Signature)
  | functor (param : FunctorParameter) (body : StoredExpansion)

inductive FunctorParameter where
  | unit
  | named (id : Identifier) (expr : ModuleTypeExpr)

inductive ModuleTypeExpr where
  | path (path : Path) (expansion : Option StoredExpansion)
  | signature (sig : Signature)
  | functor (param : FunctorParameter) (body : ModuleTypeExpr)
  | constrained (constraints : List Constraint) (base : SignatureExpr)
      (expansion : Option StoredExpansion)
  | typeOf (origin : TypeOfOrigin) (expansion : Option StoredExpansion)

inductive SignatureExpr where
  | path (path : Path)
  | signature (sig : Signature)
  | constrained (constraints : List Constraint) (base : SignatureExpr)
  | typeOf (origin : TypeOfOrigin)

inductive Constraint where
  | moduleEq (fragment : Fragment) (decl : ModuleDecl)
  | moduleSubst (fragment : Fragment) (path : Path)
  | typeEq (fragment : Fragment) (eq : TypeEquation)
  | typeSubst (fragment : Fragment) (eq : TypeEquation)

/-- The content is what the include stands for in the signature of `parent`. -/
structure Include where
  parent : Identifier
  doc : Docs
  decl : IncludeDecl
  strengthened : Option Path
  shadowed : Shadowed
  content : Signature

inductive IncludeDecl where
  | aliasOf (path : Path)
  | typed (expr : SignatureExpr)

end

structure FunctorArgument where
  id : Identifier
  expr : ModuleTypeExpr

namespace FunctorParameter

def argument? : FunctorParameter → Option FunctorArgument
  | unit => none
  | named id expr => some ⟨id, expr⟩

end FunctorParameter

namespace StoredExpansion

def toModuleTypeExpr : StoredExpansion → ModuleTypeExpr
  | signature sig => .signature sig
  | functor param body => .functor param body.toModuleTypeExpr

end StoredExpansion

namespace Constraint

def fragment : Constraint → Fragment
  | moduleEq f _ => f
  | moduleSubst f _ => f
  | typeEq f _ => f
  | typeSubst f _ => f

def withFragment (f : Fragment) : Constraint → Constraint
  | moduleEq _ decl => moduleEq f decl
  | moduleSubst _ path => moduleSubst f path
  | typeEq _ eq => typeEq f eq
  | typeSubst _ eq => typeSubst f eq

def targetsModule : Constraint → Bool
  | moduleEq _ _ | moduleSubst _ _ => true
  | typeEq _ _ | typeSubst _ _ => false

end Constraint

namespace SignatureExpr

def text : SignatureExpr → String
  | path p => p.text
  | signature _ => "sig ... end"
  | constrained _ base => base.text ++ " with ..."
  | typeOf origin => "module type of " ++ origin.path.text

def hasLiteralRoot : SignatureExpr → Bool
  | signature _ => true
  | constrained _ base => base.hasLiteralRoot
  | path _ | typeOf _ => false

end SignatureExpr

namespace IncludeDecl

def text : IncludeDecl → String
  | aliasOf path => path.text
  | typed expr => expr.text

end IncludeDecl

namespace Item

def identifier? : Item → Option Identifier
  | module m => some m.id
  | moduleSubstitution m => some m.id
  | moduleType m => some m.id
  | type t | typeSubstitution t => some t.id
  | value v => some v.id
  | external e => some e.id
  | classDecl c => some c.id
  | classType c => some c.id
  | exception e => some e.id
  | extension _ | included _ | opened _ _ | comment _ => none

def kind (item : Item) : IdentKind := (item.identifier?.map (·.kind)).getD .type

def owner? : Item → Option Identifier
  | included i => some i.parent
  | item => item.identifier?.bind (·.parent?)

end Item

namespace Signature

def ofItems (items : List Item) : Signature := ⟨items, false, []⟩

def parent? (sig : Signature) : Option Identifier := sig.items.findSome? (·.owner?)

end Signature

end CrossRef
