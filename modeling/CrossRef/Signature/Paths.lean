import CrossRef.Signature.Basic

/-! The paths that occur in a signature, in the order in which they are written. -/

namespace CrossRef

mutual

def Signature.paths : Signature → List Path
  | ⟨items, _, _⟩ => pathsOfItems items

def pathsOfItems : List Item → List Path
  | [] => []
  | item :: items => item.paths ++ pathsOfItems items

def Item.paths : Item → List Path
  | .module m => m.paths
  | .moduleSubstitution m => [m.manifest]
  | .moduleType m => m.paths
  | .type t => t.paths
  | .typeSubstitution t => t.paths
  | .value v => v.type.paths
  | .external e => e.type.paths
  | .classDecl c => c.paths
  | .classType c => c.paths
  | .extension e => e.paths
  | .exception e => e.paths
  | .included i => i.paths
  | .opened _ content => content.paths
  | .comment _ => []

def Module.paths : Module → List Path
  | ⟨_, _, decl, _⟩ => decl.paths

def ModuleDecl.paths : ModuleDecl → List Path
  | .aliasOf path expansion => path :: pathsOfExpansion expansion
  | .typed expr => expr.paths

def ModuleType.paths : ModuleType → List Path
  | ⟨_, _, none⟩ => []
  | ⟨_, _, some expr⟩ => expr.paths

def pathsOfExpansion : Option StoredExpansion → List Path
  | none => []
  | some expansion => expansion.paths

def StoredExpansion.paths : StoredExpansion → List Path
  | .signature sig => sig.paths
  | .functor param body => param.paths ++ body.paths

def FunctorParameter.paths : FunctorParameter → List Path
  | .unit => []
  | .named _ expr => expr.paths

def ModuleTypeExpr.paths : ModuleTypeExpr → List Path
  | .path path expansion => path :: pathsOfExpansion expansion
  | .signature sig => sig.paths
  | .functor param body => param.paths ++ body.paths
  | .constrained constraints base expansion =>
    pathsOfWith constraints ++ base.paths ++ pathsOfExpansion expansion
  | .typeOf origin expansion => origin.path :: pathsOfExpansion expansion

def SignatureExpr.paths : SignatureExpr → List Path
  | .path path => [path]
  | .signature sig => sig.paths
  | .constrained constraints base => pathsOfWith constraints ++ base.paths
  | .typeOf origin => [origin.path]

def pathsOfWith : List Constraint → List Path
  | [] => []
  | c :: cs => c.paths ++ pathsOfWith cs

def Constraint.paths : Constraint → List Path
  | .moduleEq _ decl => decl.paths
  | .moduleSubst _ path => [path]
  | .typeEq _ eq => eq.paths
  | .typeSubst _ eq => eq.paths

def Include.paths : Include → List Path
  | ⟨_, _, decl, strengthened, _, content⟩ => decl.paths ++ strengthened.toList ++ content.paths

def IncludeDecl.paths : IncludeDecl → List Path
  | .aliasOf path => [path]
  | .typed expr => expr.paths

end

namespace Signature

def unresolvedCount (sig : Signature) : Nat :=
  sig.paths.foldr (fun path count => path.unresolvedSteps + count) 0

end Signature

end CrossRef
