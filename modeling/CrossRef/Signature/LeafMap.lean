import CrossRef.Signature.Basic

/-! Maps on the leaves of a whole signature. -/

namespace CrossRef

mutual

def Signature.mapLeaves (r : LeafMap) : Signature → Signature
  | ⟨items, compiled, doc⟩ => ⟨mapItems r items, compiled, doc⟩

def mapItems (r : LeafMap) : List Item → List Item
  | [] => []
  | item :: items => item.mapLeaves r :: mapItems r items

def Item.mapLeaves (r : LeafMap) : Item → Item
  | .module m => .module (m.mapLeaves r)
  | .moduleSubstitution m =>
    .moduleSubstitution { m with id := r.ident m.id, manifest := r.path m.manifest }
  | .moduleType m => .moduleType (m.mapLeaves r)
  | .type t => .type (t.mapLeaves r)
  | .typeSubstitution t => .typeSubstitution (t.mapLeaves r)
  | .value v => .value (v.mapLeaves r)
  | .external e => .external (e.mapLeaves r)
  | .classDecl c => .classDecl (c.mapLeaves r)
  | .classType c => .classType (c.mapLeaves r)
  | .extension e => .extension (e.mapLeaves r)
  | .exception e => .exception (e.mapLeaves r)
  | .included i => .included (i.mapLeaves r)
  | .opened doc content => .opened doc (content.mapLeaves r)
  | .comment text => .comment text

def Module.mapLeaves (r : LeafMap) : Module → Module
  | ⟨id, doc, decl, hidden⟩ => ⟨r.ident id, doc, decl.mapLeaves r, hidden⟩

def ModuleDecl.mapLeaves (r : LeafMap) : ModuleDecl → ModuleDecl
  | .aliasOf path expansion => .aliasOf (r.path path) (mapExpansion r expansion)
  | .typed expr => .typed (expr.mapLeaves r)

def ModuleType.mapLeaves (r : LeafMap) : ModuleType → ModuleType
  | ⟨id, doc, none⟩ => ⟨r.ident id, doc, none⟩
  | ⟨id, doc, some expr⟩ => ⟨r.ident id, doc, some (expr.mapLeaves r)⟩

def mapExpansion (r : LeafMap) : Option StoredExpansion → Option StoredExpansion
  | none => none
  | some expansion => some (expansion.mapLeaves r)

def StoredExpansion.mapLeaves (r : LeafMap) : StoredExpansion → StoredExpansion
  | .signature sig => .signature (sig.mapLeaves r)
  | .functor param body => .functor (param.mapLeaves r) (body.mapLeaves r)

def FunctorParameter.mapLeaves (r : LeafMap) : FunctorParameter → FunctorParameter
  | .unit => .unit
  | .named id expr => .named (r.ident id) (expr.mapLeaves r)

def ModuleTypeExpr.mapLeaves (r : LeafMap) : ModuleTypeExpr → ModuleTypeExpr
  | .path path expansion => .path (r.path path) (mapExpansion r expansion)
  | .signature sig => .signature (sig.mapLeaves r)
  | .functor param body => .functor (param.mapLeaves r) (body.mapLeaves r)
  | .constrained constraints base expansion =>
    .constrained (mapWith r constraints) (base.mapLeaves r) (mapExpansion r expansion)
  | .typeOf origin expansion => .typeOf (origin.mapPath r.path) (mapExpansion r expansion)

def SignatureExpr.mapLeaves (r : LeafMap) : SignatureExpr → SignatureExpr
  | .path path => .path (r.path path)
  | .signature sig => .signature (sig.mapLeaves r)
  | .constrained constraints base => .constrained (mapWith r constraints) (base.mapLeaves r)
  | .typeOf origin => .typeOf (origin.mapPath r.path)

def mapWith (r : LeafMap) : List Constraint → List Constraint
  | [] => []
  | c :: cs => c.mapLeaves r :: mapWith r cs

def Constraint.mapLeaves (r : LeafMap) : Constraint → Constraint
  | .moduleEq fragment decl => .moduleEq fragment (decl.mapLeaves r)
  | .moduleSubst fragment path => .moduleSubst fragment (r.path path)
  | .typeEq fragment eq => .typeEq fragment (eq.mapLeaves r)
  | .typeSubst fragment eq => .typeSubst fragment (eq.mapLeaves r)

def Include.mapLeaves (r : LeafMap) : Include → Include
  | ⟨parent, doc, decl, strengthened, shadowed, content⟩ =>
    ⟨r.ident parent, doc, decl.mapLeaves r, strengthened.map r.path, shadowed, content.mapLeaves r⟩

def IncludeDecl.mapLeaves (r : LeafMap) : IncludeDecl → IncludeDecl
  | .aliasOf path => .aliasOf (r.path path)
  | .typed expr => .typed (expr.mapLeaves r)

end

end CrossRef
