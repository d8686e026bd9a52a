import Mathlib.Data.List.Forall2
import CrossRef.Signature.Paths

/-! What compiling may change. One piece of syntax refines another when it is the same but for
references that have become resolved, for signatures that have been marked, and for the parts that
are computed from the rest. -/

namespace CrossRef

def Path.Refines (p q : Path) : Prop := q = p ∨ p.isResolved = false ∧ q.isResolved = true

def Fragment.Refines (f g : Fragment) : Prop := g = f ∨ f.isResolved = false ∧ g.isResolved = true

mutual

inductive TypeExpr.Refines : TypeExpr → TypeExpr → Prop
  | var (name : String) : TypeExpr.Refines (.var name) (.var name)
  | any : TypeExpr.Refines .any .any
  | arrow (label : Option Label) {arg arg' ret ret' : TypeExpr} :
      TypeExpr.Refines arg arg' → TypeExpr.Refines ret ret' →
      TypeExpr.Refines (.arrow label arg ret) (.arrow label arg' ret')
  | tuple {ts ts' : List TypeExpr} :
      List.Forall₂ TypeExpr.Refines ts ts' → TypeExpr.Refines (.tuple ts) (.tuple ts')
  | constr {path path' : Path} {args args' : List TypeExpr} :
      Path.Refines path path' → List.Forall₂ TypeExpr.Refines args args' →
      TypeExpr.Refines (.constr path args) (.constr path' args')
  | variant (kind : VariantKind) {es es' : List VariantElement} :
      List.Forall₂ VariantElement.Refines es es' →
      TypeExpr.Refines (.variant kind es) (.variant kind es')
  | object {fs fs' : List ObjectField} (isOpen : Bool) :
      List.Forall₂ ObjectField.Refines fs fs' →
      TypeExpr.Refines (.object fs isOpen) (.object fs' isOpen)
  | classRef {path path' : Path} {args args' : List TypeExpr} :
      Path.Refines path path' → List.Forall₂ TypeExpr.Refines args args' →
      TypeExpr.Refines (.classRef path args) (.classRef path' args')
  | poly (vars : List String) {body body' : TypeExpr} :
      TypeExpr.Refines body body' → TypeExpr.Refines (.poly vars body) (.poly vars body')
  | package {path path' : Path} {cs cs' : List PackageConstraint} :
      Path.Refines path path' → List.Forall₂ PackageConstraint.Refines cs cs' →
      TypeExpr.Refines (.package path cs) (.package path' cs')

inductive VariantElement.Refines : VariantElement → VariantElement → Prop
  | type {t t' : TypeExpr} : TypeExpr.Refines t t' → VariantElement.Refines (.type t) (.type t')
  | constructor (name : String) (constant : Bool) {args args' : List TypeExpr} :
      List.Forall₂ TypeExpr.Refines args args' →
      VariantElement.Refines (.constructor name constant args) (.constructor name constant args')

inductive ObjectField.Refines : ObjectField → ObjectField → Prop
  | method (name : String) {t t' : TypeExpr} :
      TypeExpr.Refines t t' → ObjectField.Refines (.method name t) (.method name t')
  | inherit {t t' : TypeExpr} :
      TypeExpr.Refines t t' → ObjectField.Refines (.inherit t) (.inherit t')

inductive PackageConstraint.Refines : PackageConstraint → PackageConstraint → Prop
  | mk {f f' : Fragment} {t t' : TypeExpr} :
      Fragment.Refines f f' → TypeExpr.Refines t t' → PackageConstraint.Refines ⟨f, t⟩ ⟨f', t'⟩

end

structure TypeEquation.Refines (eq eq' : TypeEquation) : Prop where
  params : eq'.params = eq.params
  isPrivate : eq'.isPrivate = eq.isPrivate
  manifest : Option.Rel TypeExpr.Refines eq.manifest eq'.manifest
  constraints : List.Forall₂ (fun c c' => c.1.Refines c'.1 ∧ c.2.Refines c'.2)
    eq.constraints eq'.constraints

structure Field.Refines (f f' : Field) : Prop where
  id : f'.id = f.id
  doc : f'.doc = f.doc
  isMutable : f'.isMutable = f.isMutable
  type : f.type.Refines f'.type

inductive ConstructorArgs.Refines : ConstructorArgs → ConstructorArgs → Prop
  | tuple {ts ts' : List TypeExpr} :
      List.Forall₂ TypeExpr.Refines ts ts' → ConstructorArgs.Refines (.tuple ts) (.tuple ts')
  | record {fs fs' : List Field} :
      List.Forall₂ Field.Refines fs fs' → ConstructorArgs.Refines (.record fs) (.record fs')

structure Constructor.Refines (c c' : Constructor) : Prop where
  id : c'.id = c.id
  doc : c'.doc = c.doc
  args : c.args.Refines c'.args
  res : Option.Rel TypeExpr.Refines c.res c'.res

inductive TypeRepr.Refines : TypeRepr → TypeRepr → Prop
  | variant {cs cs' : List Constructor} :
      List.Forall₂ Constructor.Refines cs cs' → TypeRepr.Refines (.variant cs) (.variant cs')
  | record {fs fs' : List Field} :
      List.Forall₂ Field.Refines fs fs' → TypeRepr.Refines (.record fs) (.record fs')
  | extensible : TypeRepr.Refines .extensible .extensible

structure TypeDecl.Refines (t t' : TypeDecl) : Prop where
  id : t'.id = t.id
  doc : t'.doc = t.doc
  equation : t.equation.Refines t'.equation
  representation : Option.Rel TypeRepr.Refines t.representation t'.representation

structure Value.Refines (v v' : Value) : Prop where
  id : v'.id = v.id
  doc : v'.doc = v.doc
  type : v.type.Refines v'.type

structure External.Refines (x x' : External) : Prop where
  id : x'.id = x.id
  doc : x'.doc = x.doc
  type : x.type.Refines x'.type
  primitives : x'.primitives = x.primitives

structure Extension.Refines (x x' : Extension) : Prop where
  typePath : x.typePath.Refines x'.typePath
  doc : x'.doc = x.doc
  typeParams : x'.typeParams = x.typeParams
  isPrivate : x'.isPrivate = x.isPrivate
  constructors : List.Forall₂ Constructor.Refines x.constructors x'.constructors

structure Method.Refines (m m' : Method) : Prop where
  id : m'.id = m.id
  doc : m'.doc = m.doc
  isPrivate : m'.isPrivate = m.isPrivate
  isVirtual : m'.isVirtual = m.isVirtual
  type : m.type.Refines m'.type

structure InstanceVariable.Refines (v v' : InstanceVariable) : Prop where
  id : v'.id = v.id
  doc : v'.doc = v.doc
  isMutable : v'.isMutable = v.isMutable
  isVirtual : v'.isVirtual = v.isVirtual
  type : v.type.Refines v'.type

mutual

inductive ClassTypeExpr.Refines : ClassTypeExpr → ClassTypeExpr → Prop
  | constr {path path' : Path} {args args' : List TypeExpr} :
      Path.Refines path path' → List.Forall₂ TypeExpr.Refines args args' →
      ClassTypeExpr.Refines (.constr path args) (.constr path' args')
  | signature {sig sig' : ClassSignature} :
      ClassSignature.Refines sig sig' → ClassTypeExpr.Refines (.signature sig) (.signature sig')

inductive ClassSignature.Refines : ClassSignature → ClassSignature → Prop
  | mk {self self' : Option TypeExpr} {items items' : List ClassItem} :
      Option.Rel TypeExpr.Refines self self' → List.Forall₂ ClassItem.Refines items items' →
      ClassSignature.Refines ⟨self, items⟩ ⟨self', items'⟩

inductive ClassItem.Refines : ClassItem → ClassItem → Prop
  | method {m m' : Method} : Method.Refines m m' → ClassItem.Refines (.method m) (.method m')
  | instanceVariable {v v' : InstanceVariable} :
      InstanceVariable.Refines v v' → ClassItem.Refines (.instanceVariable v) (.instanceVariable v')
  | constraint {lhs lhs' rhs rhs' : TypeExpr} :
      TypeExpr.Refines lhs lhs' → TypeExpr.Refines rhs rhs' →
      ClassItem.Refines (.constraint lhs rhs) (.constraint lhs' rhs')
  | inherit {expr expr' : ClassTypeExpr} :
      ClassTypeExpr.Refines expr expr' → ClassItem.Refines (.inherit expr) (.inherit expr')
  | comment (text : String) : ClassItem.Refines (.comment text) (.comment text)

end

inductive ClassDecl.Refines : ClassDecl → ClassDecl → Prop
  | classType {expr expr' : ClassTypeExpr} :
      ClassTypeExpr.Refines expr expr' → ClassDecl.Refines (.classType expr) (.classType expr')
  | arrow (label : Option Label) {arg arg' : TypeExpr} {body body' : ClassDecl} :
      TypeExpr.Refines arg arg' → ClassDecl.Refines body body' →
      ClassDecl.Refines (.arrow label arg body) (.arrow label arg' body')

structure Class.Refines (c c' : Class) : Prop where
  id : c'.id = c.id
  doc : c'.doc = c.doc
  isVirtual : c'.isVirtual = c.isVirtual
  params : c'.params = c.params
  decl : c.decl.Refines c'.decl

structure ClassType.Refines (c c' : ClassType) : Prop where
  id : c'.id = c.id
  doc : c'.doc = c.doc
  isVirtual : c'.isVirtual = c.isVirtual
  params : c'.params = c.params
  expr : c.expr.Refines c'.expr

structure ModuleSubstitution.Refines (m m' : ModuleSubstitution) : Prop where
  id : m'.id = m.id
  doc : m'.doc = m.doc
  manifest : m.manifest.Refines m'.manifest

inductive TypeOfOrigin.Refines : TypeOfOrigin → TypeOfOrigin → Prop
  | moduleType {p p' : Path} :
      Path.Refines p p' → TypeOfOrigin.Refines (.moduleType p) (.moduleType p')
  | structInclude {p p' : Path} :
      Path.Refines p p' → TypeOfOrigin.Refines (.structInclude p) (.structInclude p')

mutual

inductive Signature.Refines : Signature → Signature → Prop
  | marked (items : List Item) (doc : Docs) :
      Signature.Refines ⟨items, true, doc⟩ ⟨items, true, doc⟩
  | items {items items' : List Item} (doc : Docs) :
      List.Forall₂ Item.Refines items items' →
      Signature.Refines ⟨items, false, doc⟩ ⟨items', true, doc⟩

inductive Item.Refines : Item → Item → Prop
  | module {m m' : Module} : Module.Refines m m' → Item.Refines (.module m) (.module m')
  | moduleSubstitution {m m' : ModuleSubstitution} :
      ModuleSubstitution.Refines m m' →
      Item.Refines (.moduleSubstitution m) (.moduleSubstitution m')
  | moduleType {m m' : ModuleType} :
      ModuleType.Refines m m' → Item.Refines (.moduleType m) (.moduleType m')
  | type {t t' : TypeDecl} : TypeDecl.Refines t t' → Item.Refines (.type t) (.type t')
  | typeSubstitution {t t' : TypeDecl} :
      TypeDecl.Refines t t' → Item.Refines (.typeSubstitution t) (.typeSubstitution t')
  | value {v v' : Value} : Value.Refines v v' → Item.Refines (.value v) (.value v')
  | external {x x' : External} : External.Refines x x' → Item.Refines (.external x) (.external x')
  | classDecl {c c' : Class} : Class.Refines c c' → Item.Refines (.classDecl c) (.classDecl c')
  | classType {c c' : ClassType} :
      ClassType.Refines c c' → Item.Refines (.classType c) (.classType c')
  | extension {x x' : Extension} :
      Extension.Refines x x' → Item.Refines (.extension x) (.extension x')
  | exception {c c' : Constructor} :
      Constructor.Refines c c' → Item.Refines (.exception c) (.exception c')
  | included {i i' : Include} : Include.Refines i i' → Item.Refines (.included i) (.included i')
  | opened (doc : Docs) {sig sig' : Signature} :
      Signature.Refines sig sig' → Item.Refines (.opened doc sig) (.opened doc sig')
  | comment (text : String) : Item.Refines (.comment text) (.comment text)

inductive Module.Refines : Module → Module → Prop
  | hidden (id : Identifier) (doc : Docs) (decl : ModuleDecl) :
      Module.Refines ⟨id, doc, decl, true⟩ ⟨id, doc, decl, true⟩
  | visible (id : Identifier) (doc : Docs) {decl decl' : ModuleDecl} :
      ModuleDecl.Refines decl decl' → Module.Refines ⟨id, doc, decl, false⟩ ⟨id, doc, decl', false⟩

inductive ModuleDecl.Refines : ModuleDecl → ModuleDecl → Prop
  | aliasOf {path path' : Path} {stored stored' : Option StoredExpansion} :
      Path.Refines path path' → Option.Rel StoredExpansion.Refines stored stored' →
      ModuleDecl.Refines (.aliasOf path stored) (.aliasOf path' stored')
  | typed {expr expr' : ModuleTypeExpr} :
      ModuleTypeExpr.Refines expr expr' → ModuleDecl.Refines (.typed expr) (.typed expr')

inductive ModuleType.Refines : ModuleType → ModuleType → Prop
  | mk (id : Identifier) (doc : Docs) {expr expr' : Option ModuleTypeExpr} :
      Option.Rel ModuleTypeExpr.Refines expr expr' →
      ModuleType.Refines ⟨id, doc, expr⟩ ⟨id, doc, expr'⟩

inductive StoredExpansion.Refines : StoredExpansion → StoredExpansion → Prop
  | signature {sig sig' : Signature} :
      Signature.Refines sig sig' → StoredExpansion.Refines (.signature sig) (.signature sig')
  | functor {param param' : FunctorParameter} {body body' : StoredExpansion} :
      FunctorParameter.Refines param param' → StoredExpansion.Refines body body' →
      StoredExpansion.Refines (.functor param body) (.functor param' body')

inductive FunctorParameter.Refines : FunctorParameter → FunctorParameter → Prop
  | unit : FunctorParameter.Refines .unit .unit
  | named (id : Identifier) {expr expr' : ModuleTypeExpr} :
      ModuleTypeExpr.Refines expr expr' →
      FunctorParameter.Refines (.named id expr) (.named id expr')

/-- An expression with constraints whose base has no signature is the same. One over a written
signature may give way to a signature that is marked and has nothing unresolved in it. -/
inductive ModuleTypeExpr.Refines : ModuleTypeExpr → ModuleTypeExpr → Prop
  | path {path path' : Path} {stored stored' : Option StoredExpansion} :
      Path.Refines path path' → Option.Rel StoredExpansion.Refines stored stored' →
      ModuleTypeExpr.Refines (.path path stored) (.path path' stored')
  | signature {sig sig' : Signature} :
      Signature.Refines sig sig' → ModuleTypeExpr.Refines (.signature sig) (.signature sig')
  | functor {param param' : FunctorParameter} {body body' : ModuleTypeExpr} :
      FunctorParameter.Refines param param' → ModuleTypeExpr.Refines body body' →
      ModuleTypeExpr.Refines (.functor param body) (.functor param' body')
  | constrained {cs cs' : List Constraint} {base base' : SignatureExpr}
      {stored stored' : Option StoredExpansion} :
      List.Forall₂ Constraint.Refines cs cs' → SignatureExpr.Refines base base' →
      Option.Rel StoredExpansion.Refines stored stored' →
      ModuleTypeExpr.Refines (.constrained cs base stored) (.constrained cs' base' stored')
  | kept (cs : List Constraint) (base : SignatureExpr) (stored : Option StoredExpansion) :
      ModuleTypeExpr.Refines (.constrained cs base stored) (.constrained cs base stored)
  | replaced (cs : List Constraint) {base : SignatureExpr} (stored : Option StoredExpansion)
      {sig : Signature} : base.hasLiteralRoot = true → sig.compiled = true →
      sig.unresolvedCount = 0 →
      ModuleTypeExpr.Refines (.constrained cs base stored) (.signature sig)
  | typeOf {origin origin' : TypeOfOrigin} {stored stored' : Option StoredExpansion} :
      TypeOfOrigin.Refines origin origin' → Option.Rel StoredExpansion.Refines stored stored' →
      ModuleTypeExpr.Refines (.typeOf origin stored) (.typeOf origin' stored')

inductive SignatureExpr.Refines : SignatureExpr → SignatureExpr → Prop
  | path {path path' : Path} :
      Path.Refines path path' → SignatureExpr.Refines (.path path) (.path path')
  | signature {sig sig' : Signature} :
      Signature.Refines sig sig' → SignatureExpr.Refines (.signature sig) (.signature sig')
  | constrained {cs cs' : List Constraint} {base base' : SignatureExpr} :
      List.Forall₂ Constraint.Refines cs cs' → SignatureExpr.Refines base base' →
      SignatureExpr.Refines (.constrained cs base) (.constrained cs' base')
  | typeOf {origin origin' : TypeOfOrigin} :
      TypeOfOrigin.Refines origin origin' → SignatureExpr.Refines (.typeOf origin) (.typeOf origin')

inductive Constraint.Refines : Constraint → Constraint → Prop
  | moduleEq {f f' : Fragment} {decl decl' : ModuleDecl} :
      Fragment.Refines f f' → ModuleDecl.Refines decl decl' →
      Constraint.Refines (.moduleEq f decl) (.moduleEq f' decl')
  | moduleSubst {f f' : Fragment} {path path' : Path} :
      Fragment.Refines f f' → Path.Refines path path' →
      Constraint.Refines (.moduleSubst f path) (.moduleSubst f' path')
  | typeEq {f f' : Fragment} {eq eq' : TypeEquation} :
      Fragment.Refines f f' → TypeEquation.Refines eq eq' →
      Constraint.Refines (.typeEq f eq) (.typeEq f' eq')
  | typeSubst {f f' : Fragment} {eq eq' : TypeEquation} :
      Fragment.Refines f f' → TypeEquation.Refines eq eq' →
      Constraint.Refines (.typeSubst f eq) (.typeSubst f' eq')

inductive Include.Refines : Include → Include → Prop
  | mk (parent : Identifier) (doc : Docs) {decl decl' : IncludeDecl}
      {strengthened strengthened' : Option Path} (shadowed : Shadowed)
      {content content' : Signature} :
      IncludeDecl.Refines decl decl' → Option.Rel Path.Refines strengthened strengthened' →
      (content' = content ∨ content.compiled = false ∧ content'.compiled = true) →
      Include.Refines ⟨parent, doc, decl, strengthened, shadowed, content⟩
        ⟨parent, doc, decl', strengthened', shadowed, content'⟩

inductive IncludeDecl.Refines : IncludeDecl → IncludeDecl → Prop
  | aliasOf {path path' : Path} :
      Path.Refines path path' → IncludeDecl.Refines (.aliasOf path) (.aliasOf path')
  | typed {expr expr' : SignatureExpr} :
      SignatureExpr.Refines expr expr' → IncludeDecl.Refines (.typed expr) (.typed expr')

end

theorem Item.Refines.identifier? {item item' : Item} (h : item.Refines item') :
    item'.identifier? = item.identifier? := by
  cases h with
  | module hm => cases hm <;> rfl
  | moduleSubstitution hm => exact congrArg some hm.id
  | moduleType hm => cases hm; rfl
  | type ht => exact congrArg some ht.id
  | typeSubstitution ht => exact congrArg some ht.id
  | value hv => exact congrArg some hv.id
  | external hx => exact congrArg some hx.id
  | classDecl hc => exact congrArg some hc.id
  | classType hc => exact congrArg some hc.id
  | exception hc => exact congrArg some hc.id
  | extension _ => rfl
  | included _ => rfl
  | opened _ _ => rfl
  | comment _ => rfl

end CrossRef
