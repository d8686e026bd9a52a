import Mathlib.Data.List.Forall2
import CrossRef.Signature.LeafMap

/-! Syntax that differs in its leaves only. Two pieces of syntax are parallel when they are the same
node by node but for identifiers and resolved paths, and those that stand in the same place are
related. A map on leaves leads to parallel syntax. -/

namespace CrossRef

structure LeafRel where
  ident : Identifier → Identifier → Prop
  resolved : ResolvedPath → ResolvedPath → Prop

section Relation

variable (R : LeafRel)

inductive Path.Parallel : Path → Path → Prop
  | resolved {p p' : ResolvedPath} : R.resolved p p' → Path.Parallel (.resolved p) (.resolved p')
  | root (name : String) : Path.Parallel (.root name) (.root name)
  | dot {parent parent' : Path} (name : String) :
      Path.Parallel parent parent' → Path.Parallel (.dot parent name) (.dot parent' name)
  | apply {f f' a a' : Path} :
      Path.Parallel f f' → Path.Parallel a a' → Path.Parallel (.apply f a) (.apply f' a')

mutual

inductive TypeExpr.Parallel : TypeExpr → TypeExpr → Prop
  | var (name : String) : TypeExpr.Parallel (.var name) (.var name)
  | any : TypeExpr.Parallel .any .any
  | arrow (label : Option Label) {arg arg' ret ret' : TypeExpr} :
      TypeExpr.Parallel arg arg' → TypeExpr.Parallel ret ret' →
      TypeExpr.Parallel (.arrow label arg ret) (.arrow label arg' ret')
  | tuple {ts ts' : List TypeExpr} :
      List.Forall₂ TypeExpr.Parallel ts ts' → TypeExpr.Parallel (.tuple ts) (.tuple ts')
  | constr {path path' : Path} {args args' : List TypeExpr} :
      Path.Parallel R path path' → List.Forall₂ TypeExpr.Parallel args args' →
      TypeExpr.Parallel (.constr path args) (.constr path' args')
  | variant (kind : VariantKind) {es es' : List VariantElement} :
      List.Forall₂ VariantElement.Parallel es es' →
      TypeExpr.Parallel (.variant kind es) (.variant kind es')
  | object {fs fs' : List ObjectField} (isOpen : Bool) :
      List.Forall₂ ObjectField.Parallel fs fs' →
      TypeExpr.Parallel (.object fs isOpen) (.object fs' isOpen)
  | classRef {path path' : Path} {args args' : List TypeExpr} :
      Path.Parallel R path path' → List.Forall₂ TypeExpr.Parallel args args' →
      TypeExpr.Parallel (.classRef path args) (.classRef path' args')
  | poly (vars : List String) {body body' : TypeExpr} :
      TypeExpr.Parallel body body' → TypeExpr.Parallel (.poly vars body) (.poly vars body')
  | package {path path' : Path} {cs cs' : List PackageConstraint} :
      Path.Parallel R path path' → List.Forall₂ PackageConstraint.Parallel cs cs' →
      TypeExpr.Parallel (.package path cs) (.package path' cs')

inductive VariantElement.Parallel : VariantElement → VariantElement → Prop
  | type {t t' : TypeExpr} : TypeExpr.Parallel t t' → VariantElement.Parallel (.type t) (.type t')
  | constructor (name : String) (constant : Bool) {args args' : List TypeExpr} :
      List.Forall₂ TypeExpr.Parallel args args' →
      VariantElement.Parallel (.constructor name constant args) (.constructor name constant args')

inductive ObjectField.Parallel : ObjectField → ObjectField → Prop
  | method (name : String) {t t' : TypeExpr} :
      TypeExpr.Parallel t t' → ObjectField.Parallel (.method name t) (.method name t')
  | inherit {t t' : TypeExpr} :
      TypeExpr.Parallel t t' → ObjectField.Parallel (.inherit t) (.inherit t')

inductive PackageConstraint.Parallel : PackageConstraint → PackageConstraint → Prop
  | mk (fragment : Fragment) {t t' : TypeExpr} :
      TypeExpr.Parallel t t' → PackageConstraint.Parallel ⟨fragment, t⟩ ⟨fragment, t'⟩

end

structure TypeEquation.Parallel (eq eq' : TypeEquation) : Prop where
  params : eq'.params = eq.params
  isPrivate : eq'.isPrivate = eq.isPrivate
  manifest : Option.Rel (TypeExpr.Parallel R) eq.manifest eq'.manifest
  constraints : List.Forall₂ (fun c c' => c.1.Parallel R c'.1 ∧ c.2.Parallel R c'.2)
    eq.constraints eq'.constraints

structure Field.Parallel (f f' : Field) : Prop where
  id : R.ident f.id f'.id
  doc : f'.doc = f.doc
  isMutable : f'.isMutable = f.isMutable
  type : f.type.Parallel R f'.type

inductive ConstructorArgs.Parallel : ConstructorArgs → ConstructorArgs → Prop
  | tuple {ts ts' : List TypeExpr} :
      List.Forall₂ (TypeExpr.Parallel R) ts ts' → ConstructorArgs.Parallel (.tuple ts) (.tuple ts')
  | record {fs fs' : List Field} :
      List.Forall₂ (Field.Parallel R) fs fs' → ConstructorArgs.Parallel (.record fs) (.record fs')

structure Constructor.Parallel (c c' : Constructor) : Prop where
  id : R.ident c.id c'.id
  doc : c'.doc = c.doc
  args : c.args.Parallel R c'.args
  res : Option.Rel (TypeExpr.Parallel R) c.res c'.res

inductive TypeRepr.Parallel : TypeRepr → TypeRepr → Prop
  | variant {cs cs' : List Constructor} :
      List.Forall₂ (Constructor.Parallel R) cs cs' → TypeRepr.Parallel (.variant cs) (.variant cs')
  | record {fs fs' : List Field} :
      List.Forall₂ (Field.Parallel R) fs fs' → TypeRepr.Parallel (.record fs) (.record fs')
  | extensible : TypeRepr.Parallel .extensible .extensible

structure TypeDecl.Parallel (t t' : TypeDecl) : Prop where
  id : R.ident t.id t'.id
  doc : t'.doc = t.doc
  equation : t.equation.Parallel R t'.equation
  representation : Option.Rel (TypeRepr.Parallel R) t.representation t'.representation

structure Value.Parallel (v v' : Value) : Prop where
  id : R.ident v.id v'.id
  doc : v'.doc = v.doc
  type : v.type.Parallel R v'.type

structure External.Parallel (x x' : External) : Prop where
  id : R.ident x.id x'.id
  doc : x'.doc = x.doc
  type : x.type.Parallel R x'.type
  primitives : x'.primitives = x.primitives

structure Extension.Parallel (x x' : Extension) : Prop where
  typePath : x.typePath.Parallel R x'.typePath
  doc : x'.doc = x.doc
  typeParams : x'.typeParams = x.typeParams
  isPrivate : x'.isPrivate = x.isPrivate
  constructors : List.Forall₂ (Constructor.Parallel R) x.constructors x'.constructors

structure Method.Parallel (m m' : Method) : Prop where
  id : R.ident m.id m'.id
  doc : m'.doc = m.doc
  isPrivate : m'.isPrivate = m.isPrivate
  isVirtual : m'.isVirtual = m.isVirtual
  type : m.type.Parallel R m'.type

structure InstanceVariable.Parallel (v v' : InstanceVariable) : Prop where
  id : R.ident v.id v'.id
  doc : v'.doc = v.doc
  isMutable : v'.isMutable = v.isMutable
  isVirtual : v'.isVirtual = v.isVirtual
  type : v.type.Parallel R v'.type

mutual

inductive ClassTypeExpr.Parallel : ClassTypeExpr → ClassTypeExpr → Prop
  | constr {path path' : Path} {args args' : List TypeExpr} :
      Path.Parallel R path path' → List.Forall₂ (TypeExpr.Parallel R) args args' →
      ClassTypeExpr.Parallel (.constr path args) (.constr path' args')
  | signature {sig sig' : ClassSignature} :
      ClassSignature.Parallel sig sig' → ClassTypeExpr.Parallel (.signature sig) (.signature sig')

inductive ClassSignature.Parallel : ClassSignature → ClassSignature → Prop
  | mk {self self' : Option TypeExpr} {items items' : List ClassItem} :
      Option.Rel (TypeExpr.Parallel R) self self' → List.Forall₂ ClassItem.Parallel items items' →
      ClassSignature.Parallel ⟨self, items⟩ ⟨self', items'⟩

inductive ClassItem.Parallel : ClassItem → ClassItem → Prop
  | method {m m' : Method} : Method.Parallel R m m' → ClassItem.Parallel (.method m) (.method m')
  | instanceVariable {v v' : InstanceVariable} :
      InstanceVariable.Parallel R v v' →
      ClassItem.Parallel (.instanceVariable v) (.instanceVariable v')
  | constraint {lhs lhs' rhs rhs' : TypeExpr} :
      TypeExpr.Parallel R lhs lhs' → TypeExpr.Parallel R rhs rhs' →
      ClassItem.Parallel (.constraint lhs rhs) (.constraint lhs' rhs')
  | inherit {expr expr' : ClassTypeExpr} :
      ClassTypeExpr.Parallel expr expr' → ClassItem.Parallel (.inherit expr) (.inherit expr')
  | comment (text : String) : ClassItem.Parallel (.comment text) (.comment text)

end

inductive ClassDecl.Parallel : ClassDecl → ClassDecl → Prop
  | classType {expr expr' : ClassTypeExpr} :
      ClassTypeExpr.Parallel R expr expr' → ClassDecl.Parallel (.classType expr) (.classType expr')
  | arrow (label : Option Label) {arg arg' : TypeExpr} {body body' : ClassDecl} :
      TypeExpr.Parallel R arg arg' → ClassDecl.Parallel body body' →
      ClassDecl.Parallel (.arrow label arg body) (.arrow label arg' body')

structure Class.Parallel (c c' : Class) : Prop where
  id : R.ident c.id c'.id
  doc : c'.doc = c.doc
  isVirtual : c'.isVirtual = c.isVirtual
  params : c'.params = c.params
  decl : c.decl.Parallel R c'.decl
  expansion : Option.Rel (ClassSignature.Parallel R) c.expansion c'.expansion

structure ClassType.Parallel (c c' : ClassType) : Prop where
  id : R.ident c.id c'.id
  doc : c'.doc = c.doc
  isVirtual : c'.isVirtual = c.isVirtual
  params : c'.params = c.params
  expr : c.expr.Parallel R c'.expr
  expansion : Option.Rel (ClassSignature.Parallel R) c.expansion c'.expansion

structure ModuleSubstitution.Parallel (m m' : ModuleSubstitution) : Prop where
  id : R.ident m.id m'.id
  doc : m'.doc = m.doc
  manifest : m.manifest.Parallel R m'.manifest

inductive TypeOfOrigin.Parallel : TypeOfOrigin → TypeOfOrigin → Prop
  | moduleType {p p' : Path} :
      Path.Parallel R p p' → TypeOfOrigin.Parallel (.moduleType p) (.moduleType p')
  | structInclude {p p' : Path} :
      Path.Parallel R p p' → TypeOfOrigin.Parallel (.structInclude p) (.structInclude p')

mutual

inductive Signature.Parallel : Signature → Signature → Prop
  | mk {items items' : List Item} (compiled : Bool) (doc : Docs) :
      List.Forall₂ Item.Parallel items items' →
      Signature.Parallel ⟨items, compiled, doc⟩ ⟨items', compiled, doc⟩

inductive Item.Parallel : Item → Item → Prop
  | module {m m' : Module} : Module.Parallel m m' → Item.Parallel (.module m) (.module m')
  | moduleSubstitution {m m' : ModuleSubstitution} :
      ModuleSubstitution.Parallel R m m' →
      Item.Parallel (.moduleSubstitution m) (.moduleSubstitution m')
  | moduleType {m m' : ModuleType} :
      ModuleType.Parallel m m' → Item.Parallel (.moduleType m) (.moduleType m')
  | type {t t' : TypeDecl} : TypeDecl.Parallel R t t' → Item.Parallel (.type t) (.type t')
  | typeSubstitution {t t' : TypeDecl} :
      TypeDecl.Parallel R t t' → Item.Parallel (.typeSubstitution t) (.typeSubstitution t')
  | value {v v' : Value} : Value.Parallel R v v' → Item.Parallel (.value v) (.value v')
  | external {x x' : External} :
      External.Parallel R x x' → Item.Parallel (.external x) (.external x')
  | classDecl {c c' : Class} : Class.Parallel R c c' → Item.Parallel (.classDecl c) (.classDecl c')
  | classType {c c' : ClassType} :
      ClassType.Parallel R c c' → Item.Parallel (.classType c) (.classType c')
  | extension {x x' : Extension} :
      Extension.Parallel R x x' → Item.Parallel (.extension x) (.extension x')
  | exception {c c' : Constructor} :
      Constructor.Parallel R c c' → Item.Parallel (.exception c) (.exception c')
  | included {i i' : Include} : Include.Parallel i i' → Item.Parallel (.included i) (.included i')
  | opened (doc : Docs) {sig sig' : Signature} :
      Signature.Parallel sig sig' → Item.Parallel (.opened doc sig) (.opened doc sig')
  | comment (text : String) : Item.Parallel (.comment text) (.comment text)

inductive Module.Parallel : Module → Module → Prop
  | mk {id id' : Identifier} (doc : Docs) {decl decl' : ModuleDecl} (hidden : Bool) :
      R.ident id id' → ModuleDecl.Parallel decl decl' →
      Module.Parallel ⟨id, doc, decl, hidden⟩ ⟨id', doc, decl', hidden⟩

inductive ModuleDecl.Parallel : ModuleDecl → ModuleDecl → Prop
  | aliasOf {path path' : Path} {stored stored' : Option StoredExpansion} :
      Path.Parallel R path path' → Option.Rel StoredExpansion.Parallel stored stored' →
      ModuleDecl.Parallel (.aliasOf path stored) (.aliasOf path' stored')
  | typed {expr expr' : ModuleTypeExpr} :
      ModuleTypeExpr.Parallel expr expr' → ModuleDecl.Parallel (.typed expr) (.typed expr')

inductive ModuleType.Parallel : ModuleType → ModuleType → Prop
  | mk {id id' : Identifier} (doc : Docs) {expr expr' : Option ModuleTypeExpr} :
      R.ident id id' → Option.Rel ModuleTypeExpr.Parallel expr expr' →
      ModuleType.Parallel ⟨id, doc, expr⟩ ⟨id', doc, expr'⟩

inductive StoredExpansion.Parallel : StoredExpansion → StoredExpansion → Prop
  | signature {sig sig' : Signature} :
      Signature.Parallel sig sig' → StoredExpansion.Parallel (.signature sig) (.signature sig')
  | functor {param param' : FunctorParameter} {body body' : StoredExpansion} :
      FunctorParameter.Parallel param param' → StoredExpansion.Parallel body body' →
      StoredExpansion.Parallel (.functor param body) (.functor param' body')

inductive FunctorParameter.Parallel : FunctorParameter → FunctorParameter → Prop
  | unit : FunctorParameter.Parallel .unit .unit
  | named {id id' : Identifier} {expr expr' : ModuleTypeExpr} :
      R.ident id id' → ModuleTypeExpr.Parallel expr expr' →
      FunctorParameter.Parallel (.named id expr) (.named id' expr')

inductive ModuleTypeExpr.Parallel : ModuleTypeExpr → ModuleTypeExpr → Prop
  | path {path path' : Path} {stored stored' : Option StoredExpansion} :
      Path.Parallel R path path' → Option.Rel StoredExpansion.Parallel stored stored' →
      ModuleTypeExpr.Parallel (.path path stored) (.path path' stored')
  | signature {sig sig' : Signature} :
      Signature.Parallel sig sig' → ModuleTypeExpr.Parallel (.signature sig) (.signature sig')
  | functor {param param' : FunctorParameter} {body body' : ModuleTypeExpr} :
      FunctorParameter.Parallel param param' → ModuleTypeExpr.Parallel body body' →
      ModuleTypeExpr.Parallel (.functor param body) (.functor param' body')
  | constrained {cs cs' : List Constraint} {base base' : SignatureExpr}
      {stored stored' : Option StoredExpansion} :
      List.Forall₂ Constraint.Parallel cs cs' → SignatureExpr.Parallel base base' →
      Option.Rel StoredExpansion.Parallel stored stored' →
      ModuleTypeExpr.Parallel (.constrained cs base stored) (.constrained cs' base' stored')
  | typeOf {origin origin' : TypeOfOrigin} {stored stored' : Option StoredExpansion} :
      TypeOfOrigin.Parallel R origin origin' → Option.Rel StoredExpansion.Parallel stored stored' →
      ModuleTypeExpr.Parallel (.typeOf origin stored) (.typeOf origin' stored')

inductive SignatureExpr.Parallel : SignatureExpr → SignatureExpr → Prop
  | path {path path' : Path} :
      Path.Parallel R path path' → SignatureExpr.Parallel (.path path) (.path path')
  | signature {sig sig' : Signature} :
      Signature.Parallel sig sig' → SignatureExpr.Parallel (.signature sig) (.signature sig')
  | constrained {cs cs' : List Constraint} {base base' : SignatureExpr} :
      List.Forall₂ Constraint.Parallel cs cs' → SignatureExpr.Parallel base base' →
      SignatureExpr.Parallel (.constrained cs base) (.constrained cs' base')
  | typeOf {origin origin' : TypeOfOrigin} :
      TypeOfOrigin.Parallel R origin origin' →
      SignatureExpr.Parallel (.typeOf origin) (.typeOf origin')

inductive Constraint.Parallel : Constraint → Constraint → Prop
  | moduleEq (fragment : Fragment) {decl decl' : ModuleDecl} :
      ModuleDecl.Parallel decl decl' →
      Constraint.Parallel (.moduleEq fragment decl) (.moduleEq fragment decl')
  | moduleSubst (fragment : Fragment) {path path' : Path} :
      Path.Parallel R path path' →
      Constraint.Parallel (.moduleSubst fragment path) (.moduleSubst fragment path')
  | typeEq (fragment : Fragment) {eq eq' : TypeEquation} :
      TypeEquation.Parallel R eq eq' →
      Constraint.Parallel (.typeEq fragment eq) (.typeEq fragment eq')
  | typeSubst (fragment : Fragment) {eq eq' : TypeEquation} :
      TypeEquation.Parallel R eq eq' →
      Constraint.Parallel (.typeSubst fragment eq) (.typeSubst fragment eq')

inductive Include.Parallel : Include → Include → Prop
  | mk {parent parent' : Identifier} (doc : Docs) {decl decl' : IncludeDecl}
      {strengthened strengthened' : Option Path} (shadowed : Shadowed)
      {content content' : Signature} :
      R.ident parent parent' → IncludeDecl.Parallel decl decl' →
      Option.Rel (Path.Parallel R) strengthened strengthened' →
      Signature.Parallel content content' →
      Include.Parallel ⟨parent, doc, decl, strengthened, shadowed, content⟩
        ⟨parent', doc, decl', strengthened', shadowed, content'⟩

inductive IncludeDecl.Parallel : IncludeDecl → IncludeDecl → Prop
  | aliasOf {path path' : Path} :
      Path.Parallel R path path' → IncludeDecl.Parallel (.aliasOf path) (.aliasOf path')
  | typed {expr expr' : SignatureExpr} :
      SignatureExpr.Parallel expr expr' → IncludeDecl.Parallel (.typed expr) (.typed expr')

end

end Relation

theorem Path.parallel_mapResolved {R : LeafRel} {f : ResolvedPath → ResolvedPath}
    (hf : ∀ p, R.resolved p (f p)) (path : Path) : path.Parallel R (path.mapResolved f) := by
  induction path with
  | resolved p => exact .resolved (hf p)
  | root name => exact .root name
  | dot parent name ih => exact .dot name ih
  | apply functor argument ihf iha => exact .apply ihf iha

/-- The map takes every leaf to a related one and leaves the rest of a type expression alone. -/
structure LeafMap.Follows (r : LeafMap) (R : LeafRel) : Prop where
  ident : ∀ id, R.ident id (r.ident id)
  path : ∀ p : Path, p.Parallel R (r.path p)
  var : ∀ name, r.var name = .var name
  constr : ∀ p args, r.constr p args = .constr (r.path p) args

theorem optionRel_map_self {α β : Type} {S : α → β → Prop} {f : α → β} (h : ∀ a, S a (f a))
    (o : Option α) : Option.Rel S o (o.map f) := by
  cases o with
  | none => exact .none
  | some a => exact .some (h a)

theorem forall₂_map_self {α β : Type} {S : α → β → Prop} {f : α → β} (h : ∀ a, S a (f a))
    (l : List α) : List.Forall₂ S l (l.map f) :=
  List.forall₂_map_right_iff.mpr (List.forall₂_same.mpr fun a _ => h a)

namespace LeafMap.Follows

variable {r : LeafMap} {R : LeafRel}

mutual

theorem typeExpr (h : r.Follows R) : ∀ t : TypeExpr, t.Parallel R (t.mapLeaves r)
  | .var name => by
    rw [TypeExpr.mapLeaves, h.var]
    exact .var name
  | .any => by
    rw [TypeExpr.mapLeaves]
    exact .any
  | .arrow label arg ret => by
    rw [TypeExpr.mapLeaves]
    exact .arrow label (h.typeExpr arg) (h.typeExpr ret)
  | .tuple ts => by
    rw [TypeExpr.mapLeaves]
    exact .tuple (h.types ts)
  | .constr path args => by
    rw [TypeExpr.mapLeaves, h.constr]
    exact .constr (h.path path) (h.types args)
  | .variant kind es => by
    rw [TypeExpr.mapLeaves]
    exact .variant kind (h.elements es)
  | .object fs isOpen => by
    rw [TypeExpr.mapLeaves]
    exact .object isOpen (h.fields fs)
  | .classRef path args => by
    rw [TypeExpr.mapLeaves]
    exact .classRef (h.path path) (h.types args)
  | .poly vars body => by
    rw [TypeExpr.mapLeaves]
    exact .poly vars (h.typeExpr body)
  | .package path cs => by
    rw [TypeExpr.mapLeaves]
    exact .package (h.path path) (h.package cs)

theorem types (h : r.Follows R) :
    ∀ ts : List TypeExpr, List.Forall₂ (TypeExpr.Parallel R) ts (mapTypes r ts)
  | [] => .nil
  | t :: ts => .cons (h.typeExpr t) (h.types ts)

theorem elements (h : r.Follows R) : ∀ es : List VariantElement,
    List.Forall₂ (VariantElement.Parallel R) es (mapElements r es)
  | [] => .nil
  | .type t :: es => .cons (.type (h.typeExpr t)) (h.elements es)
  | .constructor name constant args :: es =>
    .cons (.constructor name constant (h.types args)) (h.elements es)

theorem fields (h : r.Follows R) :
    ∀ fs : List ObjectField, List.Forall₂ (ObjectField.Parallel R) fs (mapFields r fs)
  | [] => .nil
  | .method name t :: fs => .cons (.method name (h.typeExpr t)) (h.fields fs)
  | .inherit t :: fs => .cons (.inherit (h.typeExpr t)) (h.fields fs)

theorem package (h : r.Follows R) : ∀ cs : List PackageConstraint,
    List.Forall₂ (PackageConstraint.Parallel R) cs (mapConstraints r cs)
  | [] => .nil
  | ⟨fragment, t⟩ :: cs => .cons (.mk fragment (h.typeExpr t)) (h.package cs)

end

theorem optionalType (h : r.Follows R) (t : Option TypeExpr) :
    Option.Rel (TypeExpr.Parallel R) t (t.map (·.mapLeaves r)) :=
  optionRel_map_self h.typeExpr t

theorem typeEquation (h : r.Follows R) (eq : TypeEquation) : eq.Parallel R (eq.mapLeaves r) where
  params := rfl
  isPrivate := rfl
  manifest := h.optionalType eq.manifest
  constraints := forall₂_map_self (fun c => ⟨h.typeExpr c.1, h.typeExpr c.2⟩) eq.constraints

theorem field (h : r.Follows R) (f : Field) : f.Parallel R (f.mapLeaves r) :=
  ⟨h.ident f.id, rfl, rfl, h.typeExpr f.type⟩

theorem constructorArgs (h : r.Follows R) (args : ConstructorArgs) :
    args.Parallel R (args.mapLeaves r) := by
  cases args with
  | tuple ts => exact .tuple (forall₂_map_self h.typeExpr ts)
  | record fs => exact .record (forall₂_map_self h.field fs)

theorem constructor (h : r.Follows R) (c : Constructor) : c.Parallel R (c.mapLeaves r) where
  id := h.ident c.id
  doc := rfl
  args := h.constructorArgs c.args
  res := h.optionalType c.res

theorem typeRepr (h : r.Follows R) (repr : TypeRepr) : repr.Parallel R (repr.mapLeaves r) := by
  cases repr with
  | variant cs => exact .variant (forall₂_map_self h.constructor cs)
  | record fs => exact .record (forall₂_map_self h.field fs)
  | extensible => exact .extensible

theorem typeDecl (h : r.Follows R) (t : TypeDecl) : t.Parallel R (t.mapLeaves r) where
  id := h.ident t.id
  doc := rfl
  equation := h.typeEquation t.equation
  representation := optionRel_map_self h.typeRepr t.representation

theorem value (h : r.Follows R) (v : Value) :
    v.Parallel R (v.mapLeaves r) := ⟨h.ident v.id, rfl, h.typeExpr v.type⟩

theorem external (h : r.Follows R) (x : External) : x.Parallel R (x.mapLeaves r) :=
  ⟨h.ident x.id, rfl, h.typeExpr x.type, rfl⟩

theorem extension (h : r.Follows R) (x : Extension) : x.Parallel R (x.mapLeaves r) where
  typePath := h.path x.typePath
  doc := rfl
  typeParams := rfl
  isPrivate := rfl
  constructors := forall₂_map_self h.constructor x.constructors

mutual

theorem classTypeExpr (h : r.Follows R) : ∀ expr : ClassTypeExpr, expr.Parallel R (expr.mapLeaves r)
  | .constr path args => by
    rw [ClassTypeExpr.mapLeaves]
    exact .constr (h.path path) (forall₂_map_self h.typeExpr args)
  | .signature sig => by
    rw [ClassTypeExpr.mapLeaves]
    exact .signature (h.classSignature sig)

theorem classSignature (h : r.Follows R) : ∀ sig : ClassSignature, sig.Parallel R (sig.mapLeaves r)
  | ⟨self, items⟩ => by
    rw [ClassSignature.mapLeaves]
    exact .mk (h.optionalType self) (h.classItems items)

theorem classItems (h : r.Follows R) : ∀ items : List ClassItem,
    List.Forall₂ (ClassItem.Parallel R) items (mapClassItems r items)
  | [] => by
    rw [mapClassItems]
    exact .nil
  | item :: items => by
    rw [mapClassItems]
    exact .cons (h.classItem item) (h.classItems items)

theorem classItem (h : r.Follows R) : ∀ item : ClassItem, item.Parallel R (item.mapLeaves r)
  | .method m => by
    rw [ClassItem.mapLeaves]
    exact .method ⟨h.ident m.id, rfl, rfl, rfl, h.typeExpr m.type⟩
  | .instanceVariable v => by
    rw [ClassItem.mapLeaves]
    exact .instanceVariable ⟨h.ident v.id, rfl, rfl, rfl, h.typeExpr v.type⟩
  | .constraint lhs rhs => by
    rw [ClassItem.mapLeaves]
    exact .constraint (h.typeExpr lhs) (h.typeExpr rhs)
  | .inherit expr => by
    rw [ClassItem.mapLeaves]
    exact .inherit (h.classTypeExpr expr)
  | .comment text => by
    rw [ClassItem.mapLeaves]
    exact .comment text

end

theorem classDecl (h : r.Follows R) (decl : ClassDecl) : decl.Parallel R (decl.mapLeaves r) := by
  induction decl with
  | classType expr => exact .classType (h.classTypeExpr expr)
  | arrow label arg decl ih => exact .arrow label (h.typeExpr arg) ih

theorem classExpansion (h : r.Follows R) (expansion : Option ClassSignature) :
    Option.Rel (ClassSignature.Parallel R) expansion (expansion.map (·.mapLeaves r)) :=
  optionRel_map_self h.classSignature expansion

theorem typeOfOrigin (h : r.Follows R) (origin : TypeOfOrigin) :
    origin.Parallel R (origin.mapPath r.path) := by
  cases origin with
  | moduleType path => exact .moduleType (h.path path)
  | structInclude path => exact .structInclude (h.path path)

mutual

theorem signature (h : r.Follows R) : ∀ sig : Signature, sig.Parallel R (sig.mapLeaves r)
  | ⟨is, compiled, doc⟩ => by
    rw [Signature.mapLeaves]
    exact .mk compiled doc (h.items is)

theorem items (h : r.Follows R) :
    ∀ is : List Item, List.Forall₂ (Item.Parallel R) is (mapItems r is)
  | [] => by
    rw [mapItems]
    exact .nil
  | i :: is => by
    rw [mapItems]
    exact .cons (h.item i) (h.items is)

theorem item (h : r.Follows R) : ∀ i : Item, i.Parallel R (i.mapLeaves r)
  | .module m => by
    rw [Item.mapLeaves]
    exact .module (h.module m)
  | .moduleSubstitution m => by
    rw [Item.mapLeaves]
    exact .moduleSubstitution ⟨h.ident m.id, rfl, h.path m.manifest⟩
  | .moduleType m => by
    rw [Item.mapLeaves]
    exact .moduleType (h.moduleType m)
  | .type t => by
    rw [Item.mapLeaves]
    exact .type (h.typeDecl t)
  | .typeSubstitution t => by
    rw [Item.mapLeaves]
    exact .typeSubstitution (h.typeDecl t)
  | .value v => by
    rw [Item.mapLeaves]
    exact .value (h.value v)
  | .external x => by
    rw [Item.mapLeaves]
    exact .external (h.external x)
  | .classDecl c => by
    rw [Item.mapLeaves]
    exact .classDecl ⟨h.ident c.id, rfl, rfl, rfl, h.classDecl c.decl, h.classExpansion c.expansion⟩
  | .classType c => by
    rw [Item.mapLeaves]
    exact .classType
      ⟨h.ident c.id, rfl, rfl, rfl, h.classTypeExpr c.expr, h.classExpansion c.expansion⟩
  | .extension x => by
    rw [Item.mapLeaves]
    exact .extension (h.extension x)
  | .exception c => by
    rw [Item.mapLeaves]
    exact .exception (h.constructor c)
  | .included i => by
    rw [Item.mapLeaves]
    exact .included (h.included i)
  | .opened doc content => by
    rw [Item.mapLeaves]
    exact .opened doc (h.signature content)
  | .comment text => by
    rw [Item.mapLeaves]
    exact .comment text

theorem module (h : r.Follows R) : ∀ m : Module, m.Parallel R (m.mapLeaves r)
  | ⟨id, doc, decl, hidden⟩ => by
    rw [Module.mapLeaves]
    exact .mk doc hidden (h.ident id) (h.moduleDecl decl)

theorem moduleDecl (h : r.Follows R) : ∀ decl : ModuleDecl, decl.Parallel R (decl.mapLeaves r)
  | .aliasOf path stored => by
    rw [ModuleDecl.mapLeaves]
    exact .aliasOf (h.path path) (h.expansion stored)
  | .typed expr => by
    rw [ModuleDecl.mapLeaves]
    exact .typed (h.moduleTypeExpr expr)

theorem moduleType (h : r.Follows R) : ∀ m : ModuleType, m.Parallel R (m.mapLeaves r)
  | ⟨id, doc, none⟩ => by
    rw [ModuleType.mapLeaves]
    exact .mk doc (h.ident id) .none
  | ⟨id, doc, some expr⟩ => by
    rw [ModuleType.mapLeaves]
    exact .mk doc (h.ident id) (.some (h.moduleTypeExpr expr))

theorem expansion (h : r.Follows R) : ∀ stored : Option StoredExpansion,
    Option.Rel (StoredExpansion.Parallel R) stored (mapExpansion r stored)
  | none => by
    rw [mapExpansion]
    exact .none
  | some stored => by
    rw [mapExpansion]
    exact .some (h.storedExpansion stored)

theorem storedExpansion (h : r.Follows R) :
    ∀ stored : StoredExpansion, stored.Parallel R (stored.mapLeaves r)
  | .signature sig => by
    rw [StoredExpansion.mapLeaves]
    exact .signature (h.signature sig)
  | .functor param body => by
    rw [StoredExpansion.mapLeaves]
    exact .functor (h.functorParameter param) (h.storedExpansion body)

theorem functorParameter (h : r.Follows R) :
    ∀ param : FunctorParameter, param.Parallel R (param.mapLeaves r)
  | .unit => by
    rw [FunctorParameter.mapLeaves]
    exact .unit
  | .named id expr => by
    rw [FunctorParameter.mapLeaves]
    exact .named (h.ident id) (h.moduleTypeExpr expr)

theorem moduleTypeExpr (h : r.Follows R) :
    ∀ expr : ModuleTypeExpr, expr.Parallel R (expr.mapLeaves r)
  | .path path stored => by
    rw [ModuleTypeExpr.mapLeaves]
    exact .path (h.path path) (h.expansion stored)
  | .signature sig => by
    rw [ModuleTypeExpr.mapLeaves]
    exact .signature (h.signature sig)
  | .functor param body => by
    rw [ModuleTypeExpr.mapLeaves]
    exact .functor (h.functorParameter param) (h.moduleTypeExpr body)
  | .constrained cs base stored => by
    rw [ModuleTypeExpr.mapLeaves]
    exact .constrained (h.constraints cs) (h.signatureExpr base) (h.expansion stored)
  | .typeOf origin stored => by
    rw [ModuleTypeExpr.mapLeaves]
    exact .typeOf (h.typeOfOrigin origin) (h.expansion stored)

theorem signatureExpr (h : r.Follows R) : ∀ expr : SignatureExpr, expr.Parallel R (expr.mapLeaves r)
  | .path path => by
    rw [SignatureExpr.mapLeaves]
    exact .path (h.path path)
  | .signature sig => by
    rw [SignatureExpr.mapLeaves]
    exact .signature (h.signature sig)
  | .constrained cs base => by
    rw [SignatureExpr.mapLeaves]
    exact .constrained (h.constraints cs) (h.signatureExpr base)
  | .typeOf origin => by
    rw [SignatureExpr.mapLeaves]
    exact .typeOf (h.typeOfOrigin origin)

theorem constraints (h : r.Follows R) : ∀ cs : List Constraint,
    List.Forall₂ (Constraint.Parallel R) cs (mapWith r cs)
  | [] => by
    rw [mapWith]
    exact .nil
  | c :: cs => by
    rw [mapWith]
    exact .cons (h.constraint c) (h.constraints cs)

theorem constraint (h : r.Follows R) : ∀ c : Constraint, c.Parallel R (c.mapLeaves r)
  | .moduleEq fragment decl => by
    rw [Constraint.mapLeaves]
    exact .moduleEq fragment (h.moduleDecl decl)
  | .moduleSubst fragment path => by
    rw [Constraint.mapLeaves]
    exact .moduleSubst fragment (h.path path)
  | .typeEq fragment eq => by
    rw [Constraint.mapLeaves]
    exact .typeEq fragment (h.typeEquation eq)
  | .typeSubst fragment eq => by
    rw [Constraint.mapLeaves]
    exact .typeSubst fragment (h.typeEquation eq)

theorem included (h : r.Follows R) : ∀ i : Include, i.Parallel R (i.mapLeaves r)
  | ⟨parent, doc, decl, strengthened, shadowed, content⟩ => by
    rw [Include.mapLeaves]
    exact .mk doc shadowed (h.ident parent) (h.includeDecl decl)
      (optionRel_map_self h.path strengthened) (h.signature content)

theorem includeDecl (h : r.Follows R) : ∀ decl : IncludeDecl, decl.Parallel R (decl.mapLeaves r)
  | .aliasOf path => by
    rw [IncludeDecl.mapLeaves]
    exact .aliasOf (h.path path)
  | .typed expr => by
    rw [IncludeDecl.mapLeaves]
    exact .typed (h.signatureExpr expr)

end

end LeafMap.Follows

structure LeafMap.Still (r : LeafMap) : Prop where
  ident : ∀ id, r.ident id = id
  path : ∀ p, r.path p = p
  var : ∀ name, r.var name = .var name
  constr : ∀ p args, r.constr p args = .constr p args

theorem map_eq_self {α : Type} {f : α → α} (h : ∀ a, f a = a) (l : List α) : l.map f = l := by
  rw [funext h, List.map_id']

theorem optionMap_eq_self {α : Type} {f : α → α} (h : ∀ a, f a = a) (o : Option α) :
    o.map f = o := by
  rw [funext h, Option.map_id']

namespace LeafMap.Still

variable {r : LeafMap}

mutual

theorem typeExpr (h : r.Still) : ∀ t : TypeExpr, t.mapLeaves r = t
  | .var name => by rw [TypeExpr.mapLeaves, h.var]
  | .any => by rw [TypeExpr.mapLeaves]
  | .arrow _ arg ret => by rw [TypeExpr.mapLeaves, h.typeExpr arg, h.typeExpr ret]
  | .tuple ts => by rw [TypeExpr.mapLeaves, h.types ts]
  | .constr _ args => by rw [TypeExpr.mapLeaves, h.constr, h.types args]
  | .variant _ es => by rw [TypeExpr.mapLeaves, h.elements es]
  | .object fs _ => by rw [TypeExpr.mapLeaves, h.fields fs]
  | .classRef _ args => by rw [TypeExpr.mapLeaves, h.path, h.types args]
  | .poly _ body => by rw [TypeExpr.mapLeaves, h.typeExpr body]
  | .package _ cs => by rw [TypeExpr.mapLeaves, h.path, h.package cs]

theorem types (h : r.Still) : ∀ ts : List TypeExpr, mapTypes r ts = ts
  | [] => by rw [mapTypes]
  | t :: ts => by rw [mapTypes, h.typeExpr t, h.types ts]

theorem elements (h : r.Still) : ∀ es : List VariantElement, mapElements r es = es
  | [] => by rw [mapElements]
  | .type t :: es => by rw [mapElements, h.typeExpr t, h.elements es]
  | .constructor _ _ args :: es => by rw [mapElements, h.types args, h.elements es]

theorem fields (h : r.Still) : ∀ fs : List ObjectField, mapFields r fs = fs
  | [] => by rw [mapFields]
  | .method _ t :: fs => by rw [mapFields, h.typeExpr t, h.fields fs]
  | .inherit t :: fs => by rw [mapFields, h.typeExpr t, h.fields fs]

theorem package (h : r.Still) : ∀ cs : List PackageConstraint, mapConstraints r cs = cs
  | [] => by rw [mapConstraints]
  | ⟨_, t⟩ :: cs => by rw [mapConstraints, h.typeExpr t, h.package cs]

end

theorem optionalType (h : r.Still) (t : Option TypeExpr) : t.map (·.mapLeaves r) = t :=
  optionMap_eq_self h.typeExpr t

theorem typeEquation (h : r.Still) (eq : TypeEquation) : eq.mapLeaves r = eq := by
  have hpair (c : TypeExpr × TypeExpr) : (c.1.mapLeaves r, c.2.mapLeaves r) = c := by
    rw [h.typeExpr, h.typeExpr]
  rw [TypeEquation.mapLeaves, h.optionalType]
  exact congrArg (TypeEquation.mk _ _ _) (map_eq_self hpair eq.constraints)

theorem field (h : r.Still) (f : Field) : f.mapLeaves r = f := by
  rw [Field.mapLeaves, h.ident, h.typeExpr]

theorem constructorArgs (h : r.Still) (args : ConstructorArgs) : args.mapLeaves r = args := by
  cases args with
  | tuple ts => exact congrArg _ (map_eq_self h.typeExpr ts)
  | record fs => exact congrArg _ (map_eq_self h.field fs)

theorem constructor (h : r.Still) (c : Constructor) : c.mapLeaves r = c := by
  rw [Constructor.mapLeaves, h.ident, h.constructorArgs, h.optionalType]

theorem typeRepr (h : r.Still) (repr : TypeRepr) : repr.mapLeaves r = repr := by
  cases repr with
  | variant cs => exact congrArg _ (map_eq_self h.constructor cs)
  | record fs => exact congrArg _ (map_eq_self h.field fs)
  | extensible => rfl

theorem typeDecl (h : r.Still) (t : TypeDecl) : t.mapLeaves r = t := by
  rw [TypeDecl.mapLeaves, h.ident, h.typeEquation, optionMap_eq_self h.typeRepr]

theorem extension (h : r.Still) (x : Extension) : x.mapLeaves r = x := by
  rw [Extension.mapLeaves, h.path, map_eq_self h.constructor]

mutual

theorem classTypeExpr (h : r.Still) : ∀ expr : ClassTypeExpr, expr.mapLeaves r = expr
  | .constr _ args => by rw [ClassTypeExpr.mapLeaves, h.path, map_eq_self h.typeExpr]
  | .signature sig => by rw [ClassTypeExpr.mapLeaves, h.classSignature sig]

theorem classSignature (h : r.Still) : ∀ sig : ClassSignature, sig.mapLeaves r = sig
  | ⟨_, items⟩ => by rw [ClassSignature.mapLeaves, h.optionalType, h.classItems items]

theorem classItems (h : r.Still) : ∀ items : List ClassItem, mapClassItems r items = items
  | [] => by rw [mapClassItems]
  | item :: items => by rw [mapClassItems, h.classItem item, h.classItems items]

theorem classItem (h : r.Still) : ∀ item : ClassItem, item.mapLeaves r = item
  | .method m => by rw [ClassItem.mapLeaves, h.ident, h.typeExpr]
  | .instanceVariable v => by rw [ClassItem.mapLeaves, h.ident, h.typeExpr]
  | .constraint lhs rhs => by rw [ClassItem.mapLeaves, h.typeExpr, h.typeExpr]
  | .inherit expr => by rw [ClassItem.mapLeaves, h.classTypeExpr expr]
  | .comment _ => by rw [ClassItem.mapLeaves]

end

theorem classDecl (h : r.Still) (decl : ClassDecl) : decl.mapLeaves r = decl := by
  induction decl with
  | classType expr => rw [ClassDecl.mapLeaves, h.classTypeExpr]
  | arrow label arg decl ih => rw [ClassDecl.mapLeaves, h.typeExpr, ih]

theorem classExpansion (h : r.Still) (expansion : Option ClassSignature) :
    expansion.map (·.mapLeaves r) = expansion := optionMap_eq_self h.classSignature expansion

theorem typeOfOrigin (h : r.Still) (origin : TypeOfOrigin) : origin.mapPath r.path = origin := by
  cases origin <;> rw [TypeOfOrigin.mapPath, h.path]

mutual

theorem signature (h : r.Still) : ∀ sig : Signature, sig.mapLeaves r = sig
  | ⟨is, _, _⟩ => by rw [Signature.mapLeaves, h.items is]

theorem items (h : r.Still) : ∀ is : List Item, mapItems r is = is
  | [] => by rw [mapItems]
  | i :: is => by rw [mapItems, h.item i, h.items is]

theorem item (h : r.Still) : ∀ i : Item, i.mapLeaves r = i
  | .module m => by rw [Item.mapLeaves, h.module m]
  | .moduleSubstitution m => by rw [Item.mapLeaves, h.ident, h.path]
  | .moduleType m => by rw [Item.mapLeaves, h.moduleType m]
  | .type t => by rw [Item.mapLeaves, h.typeDecl]
  | .typeSubstitution t => by rw [Item.mapLeaves, h.typeDecl]
  | .value v => by rw [Item.mapLeaves, Value.mapLeaves, h.ident, h.typeExpr]
  | .external x => by rw [Item.mapLeaves, External.mapLeaves, h.ident, h.typeExpr]
  | .classDecl c => by
    rw [Item.mapLeaves, Class.mapLeaves, h.ident, h.classDecl, h.classExpansion]
  | .classType c => by
    rw [Item.mapLeaves, ClassType.mapLeaves, h.ident, h.classTypeExpr, h.classExpansion]
  | .extension x => by rw [Item.mapLeaves, h.extension]
  | .exception c => by rw [Item.mapLeaves, h.constructor]
  | .included i => by rw [Item.mapLeaves, h.included i]
  | .opened _ content => by rw [Item.mapLeaves, h.signature content]
  | .comment _ => by rw [Item.mapLeaves]

theorem module (h : r.Still) : ∀ m : Module, m.mapLeaves r = m
  | ⟨_, _, decl, _⟩ => by rw [Module.mapLeaves, h.ident, h.moduleDecl decl]

theorem moduleDecl (h : r.Still) : ∀ decl : ModuleDecl, decl.mapLeaves r = decl
  | .aliasOf _ stored => by rw [ModuleDecl.mapLeaves, h.path, h.expansion stored]
  | .typed expr => by rw [ModuleDecl.mapLeaves, h.moduleTypeExpr expr]

theorem moduleType (h : r.Still) : ∀ m : ModuleType, m.mapLeaves r = m
  | ⟨_, _, none⟩ => by rw [ModuleType.mapLeaves, h.ident]
  | ⟨_, _, some expr⟩ => by rw [ModuleType.mapLeaves, h.ident, h.moduleTypeExpr expr]

theorem expansion (h : r.Still) : ∀ stored : Option StoredExpansion, mapExpansion r stored = stored
  | none => by rw [mapExpansion]
  | some stored => by rw [mapExpansion, h.storedExpansion stored]

theorem storedExpansion (h : r.Still) : ∀ stored : StoredExpansion, stored.mapLeaves r = stored
  | .signature sig => by rw [StoredExpansion.mapLeaves, h.signature sig]
  | .functor param body => by
    rw [StoredExpansion.mapLeaves, h.functorParameter param, h.storedExpansion body]

theorem functorParameter (h : r.Still) : ∀ param : FunctorParameter, param.mapLeaves r = param
  | .unit => by rw [FunctorParameter.mapLeaves]
  | .named _ expr => by rw [FunctorParameter.mapLeaves, h.ident, h.moduleTypeExpr expr]

theorem moduleTypeExpr (h : r.Still) : ∀ expr : ModuleTypeExpr, expr.mapLeaves r = expr
  | .path _ stored => by rw [ModuleTypeExpr.mapLeaves, h.path, h.expansion stored]
  | .signature sig => by rw [ModuleTypeExpr.mapLeaves, h.signature sig]
  | .functor param body => by
    rw [ModuleTypeExpr.mapLeaves, h.functorParameter param, h.moduleTypeExpr body]
  | .constrained cs base stored => by
    rw [ModuleTypeExpr.mapLeaves, h.constraints cs, h.signatureExpr base, h.expansion stored]
  | .typeOf _ stored => by rw [ModuleTypeExpr.mapLeaves, h.typeOfOrigin, h.expansion stored]

theorem signatureExpr (h : r.Still) : ∀ expr : SignatureExpr, expr.mapLeaves r = expr
  | .path _ => by rw [SignatureExpr.mapLeaves, h.path]
  | .signature sig => by rw [SignatureExpr.mapLeaves, h.signature sig]
  | .constrained cs base => by rw [SignatureExpr.mapLeaves, h.constraints cs, h.signatureExpr base]
  | .typeOf _ => by rw [SignatureExpr.mapLeaves, h.typeOfOrigin]

theorem constraints (h : r.Still) : ∀ cs : List Constraint, mapWith r cs = cs
  | [] => by rw [mapWith]
  | c :: cs => by rw [mapWith, h.constraint c, h.constraints cs]

theorem constraint (h : r.Still) : ∀ c : Constraint, c.mapLeaves r = c
  | .moduleEq _ decl => by rw [Constraint.mapLeaves, h.moduleDecl decl]
  | .moduleSubst _ _ => by rw [Constraint.mapLeaves, h.path]
  | .typeEq _ eq => by rw [Constraint.mapLeaves, h.typeEquation]
  | .typeSubst _ eq => by rw [Constraint.mapLeaves, h.typeEquation]

theorem included (h : r.Still) : ∀ i : Include, i.mapLeaves r = i
  | ⟨_, _, decl, _, _, content⟩ => by
    rw [Include.mapLeaves, h.ident, h.includeDecl decl, optionMap_eq_self h.path,
      h.signature content]

theorem includeDecl (h : r.Still) : ∀ decl : IncludeDecl, decl.mapLeaves r = decl
  | .aliasOf _ => by rw [IncludeDecl.mapLeaves, h.path]
  | .typed expr => by rw [IncludeDecl.mapLeaves, h.signatureExpr expr]

end

end LeafMap.Still

theorem LeafMap.still_default : ({} : LeafMap).Still where
  ident _ := rfl
  path _ := rfl
  var _ := rfl
  constr _ _ := rfl

end CrossRef
