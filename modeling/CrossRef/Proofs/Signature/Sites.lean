import CrossRef.Report
import CrossRef.Proofs.Signature.Refinement

/-! Where a reference that fails to resolve is reported. Only the paths that a module, a module type
or a class is made from have such a site; paths in types have none. -/

namespace CrossRef

structure Site where
  construct : Construct
  parent : Identifier
  path : Path

namespace Site

def report (site : Site) (error : ResolveError) : Report where
  construct := site.construct
  subject := site.path.text
  phase := .resolve
  parent := some site.parent
  error := some error

def ReportedBy (site : Site) (report : Report) : Prop :=
  ∃ error : ResolveError, error.fetch? = none ∧ report = site.report error

structure Refines (site site' : Site) : Prop where
  construct : site'.construct = site.construct
  parent : site'.parent = site.parent
  path : site.path.Refines site'.path

end Site

def unresolvedSites (sites : List Site) : List Site := sites.filter fun site => !site.path.isResolved

theorem unresolvedSites_append (sites sites' : List Site) :
    unresolvedSites (sites ++ sites') = unresolvedSites sites ++ unresolvedSites sites' :=
  List.filter_append sites sites'

/-- The reports answer for what became of the sites: every site is still there, in its place, and
there is one report, in the same order, for each that is left unresolved. -/
structure Accounted (sites out : List Site) (reports : List Report) : Prop where
  refines : List.Forall₂ Site.Refines sites out
  reported : List.Forall₂ Site.ReportedBy (unresolvedSites out) reports

namespace Accounted

theorem nil : Accounted [] [] [] := ⟨.nil, .nil⟩

theorem append {sites sites' out out' : List Site} {reports reports' : List Report}
    (h : Accounted sites out reports) (h' : Accounted sites' out' reports') :
    Accounted (sites ++ sites') (out ++ out') (reports ++ reports') where
  refines := List.rel_append h.refines h'.refines
  reported := by
    rw [unresolvedSites_append]
    exact List.rel_append h.reported h'.reported

theorem ofResolved (site : Site) {path : Path} (h : site.path.Refines path)
    (hpath : path.isResolved = true) : Accounted [site] [{ site with path }] [] where
  refines := .cons ⟨rfl, rfl, h⟩ .nil
  reported := by
    simp only [unresolvedSites, List.filter_cons, hpath, Bool.not_true, Bool.false_eq_true,
      if_false, List.filter_nil]
    exact .nil

theorem ofReport (site : Site) {error : ResolveError} (hpath : site.path.isResolved = false)
    (herror : error.fetch? = none) : Accounted [site] [site] [site.report error] where
  refines := .cons ⟨rfl, rfl, .inl rfl⟩ .nil
  reported := by
    simp only [unresolvedSites, List.filter_cons, hpath, Bool.not_false, if_true, List.filter_nil]
    exact .cons ⟨error, herror, rfl⟩ .nil

end Accounted

mutual

def ClassTypeExpr.sites (id : Identifier) : ClassTypeExpr → List Site
  | .constr path _ => [⟨.classDecl, id, path⟩]
  | .signature sig => sig.sites id

def ClassSignature.sites (id : Identifier) : ClassSignature → List Site
  | ⟨_, items⟩ => sitesOfClassItems id items

def sitesOfClassItems (id : Identifier) : List ClassItem → List Site
  | [] => []
  | item :: items => item.sites id ++ sitesOfClassItems id items

def ClassItem.sites (id : Identifier) : ClassItem → List Site
  | .inherit expr => expr.sites id
  | _ => []

end

mutual

def Signature.sites : Signature → List Site
  | ⟨items, _, _⟩ => sitesOfItems items

/-- The sites of items among which there are no includes, in the order in which they stand. The
expansion of a class is computed, not written, and has none. -/
def sitesOfItems : List Item → List Site
  | [] => []
  | item :: items => item.sites ++ sitesOfItems items

def Item.sites : Item → List Site
  | .module m => m.sites
  | .moduleType m => m.sites
  | .classDecl c => c.decl.body.sites c.id
  | .classType c => c.expr.sites c.id
  | .opened _ content => content.sites
  | _ => []

def Module.sites : Module → List Site
  | ⟨id, _, decl, _⟩ => decl.sites id

def ModuleDecl.sites (id : Identifier) : ModuleDecl → List Site
  | .aliasOf path expansion => ⟨.modulePath, id, path⟩ :: sitesOfExpansion expansion
  | .typed expr => expr.sites id

def ModuleType.sites : ModuleType → List Site
  | ⟨_, _, none⟩ => []
  | ⟨id, _, some expr⟩ => expr.sites id

def sitesOfExpansion : Option StoredExpansion → List Site
  | none => []
  | some expansion => expansion.sites

def StoredExpansion.sites : StoredExpansion → List Site
  | .signature sig => sig.sites
  | .functor param body => param.sites ++ body.sites

def FunctorParameter.sites : FunctorParameter → List Site
  | .unit => []
  | .named id expr => expr.sites id

def ModuleTypeExpr.sites (id : Identifier) : ModuleTypeExpr → List Site
  | .path path expansion => ⟨.moduleTypePath, id, path⟩ :: sitesOfExpansion expansion
  | .signature sig => sig.sites
  | .functor param body => param.sites ++ body.sites id.result
  | .constrained _ _ _ => []
  | .typeOf origin expansion => ⟨.modulePath, id, origin.path⟩ :: sitesOfExpansion expansion

end

theorem TypeOfOrigin.path_withPath (origin : TypeOfOrigin) (path : Path) :
    (origin.withPath path).path = path := by
  cases origin <;> rfl

mutual

/-- Plain syntax has no include, no constraint, no package type, no hidden module and no mark. -/
inductive TypeExpr.Plain : TypeExpr → Prop
  | var (name : String) : TypeExpr.Plain (.var name)
  | any : TypeExpr.Plain .any
  | arrow (label : Option Label) {arg ret : TypeExpr} :
      TypeExpr.Plain arg → TypeExpr.Plain ret → TypeExpr.Plain (.arrow label arg ret)
  | tuple {ts : List TypeExpr} : (∀ t ∈ ts, TypeExpr.Plain t) → TypeExpr.Plain (.tuple ts)
  | constr (path : Path) {args : List TypeExpr} :
      (∀ t ∈ args, TypeExpr.Plain t) → TypeExpr.Plain (.constr path args)
  | variant (kind : VariantKind) {es : List VariantElement} :
      (∀ e ∈ es, VariantElement.Plain e) → TypeExpr.Plain (.variant kind es)
  | object {fs : List ObjectField} (isOpen : Bool) :
      (∀ f ∈ fs, ObjectField.Plain f) → TypeExpr.Plain (.object fs isOpen)
  | classRef (path : Path) {args : List TypeExpr} :
      (∀ t ∈ args, TypeExpr.Plain t) → TypeExpr.Plain (.classRef path args)
  | poly (vars : List String) {body : TypeExpr} :
      TypeExpr.Plain body → TypeExpr.Plain (.poly vars body)

inductive VariantElement.Plain : VariantElement → Prop
  | type {t : TypeExpr} : TypeExpr.Plain t → VariantElement.Plain (.type t)
  | constructor (name : String) (constant : Bool) {args : List TypeExpr} :
      (∀ t ∈ args, TypeExpr.Plain t) → VariantElement.Plain (.constructor name constant args)

inductive ObjectField.Plain : ObjectField → Prop
  | method (name : String) {t : TypeExpr} : TypeExpr.Plain t → ObjectField.Plain (.method name t)
  | inherit {t : TypeExpr} : TypeExpr.Plain t → ObjectField.Plain (.inherit t)

end

structure TypeEquation.Plain (eq : TypeEquation) : Prop where
  manifest : ∀ t ∈ eq.manifest, t.Plain
  constraints : ∀ c ∈ eq.constraints, c.1.Plain ∧ c.2.Plain

inductive ConstructorArgs.Plain : ConstructorArgs → Prop
  | tuple {ts : List TypeExpr} : (∀ t ∈ ts, t.Plain) → ConstructorArgs.Plain (.tuple ts)
  | record {fs : List Field} : (∀ f ∈ fs, f.type.Plain) → ConstructorArgs.Plain (.record fs)

structure Constructor.Plain (c : Constructor) : Prop where
  args : c.args.Plain
  res : ∀ t ∈ c.res, t.Plain

inductive TypeRepr.Plain : TypeRepr → Prop
  | variant {cs : List Constructor} : (∀ c ∈ cs, c.Plain) → TypeRepr.Plain (.variant cs)
  | record {fs : List Field} : (∀ f ∈ fs, f.type.Plain) → TypeRepr.Plain (.record fs)
  | extensible : TypeRepr.Plain .extensible

structure TypeDecl.Plain (t : TypeDecl) : Prop where
  equation : t.equation.Plain
  representation : ∀ repr ∈ t.representation, repr.Plain

mutual

inductive ClassTypeExpr.Plain : ClassTypeExpr → Prop
  | constr (path : Path) {args : List TypeExpr} :
      (∀ t ∈ args, t.Plain) → ClassTypeExpr.Plain (.constr path args)
  | signature {sig : ClassSignature} :
      ClassSignature.Plain sig → ClassTypeExpr.Plain (.signature sig)

inductive ClassSignature.Plain : ClassSignature → Prop
  | mk {self : Option TypeExpr} {items : List ClassItem} :
      (∀ t ∈ self, t.Plain) → (∀ item ∈ items, ClassItem.Plain item) →
      ClassSignature.Plain ⟨self, items⟩

inductive ClassItem.Plain : ClassItem → Prop
  | method {m : Method} : m.type.Plain → ClassItem.Plain (.method m)
  | instanceVariable {v : InstanceVariable} : v.type.Plain → ClassItem.Plain (.instanceVariable v)
  | constraint {lhs rhs : TypeExpr} :
      lhs.Plain → rhs.Plain → ClassItem.Plain (.constraint lhs rhs)
  | inherit {expr : ClassTypeExpr} : ClassTypeExpr.Plain expr → ClassItem.Plain (.inherit expr)
  | comment (text : String) : ClassItem.Plain (.comment text)

end

inductive ClassDecl.Plain : ClassDecl → Prop
  | classType {expr : ClassTypeExpr} : expr.Plain → ClassDecl.Plain (.classType expr)
  | arrow (label : Option Label) {arg : TypeExpr} {body : ClassDecl} :
      arg.Plain → ClassDecl.Plain body → ClassDecl.Plain (.arrow label arg body)

mutual

inductive Signature.Plain : Signature → Prop
  | mk {items : List Item} (doc : Docs) :
      (∀ item ∈ items, Item.Plain item) → Signature.Plain ⟨items, false, doc⟩

inductive Item.Plain : Item → Prop
  | module {m : Module} : Module.Plain m → Item.Plain (.module m)
  | moduleSubstitution (m : ModuleSubstitution) : Item.Plain (.moduleSubstitution m)
  | moduleType {m : ModuleType} : ModuleType.Plain m → Item.Plain (.moduleType m)
  | type {t : TypeDecl} : t.Plain → Item.Plain (.type t)
  | typeSubstitution {t : TypeDecl} : t.Plain → Item.Plain (.typeSubstitution t)
  | value {v : Value} : v.type.Plain → Item.Plain (.value v)
  | external {x : External} : x.type.Plain → Item.Plain (.external x)
  | classDecl {c : Class} : c.decl.Plain → Item.Plain (.classDecl c)
  | classType {c : ClassType} : c.expr.Plain → Item.Plain (.classType c)
  | extension {x : Extension} : (∀ c ∈ x.constructors, c.Plain) → Item.Plain (.extension x)
  | exception {c : Constructor} : c.Plain → Item.Plain (.exception c)
  | opened (doc : Docs) {sig : Signature} : Signature.Plain sig → Item.Plain (.opened doc sig)
  | comment (text : String) : Item.Plain (.comment text)

inductive Module.Plain : Module → Prop
  | mk (id : Identifier) (doc : Docs) {decl : ModuleDecl} :
      ModuleDecl.Plain decl → Module.Plain ⟨id, doc, decl, false⟩

inductive ModuleDecl.Plain : ModuleDecl → Prop
  | aliasOf (path : Path) {stored : Option StoredExpansion} :
      (∀ expansion ∈ stored, StoredExpansion.Plain expansion) →
      ModuleDecl.Plain (.aliasOf path stored)
  | typed {expr : ModuleTypeExpr} : ModuleTypeExpr.Plain expr → ModuleDecl.Plain (.typed expr)

inductive ModuleType.Plain : ModuleType → Prop
  | mk (id : Identifier) (doc : Docs) {expr : Option ModuleTypeExpr} :
      (∀ e ∈ expr, ModuleTypeExpr.Plain e) → ModuleType.Plain ⟨id, doc, expr⟩

inductive StoredExpansion.Plain : StoredExpansion → Prop
  | signature {sig : Signature} : Signature.Plain sig → StoredExpansion.Plain (.signature sig)
  | functor {param : FunctorParameter} {body : StoredExpansion} :
      FunctorParameter.Plain param → StoredExpansion.Plain body →
      StoredExpansion.Plain (.functor param body)

inductive FunctorParameter.Plain : FunctorParameter → Prop
  | unit : FunctorParameter.Plain .unit
  | named (id : Identifier) {expr : ModuleTypeExpr} :
      ModuleTypeExpr.Plain expr → FunctorParameter.Plain (.named id expr)

inductive ModuleTypeExpr.Plain : ModuleTypeExpr → Prop
  | path (path : Path) {stored : Option StoredExpansion} :
      (∀ expansion ∈ stored, StoredExpansion.Plain expansion) →
      ModuleTypeExpr.Plain (.path path stored)
  | signature {sig : Signature} : Signature.Plain sig → ModuleTypeExpr.Plain (.signature sig)
  | functor {param : FunctorParameter} {body : ModuleTypeExpr} :
      FunctorParameter.Plain param → ModuleTypeExpr.Plain body →
      ModuleTypeExpr.Plain (.functor param body)
  | typeOf (origin : TypeOfOrigin) {stored : Option StoredExpansion} :
      (∀ expansion ∈ stored, StoredExpansion.Plain expansion) →
      ModuleTypeExpr.Plain (.typeOf origin stored)

end

end CrossRef
