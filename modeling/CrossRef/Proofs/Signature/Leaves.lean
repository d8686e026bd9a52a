import CrossRef.Signature.LeafMap
import CrossRef.Signature.Paths

/-! Tests on leaves. A test holds of a piece of syntax when every path and every application of a
type constructor in it passes. -/

namespace CrossRef

/-- What is asked of the paths of type constructors that are applied, and of all other paths. -/
structure LeafTest where
  path : Path → Prop
  constr : Path → Prop

mutual

def TypeExpr.AllLeaves (q : LeafTest) : TypeExpr → Prop
  | .var _ | .any => True
  | .arrow _ arg ret => arg.AllLeaves q ∧ ret.AllLeaves q
  | .tuple types => AllTypes q types
  | .constr path args => q.constr path ∧ AllTypes q args
  | .variant _ elements => AllElements q elements
  | .object fields _ => AllFields q fields
  | .classRef path args => q.path path ∧ AllTypes q args
  | .poly _ body => body.AllLeaves q
  | .package path constraints => q.path path ∧ AllPackage q constraints

def AllTypes (q : LeafTest) : List TypeExpr → Prop
  | [] => True
  | t :: ts => t.AllLeaves q ∧ AllTypes q ts

def AllElements (q : LeafTest) : List VariantElement → Prop
  | [] => True
  | .type t :: es => t.AllLeaves q ∧ AllElements q es
  | .constructor _ _ args :: es => AllTypes q args ∧ AllElements q es

def AllFields (q : LeafTest) : List ObjectField → Prop
  | [] => True
  | .method _ t :: fs => t.AllLeaves q ∧ AllFields q fs
  | .inherit t :: fs => t.AllLeaves q ∧ AllFields q fs

def AllPackage (q : LeafTest) : List PackageConstraint → Prop
  | [] => True
  | ⟨_, t⟩ :: cs => t.AllLeaves q ∧ AllPackage q cs

end

def TypeEquation.AllLeaves (q : LeafTest) (eq : TypeEquation) : Prop :=
  (∀ t ∈ eq.manifest, t.AllLeaves q) ∧ ∀ c ∈ eq.constraints, c.1.AllLeaves q ∧ c.2.AllLeaves q

def ConstructorArgs.AllLeaves (q : LeafTest) : ConstructorArgs → Prop
  | tuple types => ∀ t ∈ types, t.AllLeaves q
  | record fields => ∀ f ∈ fields, f.type.AllLeaves q

def Constructor.AllLeaves (q : LeafTest) (c : Constructor) : Prop :=
  c.args.AllLeaves q ∧ ∀ t ∈ c.res, t.AllLeaves q

def TypeRepr.AllLeaves (q : LeafTest) : TypeRepr → Prop
  | variant constructors => ∀ c ∈ constructors, c.AllLeaves q
  | record fields => ∀ f ∈ fields, f.type.AllLeaves q
  | extensible => True

def TypeDecl.AllLeaves (q : LeafTest) (t : TypeDecl) : Prop :=
  t.equation.AllLeaves q ∧ ∀ repr ∈ t.representation, repr.AllLeaves q

def Extension.AllLeaves (q : LeafTest) (x : Extension) : Prop :=
  q.path x.typePath ∧ ∀ c ∈ x.constructors, c.AllLeaves q

mutual

def ClassTypeExpr.AllLeaves (q : LeafTest) : ClassTypeExpr → Prop
  | .constr path args => q.path path ∧ ∀ t ∈ args, t.AllLeaves q
  | .signature sig => sig.AllLeaves q

def ClassSignature.AllLeaves (q : LeafTest) : ClassSignature → Prop
  | ⟨self, items⟩ => (∀ t ∈ self, t.AllLeaves q) ∧ AllClassItems q items

def AllClassItems (q : LeafTest) : List ClassItem → Prop
  | [] => True
  | item :: items => item.AllLeaves q ∧ AllClassItems q items

def ClassItem.AllLeaves (q : LeafTest) : ClassItem → Prop
  | .method m => m.type.AllLeaves q
  | .instanceVariable v => v.type.AllLeaves q
  | .constraint lhs rhs => lhs.AllLeaves q ∧ rhs.AllLeaves q
  | .inherit expr => expr.AllLeaves q
  | .comment _ => True

end

def ClassDecl.AllLeaves (q : LeafTest) : ClassDecl → Prop
  | classType expr => expr.AllLeaves q
  | arrow _ arg decl => arg.AllLeaves q ∧ decl.AllLeaves q

def Class.AllLeaves (q : LeafTest) (c : Class) : Prop :=
  c.decl.AllLeaves q ∧ ∀ sig ∈ c.expansion, sig.AllLeaves q

def ClassType.AllLeaves (q : LeafTest) (c : ClassType) : Prop :=
  c.expr.AllLeaves q ∧ ∀ sig ∈ c.expansion, sig.AllLeaves q

mutual

def Signature.AllLeaves (q : LeafTest) : Signature → Prop
  | ⟨items, _, _⟩ => AllItems q items

def AllItems (q : LeafTest) : List Item → Prop
  | [] => True
  | item :: items => item.AllLeaves q ∧ AllItems q items

def Item.AllLeaves (q : LeafTest) : Item → Prop
  | .module m => m.AllLeaves q
  | .moduleSubstitution m => q.path m.manifest
  | .moduleType m => m.AllLeaves q
  | .type t => t.AllLeaves q
  | .typeSubstitution t => t.AllLeaves q
  | .value v => v.type.AllLeaves q
  | .external e => e.type.AllLeaves q
  | .classDecl c => c.AllLeaves q
  | .classType c => c.AllLeaves q
  | .extension e => e.AllLeaves q
  | .exception e => e.AllLeaves q
  | .included i => i.AllLeaves q
  | .opened _ content => content.AllLeaves q
  | .comment _ => True

def Module.AllLeaves (q : LeafTest) : Module → Prop
  | ⟨_, _, decl, _⟩ => decl.AllLeaves q

def ModuleDecl.AllLeaves (q : LeafTest) : ModuleDecl → Prop
  | .aliasOf path expansion => q.path path ∧ AllExpansion q expansion
  | .typed expr => expr.AllLeaves q

def ModuleType.AllLeaves (q : LeafTest) : ModuleType → Prop
  | ⟨_, _, none⟩ => True
  | ⟨_, _, some expr⟩ => expr.AllLeaves q

def AllExpansion (q : LeafTest) : Option StoredExpansion → Prop
  | none => True
  | some expansion => expansion.AllLeaves q

def StoredExpansion.AllLeaves (q : LeafTest) : StoredExpansion → Prop
  | .signature sig => sig.AllLeaves q
  | .functor param body => param.AllLeaves q ∧ body.AllLeaves q

def FunctorParameter.AllLeaves (q : LeafTest) : FunctorParameter → Prop
  | .unit => True
  | .named _ expr => expr.AllLeaves q

def ModuleTypeExpr.AllLeaves (q : LeafTest) : ModuleTypeExpr → Prop
  | .path path expansion => q.path path ∧ AllExpansion q expansion
  | .signature sig => sig.AllLeaves q
  | .functor param body => param.AllLeaves q ∧ body.AllLeaves q
  | .constrained constraints base expansion =>
    AllConstraints q constraints ∧ base.AllLeaves q ∧ AllExpansion q expansion
  | .typeOf origin expansion => q.path origin.path ∧ AllExpansion q expansion

def SignatureExpr.AllLeaves (q : LeafTest) : SignatureExpr → Prop
  | .path path => q.path path
  | .signature sig => sig.AllLeaves q
  | .constrained constraints base => AllConstraints q constraints ∧ base.AllLeaves q
  | .typeOf origin => q.path origin.path

def AllConstraints (q : LeafTest) : List Constraint → Prop
  | [] => True
  | c :: cs => c.AllLeaves q ∧ AllConstraints q cs

def Constraint.AllLeaves (q : LeafTest) : Constraint → Prop
  | .moduleEq _ decl => decl.AllLeaves q
  | .moduleSubst _ path => q.path path
  | .typeEq _ eq => eq.AllLeaves q
  | .typeSubst _ eq => eq.AllLeaves q

def Include.AllLeaves (q : LeafTest) : Include → Prop
  | ⟨_, _, decl, strengthened, _, content⟩ =>
    decl.AllLeaves q ∧ (∀ path ∈ strengthened, q.path path) ∧ content.AllLeaves q

def IncludeDecl.AllLeaves (q : LeafTest) : IncludeDecl → Prop
  | .aliasOf path => q.path path
  | .typed expr => expr.AllLeaves q

end

namespace LeafTest

def ofPath (P : Path → Prop) : LeafTest := ⟨P, P⟩

variable {P : Path → Prop}

mutual

theorem typeExpr_iff : ∀ t : TypeExpr, t.AllLeaves (ofPath P) ↔ ∀ p ∈ t.paths, P p
  | .var _ => by simp only [TypeExpr.AllLeaves, TypeExpr.paths, List.not_mem_nil, false_imp_iff,
      implies_true]
  | .any => by simp only [TypeExpr.AllLeaves, TypeExpr.paths, List.not_mem_nil, false_imp_iff,
      implies_true]
  | .arrow _ arg ret => by
    rw [TypeExpr.AllLeaves, TypeExpr.paths, List.forall_mem_append, typeExpr_iff arg,
      typeExpr_iff ret]
  | .tuple types => by rw [TypeExpr.AllLeaves, TypeExpr.paths, types_iff types]
  | .constr path args => by
    rw [TypeExpr.AllLeaves, TypeExpr.paths, List.forall_mem_cons, types_iff args]
    rfl
  | .variant _ elements => by rw [TypeExpr.AllLeaves, TypeExpr.paths, elements_iff elements]
  | .object fields _ => by rw [TypeExpr.AllLeaves, TypeExpr.paths, fields_iff fields]
  | .classRef path args => by
    rw [TypeExpr.AllLeaves, TypeExpr.paths, List.forall_mem_cons, types_iff args]
    rfl
  | .poly _ body => by rw [TypeExpr.AllLeaves, TypeExpr.paths, typeExpr_iff body]
  | .package path constraints => by
    rw [TypeExpr.AllLeaves, TypeExpr.paths, List.forall_mem_cons, package_iff constraints]
    rfl

theorem types_iff : ∀ ts : List TypeExpr, AllTypes (ofPath P) ts ↔ ∀ p ∈ pathsOfTypes ts, P p
  | [] => by simp only [AllTypes, pathsOfTypes, List.not_mem_nil, false_imp_iff, implies_true]
  | t :: ts => by
    rw [AllTypes, pathsOfTypes, List.forall_mem_append, typeExpr_iff t, types_iff ts]

theorem elements_iff :
    ∀ es : List VariantElement, AllElements (ofPath P) es ↔ ∀ p ∈ pathsOfElements es, P p
  | [] => by simp only [AllElements, pathsOfElements, List.not_mem_nil, false_imp_iff, implies_true]
  | .type t :: es => by
    rw [AllElements, pathsOfElements, List.forall_mem_append, typeExpr_iff t, elements_iff es]
  | .constructor _ _ args :: es => by
    rw [AllElements, pathsOfElements, List.forall_mem_append, types_iff args, elements_iff es]

theorem fields_iff :
    ∀ fs : List ObjectField, AllFields (ofPath P) fs ↔ ∀ p ∈ pathsOfFields fs, P p
  | [] => by simp only [AllFields, pathsOfFields, List.not_mem_nil, false_imp_iff, implies_true]
  | .method _ t :: fs => by
    rw [AllFields, pathsOfFields, List.forall_mem_append, typeExpr_iff t, fields_iff fs]
  | .inherit t :: fs => by
    rw [AllFields, pathsOfFields, List.forall_mem_append, typeExpr_iff t, fields_iff fs]

theorem package_iff :
    ∀ cs : List PackageConstraint, AllPackage (ofPath P) cs ↔ ∀ p ∈ pathsOfConstraints cs, P p
  | [] => by
    simp only [AllPackage, pathsOfConstraints, List.not_mem_nil, false_imp_iff, implies_true]
  | ⟨_, t⟩ :: cs => by
    rw [AllPackage, pathsOfConstraints, List.forall_mem_append, typeExpr_iff t, package_iff cs]

end

theorem option_iff {α : Type} (o : Option α) (paths : α → List Path) :
    (∀ a ∈ o, ∀ p ∈ paths a, P p) ↔ ∀ p ∈ (o.map paths).getD [], P p := by
  cases o with
  | none => simp
  | some a => simp

theorem typeEquation_iff (eq : TypeEquation) :
    eq.AllLeaves (ofPath P) ↔ ∀ p ∈ eq.paths, P p := by
  simp only [TypeEquation.AllLeaves, TypeEquation.paths, List.forall_mem_append,
    List.forall_mem_flatMap, typeExpr_iff, option_iff]

theorem constructorArgs_iff (args : ConstructorArgs) :
    args.AllLeaves (ofPath P) ↔ ∀ p ∈ args.paths, P p := by
  cases args <;> simp only [ConstructorArgs.AllLeaves, ConstructorArgs.paths,
    List.forall_mem_flatMap, typeExpr_iff]

theorem constructor_iff (c : Constructor) : c.AllLeaves (ofPath P) ↔ ∀ p ∈ c.paths, P p := by
  simp only [Constructor.AllLeaves, Constructor.paths, List.forall_mem_append, constructorArgs_iff,
    typeExpr_iff, option_iff]

theorem typeRepr_iff (repr : TypeRepr) : repr.AllLeaves (ofPath P) ↔ ∀ p ∈ repr.paths, P p := by
  cases repr <;> simp only [TypeRepr.AllLeaves, TypeRepr.paths, List.forall_mem_flatMap,
    constructor_iff, typeExpr_iff, List.not_mem_nil, false_imp_iff, implies_true]

theorem typeDecl_iff (t : TypeDecl) : t.AllLeaves (ofPath P) ↔ ∀ p ∈ t.paths, P p := by
  simp only [TypeDecl.AllLeaves, TypeDecl.paths, List.forall_mem_append, typeEquation_iff,
    typeRepr_iff, option_iff]

theorem extension_iff (x : Extension) : x.AllLeaves (ofPath P) ↔ ∀ p ∈ x.paths, P p := by
  simp only [Extension.AllLeaves, Extension.paths, List.forall_mem_cons, List.forall_mem_flatMap,
    constructor_iff]
  rfl

mutual

theorem classTypeExpr_iff :
    ∀ expr : ClassTypeExpr, expr.AllLeaves (ofPath P) ↔ ∀ p ∈ expr.paths, P p
  | .constr path args => by
    simp only [ClassTypeExpr.AllLeaves, ClassTypeExpr.paths, List.forall_mem_cons,
      List.forall_mem_flatMap, typeExpr_iff]
    rfl
  | .signature sig => by rw [ClassTypeExpr.AllLeaves, ClassTypeExpr.paths, classSignature_iff sig]

theorem classSignature_iff :
    ∀ sig : ClassSignature, sig.AllLeaves (ofPath P) ↔ ∀ p ∈ sig.paths, P p
  | ⟨self, items⟩ => by
    simp only [ClassSignature.AllLeaves, ClassSignature.paths, List.forall_mem_append, typeExpr_iff,
      option_iff, classItems_iff items]

theorem classItems_iff :
    ∀ items : List ClassItem, AllClassItems (ofPath P) items ↔ ∀ p ∈ pathsOfClassItems items, P p
  | [] => by
    simp only [AllClassItems, pathsOfClassItems, List.not_mem_nil, false_imp_iff, implies_true]
  | item :: items => by
    rw [AllClassItems, pathsOfClassItems, List.forall_mem_append, classItem_iff item,
      classItems_iff items]

theorem classItem_iff : ∀ item : ClassItem, item.AllLeaves (ofPath P) ↔ ∀ p ∈ item.paths, P p
  | .method m => by rw [ClassItem.AllLeaves, ClassItem.paths, typeExpr_iff]
  | .instanceVariable v => by rw [ClassItem.AllLeaves, ClassItem.paths, typeExpr_iff]
  | .constraint lhs rhs => by
    rw [ClassItem.AllLeaves, ClassItem.paths, List.forall_mem_append, typeExpr_iff lhs,
      typeExpr_iff rhs]
  | .inherit expr => by rw [ClassItem.AllLeaves, ClassItem.paths, classTypeExpr_iff expr]
  | .comment _ => by
    simp only [ClassItem.AllLeaves, ClassItem.paths, List.not_mem_nil, false_imp_iff, implies_true]

end

theorem classDecl_iff (decl : ClassDecl) : decl.AllLeaves (ofPath P) ↔ ∀ p ∈ decl.paths, P p := by
  induction decl with
  | classType expr => exact classTypeExpr_iff expr
  | arrow label arg decl ih =>
    rw [ClassDecl.AllLeaves, ClassDecl.paths, List.forall_mem_append, typeExpr_iff, ih]

theorem class_iff (c : Class) : c.AllLeaves (ofPath P) ↔ ∀ p ∈ c.paths, P p := by
  simp only [Class.AllLeaves, Class.paths, List.forall_mem_append, classDecl_iff,
    classSignature_iff, option_iff]

theorem classType_iff (c : ClassType) : c.AllLeaves (ofPath P) ↔ ∀ p ∈ c.paths, P p := by
  simp only [ClassType.AllLeaves, ClassType.paths, List.forall_mem_append, classTypeExpr_iff,
    classSignature_iff, option_iff]

mutual

theorem signature_iff : ∀ sig : Signature, sig.AllLeaves (ofPath P) ↔ ∀ p ∈ sig.paths, P p
  | ⟨items, _, _⟩ => by rw [Signature.AllLeaves, Signature.paths, items_iff items]

theorem items_iff : ∀ items : List Item, AllItems (ofPath P) items ↔ ∀ p ∈ pathsOfItems items, P p
  | [] => by simp only [AllItems, pathsOfItems, List.not_mem_nil, false_imp_iff, implies_true]
  | item :: items => by
    rw [AllItems, pathsOfItems, List.forall_mem_append, item_iff item, items_iff items]

theorem item_iff : ∀ item : Item, item.AllLeaves (ofPath P) ↔ ∀ p ∈ item.paths, P p
  | .module m => by rw [Item.AllLeaves, Item.paths, module_iff m]
  | .moduleSubstitution m => by
    rw [Item.AllLeaves, Item.paths, List.forall_mem_singleton]
    rfl
  | .moduleType m => by rw [Item.AllLeaves, Item.paths, moduleType_iff m]
  | .type t => by rw [Item.AllLeaves, Item.paths, typeDecl_iff]
  | .typeSubstitution t => by rw [Item.AllLeaves, Item.paths, typeDecl_iff]
  | .value v => by rw [Item.AllLeaves, Item.paths, typeExpr_iff]
  | .external x => by rw [Item.AllLeaves, Item.paths, typeExpr_iff]
  | .classDecl c => by rw [Item.AllLeaves, Item.paths, class_iff]
  | .classType c => by rw [Item.AllLeaves, Item.paths, classType_iff]
  | .extension x => by rw [Item.AllLeaves, Item.paths, extension_iff]
  | .exception c => by rw [Item.AllLeaves, Item.paths, constructor_iff]
  | .included i => by rw [Item.AllLeaves, Item.paths, include_iff i]
  | .opened _ content => by rw [Item.AllLeaves, Item.paths, signature_iff content]
  | .comment _ => by
    simp only [Item.AllLeaves, Item.paths, List.not_mem_nil, false_imp_iff, implies_true]

theorem module_iff : ∀ m : Module, m.AllLeaves (ofPath P) ↔ ∀ p ∈ m.paths, P p
  | ⟨_, _, decl, _⟩ => by rw [Module.AllLeaves, Module.paths, moduleDecl_iff decl]

theorem moduleDecl_iff : ∀ decl : ModuleDecl, decl.AllLeaves (ofPath P) ↔ ∀ p ∈ decl.paths, P p
  | .aliasOf path expansion => by
    rw [ModuleDecl.AllLeaves, ModuleDecl.paths, List.forall_mem_cons, expansion_iff expansion]
    rfl
  | .typed expr => by rw [ModuleDecl.AllLeaves, ModuleDecl.paths, moduleTypeExpr_iff expr]

theorem moduleType_iff : ∀ m : ModuleType, m.AllLeaves (ofPath P) ↔ ∀ p ∈ m.paths, P p
  | ⟨_, _, none⟩ => by
    simp only [ModuleType.AllLeaves, ModuleType.paths, List.not_mem_nil, false_imp_iff,
      implies_true]
  | ⟨_, _, some expr⟩ => by rw [ModuleType.AllLeaves, ModuleType.paths, moduleTypeExpr_iff expr]

theorem expansion_iff : ∀ expansion : Option StoredExpansion,
    AllExpansion (ofPath P) expansion ↔ ∀ p ∈ pathsOfExpansion expansion, P p
  | none => by
    simp only [AllExpansion, pathsOfExpansion, List.not_mem_nil, false_imp_iff, implies_true]
  | some expansion => by rw [AllExpansion, pathsOfExpansion, storedExpansion_iff expansion]

theorem storedExpansion_iff :
    ∀ expansion : StoredExpansion, expansion.AllLeaves (ofPath P) ↔ ∀ p ∈ expansion.paths, P p
  | .signature sig => by rw [StoredExpansion.AllLeaves, StoredExpansion.paths, signature_iff sig]
  | .functor param body => by
    rw [StoredExpansion.AllLeaves, StoredExpansion.paths, List.forall_mem_append,
      functorParameter_iff param, storedExpansion_iff body]

theorem functorParameter_iff :
    ∀ param : FunctorParameter, param.AllLeaves (ofPath P) ↔ ∀ p ∈ param.paths, P p
  | .unit => by
    simp only [FunctorParameter.AllLeaves, FunctorParameter.paths, List.not_mem_nil, false_imp_iff,
      implies_true]
  | .named _ expr => by
    rw [FunctorParameter.AllLeaves, FunctorParameter.paths, moduleTypeExpr_iff expr]

theorem moduleTypeExpr_iff :
    ∀ expr : ModuleTypeExpr, expr.AllLeaves (ofPath P) ↔ ∀ p ∈ expr.paths, P p
  | .path path expansion => by
    rw [ModuleTypeExpr.AllLeaves, ModuleTypeExpr.paths, List.forall_mem_cons,
      expansion_iff expansion]
    rfl
  | .signature sig => by rw [ModuleTypeExpr.AllLeaves, ModuleTypeExpr.paths, signature_iff sig]
  | .functor param body => by
    rw [ModuleTypeExpr.AllLeaves, ModuleTypeExpr.paths, List.forall_mem_append,
      functorParameter_iff param, moduleTypeExpr_iff body]
  | .constrained constraints base expansion => by
    rw [ModuleTypeExpr.AllLeaves, ModuleTypeExpr.paths, List.forall_mem_append,
      List.forall_mem_append, constraints_iff constraints, signatureExpr_iff base,
      expansion_iff expansion, and_assoc]
  | .typeOf origin expansion => by
    rw [ModuleTypeExpr.AllLeaves, ModuleTypeExpr.paths, List.forall_mem_cons,
      expansion_iff expansion]
    rfl

theorem signatureExpr_iff :
    ∀ expr : SignatureExpr, expr.AllLeaves (ofPath P) ↔ ∀ p ∈ expr.paths, P p
  | .path path => by
    rw [SignatureExpr.AllLeaves, SignatureExpr.paths, List.forall_mem_singleton]
    rfl
  | .signature sig => by rw [SignatureExpr.AllLeaves, SignatureExpr.paths, signature_iff sig]
  | .constrained constraints base => by
    rw [SignatureExpr.AllLeaves, SignatureExpr.paths, List.forall_mem_append,
      constraints_iff constraints, signatureExpr_iff base]
  | .typeOf origin => by
    rw [SignatureExpr.AllLeaves, SignatureExpr.paths, List.forall_mem_singleton]
    rfl

theorem constraints_iff :
    ∀ cs : List Constraint, AllConstraints (ofPath P) cs ↔ ∀ p ∈ pathsOfWith cs, P p
  | [] => by simp only [AllConstraints, pathsOfWith, List.not_mem_nil, false_imp_iff, implies_true]
  | c :: cs => by
    rw [AllConstraints, pathsOfWith, List.forall_mem_append, constraint_iff c, constraints_iff cs]

theorem constraint_iff : ∀ c : Constraint, c.AllLeaves (ofPath P) ↔ ∀ p ∈ c.paths, P p
  | .moduleEq _ decl => by rw [Constraint.AllLeaves, Constraint.paths, moduleDecl_iff decl]
  | .moduleSubst _ path => by
    rw [Constraint.AllLeaves, Constraint.paths, List.forall_mem_singleton]
    rfl
  | .typeEq _ eq => by rw [Constraint.AllLeaves, Constraint.paths, typeEquation_iff]
  | .typeSubst _ eq => by rw [Constraint.AllLeaves, Constraint.paths, typeEquation_iff]

theorem include_iff : ∀ i : Include, i.AllLeaves (ofPath P) ↔ ∀ p ∈ i.paths, P p
  | ⟨_, _, decl, strengthened, _, content⟩ => by
    have hpath : (∀ path ∈ strengthened, (ofPath P).path path) ↔
        ∀ p ∈ strengthened.toList, P p := by
      simp only [Option.mem_toList]
      rfl
    rw [Include.AllLeaves, Include.paths, List.forall_mem_append, List.forall_mem_append,
      includeDecl_iff decl, hpath, signature_iff content, and_assoc]

theorem includeDecl_iff :
    ∀ decl : IncludeDecl, decl.AllLeaves (ofPath P) ↔ ∀ p ∈ decl.paths, P p
  | .aliasOf path => by
    rw [IncludeDecl.AllLeaves, IncludeDecl.paths, List.forall_mem_singleton]
    rfl
  | .typed expr => by rw [IncludeDecl.AllLeaves, IncludeDecl.paths, signatureExpr_iff expr]

end

end LeafTest

end CrossRef
