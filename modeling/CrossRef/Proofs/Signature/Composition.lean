import CrossRef.Proofs.Signature.Leaves

/-! One map on leaves after another. Where the second map takes what the first makes of each leaf to
what a third map makes of it, the two together are the third on whole signatures. -/

namespace CrossRef

/-- On leaves that pass `q`, `second` after `first` does what `both` does. -/
structure LeafMap.Composes (q : LeafTest) (first second both : LeafMap) : Prop where
  ident : ∀ id, second.ident (first.ident id) = both.ident id
  path : ∀ p, q.path p → second.path (first.path p) = both.path p
  var : ∀ name, (first.var name).mapLeaves second = both.var name
  constr : ∀ p args, q.constr p →
    (first.constr p args).mapLeaves second = both.constr p (mapTypes second args)

theorem map_map_eq {α β γ : Type} {f : α → β} {g : β → γ} {k : α → γ} (h : ∀ a, g (f a) = k a)
    (l : List α) : (l.map f).map g = l.map k := by
  rw [List.map_map]
  exact List.map_congr_left fun a _ => h a

theorem optionMap_map_eq {α β γ : Type} {f : α → β} {g : β → γ} {k : α → γ}
    (h : ∀ a, g (f a) = k a) (o : Option α) : (o.map f).map g = o.map k := by
  rw [Option.map_map]
  exact Option.map_congr fun a _ => h a

abbrev LeafMap.ComposesAll (first second both : LeafMap) : Prop :=
  Composes (.ofPath fun _ => True) first second both

namespace LeafMap.Composes

section Types

variable {q : LeafTest} {first second both : LeafMap}

mutual

theorem typeExprWhere (h : Composes q first second both) : ∀ t : TypeExpr, t.AllLeaves q →
    (t.mapLeaves first).mapLeaves second = t.mapLeaves both
  | .var name, _ => by
    rw [TypeExpr.mapLeaves, TypeExpr.mapLeaves]
    exact h.var name
  | .any, _ => by simp only [TypeExpr.mapLeaves]
  | .arrow _ arg ret, ht => by
    rw [TypeExpr.AllLeaves] at ht
    simp only [TypeExpr.mapLeaves, h.typeExprWhere arg ht.1, h.typeExprWhere ret ht.2]
  | .tuple ts, ht => by
    rw [TypeExpr.AllLeaves] at ht
    simp only [TypeExpr.mapLeaves, h.typesWhere ts ht]
  | .constr path args, ht => by
    rw [TypeExpr.AllLeaves] at ht
    rw [TypeExpr.mapLeaves, h.constr path _ ht.1, h.typesWhere args ht.2, TypeExpr.mapLeaves]
  | .variant _ es, ht => by
    rw [TypeExpr.AllLeaves] at ht
    simp only [TypeExpr.mapLeaves, h.elementsWhere es ht]
  | .object fs _, ht => by
    rw [TypeExpr.AllLeaves] at ht
    simp only [TypeExpr.mapLeaves, h.fieldsWhere fs ht]
  | .classRef path args, ht => by
    rw [TypeExpr.AllLeaves] at ht
    simp only [TypeExpr.mapLeaves, h.path path ht.1, h.typesWhere args ht.2]
  | .poly _ body, ht => by
    rw [TypeExpr.AllLeaves] at ht
    simp only [TypeExpr.mapLeaves, h.typeExprWhere body ht]
  | .package path cs, ht => by
    rw [TypeExpr.AllLeaves] at ht
    simp only [TypeExpr.mapLeaves, h.path path ht.1, h.packageWhere cs ht.2]

theorem typesWhere (h : Composes q first second both) : ∀ ts : List TypeExpr, AllTypes q ts →
    mapTypes second (mapTypes first ts) = mapTypes both ts
  | [], _ => by simp only [mapTypes]
  | t :: ts, hts => by
    rw [AllTypes] at hts
    simp only [mapTypes, h.typeExprWhere t hts.1, h.typesWhere ts hts.2]

theorem elementsWhere (h : Composes q first second both) :
    ∀ es : List VariantElement, AllElements q es →
    mapElements second (mapElements first es) = mapElements both es
  | [], _ => by simp only [mapElements]
  | .type t :: es, hes => by
    rw [AllElements] at hes
    simp only [mapElements, h.typeExprWhere t hes.1, h.elementsWhere es hes.2]
  | .constructor _ _ args :: es, hes => by
    rw [AllElements] at hes
    simp only [mapElements, h.typesWhere args hes.1, h.elementsWhere es hes.2]

theorem fieldsWhere (h : Composes q first second both) : ∀ fs : List ObjectField, AllFields q fs →
    mapFields second (mapFields first fs) = mapFields both fs
  | [], _ => by simp only [mapFields]
  | .method _ t :: fs, hfs => by
    rw [AllFields] at hfs
    simp only [mapFields, h.typeExprWhere t hfs.1, h.fieldsWhere fs hfs.2]
  | .inherit t :: fs, hfs => by
    rw [AllFields] at hfs
    simp only [mapFields, h.typeExprWhere t hfs.1, h.fieldsWhere fs hfs.2]

theorem packageWhere (h : Composes q first second both) :
    ∀ cs : List PackageConstraint, AllPackage q cs →
    mapConstraints second (mapConstraints first cs) = mapConstraints both cs
  | [], _ => by simp only [mapConstraints]
  | ⟨_, t⟩ :: cs, hcs => by
    rw [AllPackage] at hcs
    simp only [mapConstraints, h.typeExprWhere t hcs.1, h.packageWhere cs hcs.2]

end

end Types

section Signatures

variable {first second both : LeafMap}

theorem anyPath (h : ComposesAll first second both) (p : Path) :
    second.path (first.path p) = both.path p := h.path p trivial

theorem typeExpr (h : ComposesAll first second both) (t : TypeExpr) :
    (t.mapLeaves first).mapLeaves second = t.mapLeaves both :=
  h.typeExprWhere t ((LeafTest.typeExpr_iff t).mpr fun _ _ => trivial)

theorem typeEquation (h : ComposesAll first second both) (eq : TypeEquation) :
    (eq.mapLeaves first).mapLeaves second = eq.mapLeaves both := by
  have hpair (c : TypeExpr × TypeExpr) :
      ((c.1.mapLeaves first).mapLeaves second, (c.2.mapLeaves first).mapLeaves second) =
        (c.1.mapLeaves both, c.2.mapLeaves both) := by
    rw [h.typeExpr, h.typeExpr]
  simp only [TypeEquation.mapLeaves, optionMap_map_eq h.typeExpr]
  exact congrArg (TypeEquation.mk _ _ _) (map_map_eq hpair eq.constraints)

theorem field (h : ComposesAll first second both) (f : Field) :
    (f.mapLeaves first).mapLeaves second = f.mapLeaves both := by
  simp only [Field.mapLeaves, h.ident, h.typeExpr]

theorem constructorArgs (h : ComposesAll first second both) (args : ConstructorArgs) :
    (args.mapLeaves first).mapLeaves second = args.mapLeaves both := by
  cases args with
  | tuple ts => exact congrArg _ (map_map_eq h.typeExpr ts)
  | record fs => exact congrArg _ (map_map_eq h.field fs)

theorem constructor (h : ComposesAll first second both) (c : Constructor) :
    (c.mapLeaves first).mapLeaves second = c.mapLeaves both := by
  simp only [Constructor.mapLeaves, h.ident, h.constructorArgs, optionMap_map_eq h.typeExpr]

theorem typeRepr (h : ComposesAll first second both) (repr : TypeRepr) :
    (repr.mapLeaves first).mapLeaves second = repr.mapLeaves both := by
  cases repr with
  | variant cs => exact congrArg _ (map_map_eq h.constructor cs)
  | record fs => exact congrArg _ (map_map_eq h.field fs)
  | extensible => rfl

theorem typeDecl (h : ComposesAll first second both) (t : TypeDecl) :
    (t.mapLeaves first).mapLeaves second = t.mapLeaves both := by
  simp only [TypeDecl.mapLeaves, h.ident, h.typeEquation, optionMap_map_eq h.typeRepr]

theorem value (h : ComposesAll first second both) (v : Value) :
    (v.mapLeaves first).mapLeaves second = v.mapLeaves both := by
  simp only [Value.mapLeaves, h.ident, h.typeExpr]

theorem external (h : ComposesAll first second both) (x : External) :
    (x.mapLeaves first).mapLeaves second = x.mapLeaves both := by
  simp only [External.mapLeaves, h.ident, h.typeExpr]

theorem extension (h : ComposesAll first second both) (x : Extension) :
    (x.mapLeaves first).mapLeaves second = x.mapLeaves both := by
  simp only [Extension.mapLeaves, h.anyPath, map_map_eq h.constructor]

mutual

theorem classTypeExpr (h : ComposesAll first second both) : ∀ expr : ClassTypeExpr,
    (expr.mapLeaves first).mapLeaves second = expr.mapLeaves both
  | .constr _ args => by
    simp only [ClassTypeExpr.mapLeaves, h.anyPath, map_map_eq h.typeExpr]
  | .signature sig => by simp only [ClassTypeExpr.mapLeaves, h.classSignature sig]

theorem classSignature (h : ComposesAll first second both) : ∀ sig : ClassSignature,
    (sig.mapLeaves first).mapLeaves second = sig.mapLeaves both
  | ⟨_, items⟩ => by
    simp only [ClassSignature.mapLeaves, optionMap_map_eq h.typeExpr, h.classItems items]

theorem classItems (h : ComposesAll first second both) : ∀ items : List ClassItem,
    mapClassItems second (mapClassItems first items) = mapClassItems both items
  | [] => by simp only [mapClassItems]
  | item :: items => by simp only [mapClassItems, h.classItem item, h.classItems items]

theorem classItem (h : ComposesAll first second both) : ∀ item : ClassItem,
    (item.mapLeaves first).mapLeaves second = item.mapLeaves both
  | .method m => by simp only [ClassItem.mapLeaves, h.ident, h.typeExpr]
  | .instanceVariable v => by simp only [ClassItem.mapLeaves, h.ident, h.typeExpr]
  | .constraint lhs rhs => by simp only [ClassItem.mapLeaves, h.typeExpr]
  | .inherit expr => by simp only [ClassItem.mapLeaves, h.classTypeExpr expr]
  | .comment _ => by simp only [ClassItem.mapLeaves]

end

theorem classDecl (h : ComposesAll first second both) (decl : ClassDecl) :
    (decl.mapLeaves first).mapLeaves second = decl.mapLeaves both := by
  induction decl with
  | classType expr => simp only [ClassDecl.mapLeaves, h.classTypeExpr]
  | arrow label arg decl ih => simp only [ClassDecl.mapLeaves, h.typeExpr, ih]

theorem typeOfOrigin (h : ComposesAll first second both) (origin : TypeOfOrigin) :
    (origin.mapPath first.path).mapPath second.path = origin.mapPath both.path := by
  cases origin <;> simp only [TypeOfOrigin.mapPath, h.anyPath]

mutual

theorem signature (h : ComposesAll first second both) : ∀ sig : Signature,
    (sig.mapLeaves first).mapLeaves second = sig.mapLeaves both
  | ⟨is, _, _⟩ => by simp only [Signature.mapLeaves, h.items is]

theorem items (h : ComposesAll first second both) :
    ∀ is : List Item, mapItems second (mapItems first is) = mapItems both is
  | [] => by simp only [mapItems]
  | i :: is => by simp only [mapItems, h.item i, h.items is]

theorem item (h : ComposesAll first second both) :
    ∀ i : Item, (i.mapLeaves first).mapLeaves second = i.mapLeaves both
  | .module m => by simp only [Item.mapLeaves, h.module m]
  | .moduleSubstitution m => by simp only [Item.mapLeaves, h.ident, h.anyPath]
  | .moduleType m => by simp only [Item.mapLeaves, h.moduleType m]
  | .type t => by simp only [Item.mapLeaves, h.typeDecl]
  | .typeSubstitution t => by simp only [Item.mapLeaves, h.typeDecl]
  | .value v => by simp only [Item.mapLeaves, h.value]
  | .external x => by simp only [Item.mapLeaves, h.external]
  | .classDecl c => by
    simp only [Item.mapLeaves, Class.mapLeaves, h.ident, h.classDecl,
      optionMap_map_eq h.classSignature]
  | .classType c => by
    simp only [Item.mapLeaves, ClassType.mapLeaves, h.ident, h.classTypeExpr,
      optionMap_map_eq h.classSignature]
  | .extension x => by simp only [Item.mapLeaves, h.extension]
  | .exception c => by simp only [Item.mapLeaves, h.constructor]
  | .included i => by simp only [Item.mapLeaves, h.included i]
  | .opened _ content => by simp only [Item.mapLeaves, h.signature content]
  | .comment _ => by simp only [Item.mapLeaves]

theorem module (h : ComposesAll first second both) :
    ∀ m : Module, (m.mapLeaves first).mapLeaves second = m.mapLeaves both
  | ⟨_, _, decl, _⟩ => by simp only [Module.mapLeaves, h.ident, h.moduleDecl decl]

theorem moduleDecl (h : ComposesAll first second both) : ∀ decl : ModuleDecl,
    (decl.mapLeaves first).mapLeaves second = decl.mapLeaves both
  | .aliasOf _ stored => by simp only [ModuleDecl.mapLeaves, h.anyPath, h.expansion stored]
  | .typed expr => by simp only [ModuleDecl.mapLeaves, h.moduleTypeExpr expr]

theorem moduleType (h : ComposesAll first second both) :
    ∀ m : ModuleType, (m.mapLeaves first).mapLeaves second = m.mapLeaves both
  | ⟨_, _, none⟩ => by simp only [ModuleType.mapLeaves, h.ident]
  | ⟨_, _, some expr⟩ => by simp only [ModuleType.mapLeaves, h.ident, h.moduleTypeExpr expr]

theorem expansion (h : ComposesAll first second both) : ∀ stored : Option StoredExpansion,
    mapExpansion second (mapExpansion first stored) = mapExpansion both stored
  | none => by simp only [mapExpansion]
  | some stored => by simp only [mapExpansion, h.storedExpansion stored]

theorem storedExpansion (h : ComposesAll first second both) : ∀ stored : StoredExpansion,
    (stored.mapLeaves first).mapLeaves second = stored.mapLeaves both
  | .signature sig => by simp only [StoredExpansion.mapLeaves, h.signature sig]
  | .functor param body => by
    simp only [StoredExpansion.mapLeaves, h.functorParameter param, h.storedExpansion body]

theorem functorParameter (h : ComposesAll first second both) : ∀ param : FunctorParameter,
    (param.mapLeaves first).mapLeaves second = param.mapLeaves both
  | .unit => by simp only [FunctorParameter.mapLeaves]
  | .named _ expr => by simp only [FunctorParameter.mapLeaves, h.ident, h.moduleTypeExpr expr]

theorem moduleTypeExpr (h : ComposesAll first second both) : ∀ expr : ModuleTypeExpr,
    (expr.mapLeaves first).mapLeaves second = expr.mapLeaves both
  | .path _ stored => by simp only [ModuleTypeExpr.mapLeaves, h.anyPath, h.expansion stored]
  | .signature sig => by simp only [ModuleTypeExpr.mapLeaves, h.signature sig]
  | .functor param body => by
    simp only [ModuleTypeExpr.mapLeaves, h.functorParameter param, h.moduleTypeExpr body]
  | .constrained cs base stored => by
    simp only [ModuleTypeExpr.mapLeaves, h.constraints cs, h.signatureExpr base, h.expansion stored]
  | .typeOf origin stored => by
    simp only [ModuleTypeExpr.mapLeaves, h.typeOfOrigin, h.expansion stored]

theorem signatureExpr (h : ComposesAll first second both) : ∀ expr : SignatureExpr,
    (expr.mapLeaves first).mapLeaves second = expr.mapLeaves both
  | .path _ => by simp only [SignatureExpr.mapLeaves, h.anyPath]
  | .signature sig => by simp only [SignatureExpr.mapLeaves, h.signature sig]
  | .constrained cs base => by
    simp only [SignatureExpr.mapLeaves, h.constraints cs, h.signatureExpr base]
  | .typeOf origin => by simp only [SignatureExpr.mapLeaves, h.typeOfOrigin]

theorem constraints (h : ComposesAll first second both) : ∀ cs : List Constraint,
    mapWith second (mapWith first cs) = mapWith both cs
  | [] => by simp only [mapWith]
  | c :: cs => by simp only [mapWith, h.constraint c, h.constraints cs]

theorem constraint (h : ComposesAll first second both) :
    ∀ c : Constraint, (c.mapLeaves first).mapLeaves second = c.mapLeaves both
  | .moduleEq _ decl => by simp only [Constraint.mapLeaves, h.moduleDecl decl]
  | .moduleSubst _ _ => by simp only [Constraint.mapLeaves, h.anyPath]
  | .typeEq _ eq => by simp only [Constraint.mapLeaves, h.typeEquation]
  | .typeSubst _ eq => by simp only [Constraint.mapLeaves, h.typeEquation]

theorem included (h : ComposesAll first second both) :
    ∀ i : Include, (i.mapLeaves first).mapLeaves second = i.mapLeaves both
  | ⟨_, _, decl, _, _, content⟩ => by
    simp only [Include.mapLeaves, h.ident, h.includeDecl decl, optionMap_map_eq h.anyPath,
      h.signature content]

theorem includeDecl (h : ComposesAll first second both) : ∀ decl : IncludeDecl,
    (decl.mapLeaves first).mapLeaves second = decl.mapLeaves both
  | .aliasOf _ => by simp only [IncludeDecl.mapLeaves, h.anyPath]
  | .typed expr => by simp only [IncludeDecl.mapLeaves, h.signatureExpr expr]

end

end Signatures

end LeafMap.Composes

end CrossRef
