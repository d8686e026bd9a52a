import Mathlib.Data.Option.Basic
import CrossRef.Proofs.Signature.Leaves

/-! Maps on leaves and tests on leaves. A map that takes good leaves to good expressions takes good
signatures to good signatures. -/

namespace CrossRef

/-- Leaves that pass `q` become leaves, or whole expressions, that pass `q'`. -/
structure LeafMap.Carries (r : LeafMap) (q q' : LeafTest) : Prop where
  path : ∀ p, q.path p → q'.path (r.path p)
  var : ∀ name, (r.var name).AllLeaves q'
  constr : ∀ p args, q.constr p → AllTypes q' args → (r.constr p args).AllLeaves q'

namespace LeafMap.Carries

variable {r : LeafMap} {q q' : LeafTest}

mutual

theorem typeExpr (h : r.Carries q q') : ∀ t : TypeExpr, t.AllLeaves q → (t.mapLeaves r).AllLeaves q'
  | .var name, _ => by
    rw [TypeExpr.mapLeaves]
    exact h.var name
  | .any, _ => by
    rw [TypeExpr.mapLeaves, TypeExpr.AllLeaves]
    trivial
  | .arrow _ arg ret, ht => by
    rw [TypeExpr.mapLeaves, TypeExpr.AllLeaves]
    rw [TypeExpr.AllLeaves] at ht
    exact ⟨h.typeExpr arg ht.1, h.typeExpr ret ht.2⟩
  | .tuple ts, ht => by
    rw [TypeExpr.mapLeaves, TypeExpr.AllLeaves]
    rw [TypeExpr.AllLeaves] at ht
    exact h.types ts ht
  | .constr path args, ht => by
    rw [TypeExpr.mapLeaves]
    rw [TypeExpr.AllLeaves] at ht
    exact h.constr path _ ht.1 (h.types args ht.2)
  | .variant _ es, ht => by
    rw [TypeExpr.mapLeaves, TypeExpr.AllLeaves]
    rw [TypeExpr.AllLeaves] at ht
    exact h.elements es ht
  | .object fs _, ht => by
    rw [TypeExpr.mapLeaves, TypeExpr.AllLeaves]
    rw [TypeExpr.AllLeaves] at ht
    exact h.fields fs ht
  | .classRef path args, ht => by
    rw [TypeExpr.mapLeaves, TypeExpr.AllLeaves]
    rw [TypeExpr.AllLeaves] at ht
    exact ⟨h.path path ht.1, h.types args ht.2⟩
  | .poly _ body, ht => by
    rw [TypeExpr.mapLeaves, TypeExpr.AllLeaves]
    rw [TypeExpr.AllLeaves] at ht
    exact h.typeExpr body ht
  | .package path cs, ht => by
    rw [TypeExpr.mapLeaves, TypeExpr.AllLeaves]
    rw [TypeExpr.AllLeaves] at ht
    exact ⟨h.path path ht.1, h.package cs ht.2⟩

theorem types (h : r.Carries q q') :
    ∀ ts : List TypeExpr, AllTypes q ts → AllTypes q' (mapTypes r ts)
  | [], _ => trivial
  | t :: ts, hts => by
    rw [mapTypes, AllTypes]
    rw [AllTypes] at hts
    exact ⟨h.typeExpr t hts.1, h.types ts hts.2⟩

theorem elements (h : r.Carries q q') :
    ∀ es : List VariantElement, AllElements q es → AllElements q' (mapElements r es)
  | [], _ => trivial
  | .type t :: es, hes => by
    rw [mapElements, AllElements]
    rw [AllElements] at hes
    exact ⟨h.typeExpr t hes.1, h.elements es hes.2⟩
  | .constructor _ _ args :: es, hes => by
    rw [mapElements, AllElements]
    rw [AllElements] at hes
    exact ⟨h.types args hes.1, h.elements es hes.2⟩

theorem fields (h : r.Carries q q') :
    ∀ fs : List ObjectField, AllFields q fs → AllFields q' (mapFields r fs)
  | [], _ => trivial
  | .method _ t :: fs, hfs => by
    rw [mapFields, AllFields]
    rw [AllFields] at hfs
    exact ⟨h.typeExpr t hfs.1, h.fields fs hfs.2⟩
  | .inherit t :: fs, hfs => by
    rw [mapFields, AllFields]
    rw [AllFields] at hfs
    exact ⟨h.typeExpr t hfs.1, h.fields fs hfs.2⟩

theorem package (h : r.Carries q q') :
    ∀ cs : List PackageConstraint, AllPackage q cs → AllPackage q' (mapConstraints r cs)
  | [], _ => trivial
  | ⟨_, t⟩ :: cs, hcs => by
    rw [mapConstraints, AllPackage]
    rw [AllPackage] at hcs
    exact ⟨h.typeExpr t hcs.1, h.package cs hcs.2⟩

end

theorem optionalType (h : r.Carries q q') {t : Option TypeExpr} (ht : ∀ t' ∈ t, t'.AllLeaves q) :
    ∀ t' ∈ t.map (·.mapLeaves r), t'.AllLeaves q' :=
  Option.forall_mem_map.mpr fun t' hmem => h.typeExpr t' (ht t' hmem)

theorem typeEquation (h : r.Carries q q') (eq : TypeEquation) (heq : eq.AllLeaves q) :
    (eq.mapLeaves r).AllLeaves q' := by
  refine ⟨h.optionalType heq.1, List.forall_mem_map.mpr fun c hmem => ?_⟩
  obtain ⟨hl, ht⟩ := heq.2 c hmem
  exact ⟨h.typeExpr c.1 hl, h.typeExpr c.2 ht⟩

theorem record (h : r.Carries q q') (fs : List Field) (hfs : ∀ f ∈ fs, f.type.AllLeaves q) :
    ∀ f ∈ fs.map (·.mapLeaves r), f.type.AllLeaves q' :=
  List.forall_mem_map.mpr fun f hmem => h.typeExpr f.type (hfs f hmem)

theorem constructorArgs (h : r.Carries q q') (args : ConstructorArgs) (hargs : args.AllLeaves q) :
    (args.mapLeaves r).AllLeaves q' := by
  cases args with
  | tuple ts => exact List.forall_mem_map.mpr fun t hmem => h.typeExpr t (hargs t hmem)
  | record fs => exact h.record fs hargs

theorem constructor (h : r.Carries q q') (c : Constructor) (hc : c.AllLeaves q) :
    (c.mapLeaves r).AllLeaves q' :=
  ⟨h.constructorArgs c.args hc.1, h.optionalType hc.2⟩

theorem constructors (h : r.Carries q q') (cs : List Constructor) (hcs : ∀ c ∈ cs, c.AllLeaves q) :
    ∀ c ∈ cs.map (·.mapLeaves r), c.AllLeaves q' :=
  List.forall_mem_map.mpr fun c hmem => h.constructor c (hcs c hmem)

theorem typeRepr (h : r.Carries q q') (repr : TypeRepr) (hrepr : repr.AllLeaves q) :
    (repr.mapLeaves r).AllLeaves q' := by
  cases repr with
  | variant cs => exact h.constructors cs hrepr
  | record fs => exact h.record fs hrepr
  | extensible => trivial

theorem typeDecl (h : r.Carries q q') (t : TypeDecl) (ht : t.AllLeaves q) :
    (t.mapLeaves r).AllLeaves q' := by
  refine ⟨h.typeEquation t.equation ht.1, Option.forall_mem_map.mpr fun repr hmem => ?_⟩
  exact h.typeRepr repr (ht.2 repr hmem)

theorem extension (h : r.Carries q q') (x : Extension) (hx : x.AllLeaves q) :
    (x.mapLeaves r).AllLeaves q' :=
  ⟨h.path _ hx.1, h.constructors x.constructors hx.2⟩

mutual

theorem classTypeExpr (h : r.Carries q q') :
    ∀ expr : ClassTypeExpr, expr.AllLeaves q → (expr.mapLeaves r).AllLeaves q'
  | .constr path args, hexpr => by
    rw [ClassTypeExpr.mapLeaves, ClassTypeExpr.AllLeaves]
    rw [ClassTypeExpr.AllLeaves] at hexpr
    refine ⟨h.path path hexpr.1, List.forall_mem_map.mpr fun t hmem => ?_⟩
    exact h.typeExpr t (hexpr.2 t hmem)
  | .signature sig, hexpr => by
    rw [ClassTypeExpr.mapLeaves, ClassTypeExpr.AllLeaves]
    rw [ClassTypeExpr.AllLeaves] at hexpr
    exact h.classSignature sig hexpr

theorem classSignature (h : r.Carries q q') :
    ∀ sig : ClassSignature, sig.AllLeaves q → (sig.mapLeaves r).AllLeaves q'
  | ⟨self, items⟩, hsig => by
    rw [ClassSignature.mapLeaves, ClassSignature.AllLeaves]
    rw [ClassSignature.AllLeaves] at hsig
    exact ⟨h.optionalType hsig.1, h.classItems items hsig.2⟩

theorem classItems (h : r.Carries q q') :
    ∀ items : List ClassItem, AllClassItems q items → AllClassItems q' (mapClassItems r items)
  | [], _ => by
    rw [mapClassItems, AllClassItems]
    trivial
  | item :: items, hitems => by
    rw [mapClassItems, AllClassItems]
    rw [AllClassItems] at hitems
    exact ⟨h.classItem item hitems.1, h.classItems items hitems.2⟩

theorem classItem (h : r.Carries q q') :
    ∀ item : ClassItem, item.AllLeaves q → (item.mapLeaves r).AllLeaves q'
  | .method m, hitem => by
    rw [ClassItem.mapLeaves, ClassItem.AllLeaves]
    rw [ClassItem.AllLeaves] at hitem
    exact h.typeExpr m.type hitem
  | .instanceVariable v, hitem => by
    rw [ClassItem.mapLeaves, ClassItem.AllLeaves]
    rw [ClassItem.AllLeaves] at hitem
    exact h.typeExpr v.type hitem
  | .constraint lhs rhs, hitem => by
    rw [ClassItem.mapLeaves, ClassItem.AllLeaves]
    rw [ClassItem.AllLeaves] at hitem
    exact ⟨h.typeExpr lhs hitem.1, h.typeExpr rhs hitem.2⟩
  | .inherit expr, hitem => by
    rw [ClassItem.mapLeaves, ClassItem.AllLeaves]
    rw [ClassItem.AllLeaves] at hitem
    exact h.classTypeExpr expr hitem
  | .comment _, _ => by
    rw [ClassItem.mapLeaves, ClassItem.AllLeaves]
    trivial

end

theorem classDecl (h : r.Carries q q') (decl : ClassDecl) (hdecl : decl.AllLeaves q) :
    (decl.mapLeaves r).AllLeaves q' := by
  induction decl with
  | classType expr => exact h.classTypeExpr expr hdecl
  | arrow label arg decl ih => exact ⟨h.typeExpr arg hdecl.1, ih hdecl.2⟩

theorem classExpansion (h : r.Carries q q') {expansion : Option ClassSignature}
    (hexpansion : ∀ sig ∈ expansion, sig.AllLeaves q) :
    ∀ sig ∈ expansion.map (·.mapLeaves r), sig.AllLeaves q' :=
  Option.forall_mem_map.mpr fun sig hmem => h.classSignature sig (hexpansion sig hmem)

mutual

theorem signature (h : r.Carries q q') :
    ∀ sig : Signature, sig.AllLeaves q → (sig.mapLeaves r).AllLeaves q'
  | ⟨is, _, _⟩, hsig => by
    rw [Signature.mapLeaves, Signature.AllLeaves]
    rw [Signature.AllLeaves] at hsig
    exact h.items is hsig

theorem items (h : r.Carries q q') : ∀ is : List Item, AllItems q is → AllItems q' (mapItems r is)
  | [], _ => by
    rw [mapItems, AllItems]
    trivial
  | i :: is, his => by
    rw [mapItems, AllItems]
    rw [AllItems] at his
    exact ⟨h.item i his.1, h.items is his.2⟩

theorem item (h : r.Carries q q') : ∀ i : Item, i.AllLeaves q → (i.mapLeaves r).AllLeaves q'
  | .module m, hi => by
    rw [Item.mapLeaves, Item.AllLeaves]
    rw [Item.AllLeaves] at hi
    exact h.module m hi
  | .moduleSubstitution m, hi => by
    rw [Item.mapLeaves, Item.AllLeaves]
    rw [Item.AllLeaves] at hi
    exact h.path m.manifest hi
  | .moduleType m, hi => by
    rw [Item.mapLeaves, Item.AllLeaves]
    rw [Item.AllLeaves] at hi
    exact h.moduleType m hi
  | .type t, hi => by
    rw [Item.mapLeaves, Item.AllLeaves]
    rw [Item.AllLeaves] at hi
    exact h.typeDecl t hi
  | .typeSubstitution t, hi => by
    rw [Item.mapLeaves, Item.AllLeaves]
    rw [Item.AllLeaves] at hi
    exact h.typeDecl t hi
  | .value v, hi => by
    rw [Item.mapLeaves, Item.AllLeaves]
    rw [Item.AllLeaves] at hi
    exact h.typeExpr v.type hi
  | .external x, hi => by
    rw [Item.mapLeaves, Item.AllLeaves]
    rw [Item.AllLeaves] at hi
    exact h.typeExpr x.type hi
  | .classDecl c, hi => by
    rw [Item.mapLeaves, Item.AllLeaves]
    rw [Item.AllLeaves] at hi
    exact ⟨h.classDecl c.decl hi.1, h.classExpansion hi.2⟩
  | .classType c, hi => by
    rw [Item.mapLeaves, Item.AllLeaves]
    rw [Item.AllLeaves] at hi
    exact ⟨h.classTypeExpr c.expr hi.1, h.classExpansion hi.2⟩
  | .extension x, hi => by
    rw [Item.mapLeaves, Item.AllLeaves]
    rw [Item.AllLeaves] at hi
    exact h.extension x hi
  | .exception c, hi => by
    rw [Item.mapLeaves, Item.AllLeaves]
    rw [Item.AllLeaves] at hi
    exact h.constructor c hi
  | .included i, hi => by
    rw [Item.mapLeaves, Item.AllLeaves]
    rw [Item.AllLeaves] at hi
    exact h.included i hi
  | .opened _ content, hi => by
    rw [Item.mapLeaves, Item.AllLeaves]
    rw [Item.AllLeaves] at hi
    exact h.signature content hi
  | .comment _, _ => by
    rw [Item.mapLeaves, Item.AllLeaves]
    trivial

theorem module (h : r.Carries q q') : ∀ m : Module, m.AllLeaves q → (m.mapLeaves r).AllLeaves q'
  | ⟨_, _, decl, _⟩, hm => by
    rw [Module.mapLeaves, Module.AllLeaves]
    rw [Module.AllLeaves] at hm
    exact h.moduleDecl decl hm

theorem moduleDecl (h : r.Carries q q') :
    ∀ decl : ModuleDecl, decl.AllLeaves q → (decl.mapLeaves r).AllLeaves q'
  | .aliasOf path stored, hdecl => by
    rw [ModuleDecl.mapLeaves, ModuleDecl.AllLeaves]
    rw [ModuleDecl.AllLeaves] at hdecl
    exact ⟨h.path path hdecl.1, h.expansion stored hdecl.2⟩
  | .typed expr, hdecl => by
    rw [ModuleDecl.mapLeaves, ModuleDecl.AllLeaves]
    rw [ModuleDecl.AllLeaves] at hdecl
    exact h.moduleTypeExpr expr hdecl

theorem moduleType (h : r.Carries q q') :
    ∀ m : ModuleType, m.AllLeaves q → (m.mapLeaves r).AllLeaves q'
  | ⟨_, _, none⟩, _ => by
    rw [ModuleType.mapLeaves, ModuleType.AllLeaves]
    trivial
  | ⟨_, _, some expr⟩, hm => by
    rw [ModuleType.mapLeaves, ModuleType.AllLeaves]
    rw [ModuleType.AllLeaves] at hm
    exact h.moduleTypeExpr expr hm

theorem expansion (h : r.Carries q q') :
    ∀ stored : Option StoredExpansion, AllExpansion q stored →
      AllExpansion q' (mapExpansion r stored)
  | none, _ => by
    rw [mapExpansion, AllExpansion]
    trivial
  | some stored, hstored => by
    rw [mapExpansion, AllExpansion]
    rw [AllExpansion] at hstored
    exact h.storedExpansion stored hstored

theorem storedExpansion (h : r.Carries q q') :
    ∀ stored : StoredExpansion, stored.AllLeaves q → (stored.mapLeaves r).AllLeaves q'
  | .signature sig, hstored => by
    rw [StoredExpansion.mapLeaves, StoredExpansion.AllLeaves]
    rw [StoredExpansion.AllLeaves] at hstored
    exact h.signature sig hstored
  | .functor param body, hstored => by
    rw [StoredExpansion.mapLeaves, StoredExpansion.AllLeaves]
    rw [StoredExpansion.AllLeaves] at hstored
    exact ⟨h.functorParameter param hstored.1, h.storedExpansion body hstored.2⟩

theorem functorParameter (h : r.Carries q q') :
    ∀ param : FunctorParameter, param.AllLeaves q → (param.mapLeaves r).AllLeaves q'
  | .unit, _ => by
    rw [FunctorParameter.mapLeaves, FunctorParameter.AllLeaves]
    trivial
  | .named _ expr, hparam => by
    rw [FunctorParameter.mapLeaves, FunctorParameter.AllLeaves]
    rw [FunctorParameter.AllLeaves] at hparam
    exact h.moduleTypeExpr expr hparam

theorem moduleTypeExpr (h : r.Carries q q') :
    ∀ expr : ModuleTypeExpr, expr.AllLeaves q → (expr.mapLeaves r).AllLeaves q'
  | .path path stored, hexpr => by
    rw [ModuleTypeExpr.mapLeaves, ModuleTypeExpr.AllLeaves]
    rw [ModuleTypeExpr.AllLeaves] at hexpr
    exact ⟨h.path path hexpr.1, h.expansion stored hexpr.2⟩
  | .signature sig, hexpr => by
    rw [ModuleTypeExpr.mapLeaves, ModuleTypeExpr.AllLeaves]
    rw [ModuleTypeExpr.AllLeaves] at hexpr
    exact h.signature sig hexpr
  | .functor param body, hexpr => by
    rw [ModuleTypeExpr.mapLeaves, ModuleTypeExpr.AllLeaves]
    rw [ModuleTypeExpr.AllLeaves] at hexpr
    exact ⟨h.functorParameter param hexpr.1, h.moduleTypeExpr body hexpr.2⟩
  | .constrained cs base stored, hexpr => by
    rw [ModuleTypeExpr.mapLeaves, ModuleTypeExpr.AllLeaves]
    rw [ModuleTypeExpr.AllLeaves] at hexpr
    obtain ⟨hcs, hbase, hstored⟩ := hexpr
    exact ⟨h.constraints cs hcs, h.signatureExpr base hbase, h.expansion stored hstored⟩
  | .typeOf origin stored, hexpr => by
    rw [ModuleTypeExpr.mapLeaves, ModuleTypeExpr.AllLeaves]
    rw [ModuleTypeExpr.AllLeaves] at hexpr
    refine ⟨?_, h.expansion stored hexpr.2⟩
    cases origin with
    | moduleType path => exact h.path path hexpr.1
    | structInclude path => exact h.path path hexpr.1

theorem signatureExpr (h : r.Carries q q') :
    ∀ expr : SignatureExpr, expr.AllLeaves q → (expr.mapLeaves r).AllLeaves q'
  | .path path, hexpr => by
    rw [SignatureExpr.mapLeaves, SignatureExpr.AllLeaves]
    rw [SignatureExpr.AllLeaves] at hexpr
    exact h.path path hexpr
  | .signature sig, hexpr => by
    rw [SignatureExpr.mapLeaves, SignatureExpr.AllLeaves]
    rw [SignatureExpr.AllLeaves] at hexpr
    exact h.signature sig hexpr
  | .constrained cs base, hexpr => by
    rw [SignatureExpr.mapLeaves, SignatureExpr.AllLeaves]
    rw [SignatureExpr.AllLeaves] at hexpr
    exact ⟨h.constraints cs hexpr.1, h.signatureExpr base hexpr.2⟩
  | .typeOf origin, hexpr => by
    rw [SignatureExpr.mapLeaves, SignatureExpr.AllLeaves]
    rw [SignatureExpr.AllLeaves] at hexpr
    cases origin with
    | moduleType path => exact h.path path hexpr
    | structInclude path => exact h.path path hexpr

theorem constraints (h : r.Carries q q') :
    ∀ cs : List Constraint, AllConstraints q cs → AllConstraints q' (mapWith r cs)
  | [], _ => by
    rw [mapWith, AllConstraints]
    trivial
  | c :: cs, hcs => by
    rw [mapWith, AllConstraints]
    rw [AllConstraints] at hcs
    exact ⟨h.constraint c hcs.1, h.constraints cs hcs.2⟩

theorem constraint (h : r.Carries q q') :
    ∀ c : Constraint, c.AllLeaves q → (c.mapLeaves r).AllLeaves q'
  | .moduleEq _ decl, hc => by
    rw [Constraint.mapLeaves, Constraint.AllLeaves]
    rw [Constraint.AllLeaves] at hc
    exact h.moduleDecl decl hc
  | .moduleSubst _ path, hc => by
    rw [Constraint.mapLeaves, Constraint.AllLeaves]
    rw [Constraint.AllLeaves] at hc
    exact h.path path hc
  | .typeEq _ eq, hc => by
    rw [Constraint.mapLeaves, Constraint.AllLeaves]
    rw [Constraint.AllLeaves] at hc
    exact h.typeEquation eq hc
  | .typeSubst _ eq, hc => by
    rw [Constraint.mapLeaves, Constraint.AllLeaves]
    rw [Constraint.AllLeaves] at hc
    exact h.typeEquation eq hc

theorem included (h : r.Carries q q') : ∀ i : Include, i.AllLeaves q → (i.mapLeaves r).AllLeaves q'
  | ⟨_, _, decl, strengthened, _, content⟩, hi => by
    rw [Include.mapLeaves, Include.AllLeaves]
    rw [Include.AllLeaves] at hi
    obtain ⟨hdecl, hstrengthened, hcontent⟩ := hi
    refine ⟨h.includeDecl decl hdecl, Option.forall_mem_map.mpr fun path hmem => ?_,
      h.signature content hcontent⟩
    exact h.path path (hstrengthened path hmem)

theorem includeDecl (h : r.Carries q q') :
    ∀ decl : IncludeDecl, decl.AllLeaves q → (decl.mapLeaves r).AllLeaves q'
  | .aliasOf path, hdecl => by
    rw [IncludeDecl.mapLeaves, IncludeDecl.AllLeaves]
    rw [IncludeDecl.AllLeaves] at hdecl
    exact h.path path hdecl
  | .typed expr, hdecl => by
    rw [IncludeDecl.mapLeaves, IncludeDecl.AllLeaves]
    rw [IncludeDecl.AllLeaves] at hdecl
    exact h.signatureExpr expr hdecl

end

end LeafMap.Carries

theorem LeafMap.Carries.all_signatures {r : LeafMap} {q : LeafTest}
    (h : r.Carries (.ofPath fun _ => True) q) (sig : Signature) : (sig.mapLeaves r).AllLeaves q :=
  h.signature sig ((LeafTest.signature_iff sig).mpr fun _ _ => trivial)

end CrossRef
