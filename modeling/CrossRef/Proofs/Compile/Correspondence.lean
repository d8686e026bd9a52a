import CrossRef.Compile
import CrossRef.Proofs.Lookup.Correspondence

/-! Two passes side by side. What corresponding lookups keep is kept by everything the pass does
with their outcomes. -/

namespace CrossRef

open PassM

/-- A relation between computations of the pass, on top of one between lookups. An attempted lookup
goes on with its result or with a failure other than a failed fetch, and only such failures are
reported. -/
structure PassRel where
  lookups : LookupRel
  rel : {α : Type} → PassM α → PassM α → Prop
  rel_pure : ∀ {α : Type} (a : α), rel (pure a) (pure a)
  rel_bind : ∀ {α β : Type} {x y : PassM α} {f g : α → PassM β},
    rel x y → (∀ a, rel (f a) (g a)) → rel (x >>= f) (y >>= g)
  rel_attempt : ∀ {α β : Type} {x y : LookupM α} {f g : Except ResolveError α → PassM β},
    lookups.rel x y → (∀ a, rel (f (.ok a)) (g (.ok a))) →
    (∀ error, error.fetch? = none → rel (f (.error error)) (g (.error error))) →
    rel (attempt x >>= f) (attempt y >>= g)
  rel_file : ∀ report : Report, report.error.bind ResolveError.fetch? = none →
    rel (file report) (file report)
  rel_quietly : ∀ {α : Type} {x y : PassM α}, rel x y → rel x.quietly y.quietly

namespace PassRel

variable (R : PassRel)

theorem map {α β : Type} {x y : PassM α} (f : α → β) (h : R.rel x y) :
    R.rel (f <$> x) (f <$> y) := by
  rw [map_eq_pure_bind, map_eq_pure_bind]
  exact R.rel_bind h fun a => R.rel_pure (f a)

theorem rel_attempt? {α β : Type} {x y : LookupM α} {f g : Option α → PassM β}
    (h : R.lookups.rel x y) (hf : ∀ found, R.rel (f found) (g found)) :
    R.rel (attempt? x >>= f) (attempt? y >>= g) := by
  rw [attempt?, attempt?, bind_assoc, bind_assoc]
  simp only [pure_bind]
  exact R.rel_attempt h (fun a => hf (some a)) fun error _ => hf none

theorem addItem {e : Env} (item : Item) (he : R.lookups.env e e) :
    R.lookups.env (e.addItem item) (e.addItem item) := by
  rw [Env.addItem]
  split
  · exact R.lookups.env_push _ he
  · exact he

theorem addDocs {e : Env} (docs : Docs) (he : R.lookups.env e e) :
    R.lookups.env (e.addDocs docs) (e.addDocs docs) := by
  rw [Env.addDocs]
  split
  · exact he
  · exact R.lookups.env_push _ he

section Types

variable {R} {fuel fuel' : Nat} {e e' : Env}

section Lookups

variable (h : R.lookups.FuelRel fuel fuel') (he : R.lookups.env e e')

include h he

theorem resolve (kind : PathKind) (path : Path) :
    R.rel (Pass.resolve fuel e kind path) (Pass.resolve fuel' e' kind path) := by
  cases hpath : path.isResolved with
  | true =>
    cases path with
    | resolved p => exact R.rel_pure _
    | _ => cases hpath
  | false =>
    rw [Pass.resolve_unresolved fuel e kind hpath, Pass.resolve_unresolved fuel' e' kind hpath]
    exact R.rel_attempt (h.path he kind path) (fun _ => R.rel_pure _) fun _ _ => R.rel_pure _

theorem resolveOrReport (kind : PathKind) (construct : Construct) (parent : Identifier)
    (path : Path) :
    R.rel (Pass.resolveOrReport fuel e kind construct parent path)
      (Pass.resolveOrReport fuel' e' kind construct parent path) := by
  cases hpath : path.isResolved with
  | true =>
    cases path with
    | resolved p => exact R.rel_pure _
    | _ => cases hpath
  | false =>
    rw [Pass.resolveOrReport_unresolved fuel e kind construct parent hpath,
      Pass.resolveOrReport_unresolved fuel' e' kind construct parent hpath]
    refine R.rel_attempt (h.path he kind path) (fun _ => R.rel_pure _) fun error hsoft => ?_
    exact R.rel_bind (R.rel_file _ hsoft) fun _ => R.rel_pure _

theorem packageSignature (path : Path) :
    R.lookups.rel (Pass.packageSignature fuel e path) (Pass.packageSignature fuel' e' path) := by
  cases path with
  | resolved target =>
    exact R.lookups.rel_bind (h.moduleTypeExpansion he target) R.lookups.asSignature
  | root name => exact R.lookups.rel_fail _ rfl
  | dot parent name => exact R.lookups.rel_fail _ rfl
  | apply f a => exact R.lookups.rel_fail _ rfl

theorem packageRoot (parent : Identifier) (path : Path) :
    R.rel (Pass.packageRoot fuel e parent path) (Pass.packageRoot fuel' e' parent path) :=
  R.rel_attempt (packageSignature h he path) (fun _ => R.rel_pure _) fun _ hsoft =>
    R.rel_bind (R.rel_file _ hsoft) fun _ => R.rel_pure _

theorem packageFragment (parent : Identifier) (root : Option Signature) (f : Fragment) :
    R.rel (Pass.packageFragment fuel e parent root f)
      (Pass.packageFragment fuel' e' parent root f) := by
  cases root with
  | none => exact R.rel_pure _
  | some sig =>
    refine R.rel_attempt? (h.fragment (R.lookups.addFragmentRoot sig he) rfl .type f) fun found => ?_
    cases found with
    | some resolved => exact R.rel_pure _
    | none => exact R.rel_bind (R.rel_file _ rfl) fun _ => R.rel_pure _

end Lookups

mutual

theorem typeExpr (h : R.lookups.FuelRel fuel fuel') (he : R.lookups.env e e')
    (parent : Identifier) :
    ∀ t : TypeExpr, R.rel (t.compile fuel e parent) (t.compile fuel' e' parent)
  | .var name => R.rel_pure _
  | .any => R.rel_pure _
  | .arrow label arg ret => by
    rw [TypeExpr.compile, TypeExpr.compile]
    have harg := typeExpr h he parent arg
    have hret := typeExpr h he parent ret
    exact R.rel_bind harg fun _ => R.rel_bind hret fun _ => R.rel_pure _
  | .tuple types => by
    rw [TypeExpr.compile, TypeExpr.compile]
    exact R.rel_bind (types_rel h he parent types) fun _ => R.rel_pure _
  | .constr path args => by
    rw [TypeExpr.compile, TypeExpr.compile]
    have hpath := resolve h he .type path
    have hargs := types_rel h he parent args
    exact R.rel_bind hpath fun _ => R.rel_bind hargs fun _ => R.rel_pure _
  | .variant kind elements => by
    rw [TypeExpr.compile, TypeExpr.compile]
    exact R.rel_bind (elements_rel h he parent elements) fun _ => R.rel_pure _
  | .object fields isOpen => by
    rw [TypeExpr.compile, TypeExpr.compile]
    exact R.rel_bind (fields_rel h he parent fields) fun _ => R.rel_pure _
  | .classRef path args => by
    rw [TypeExpr.compile, TypeExpr.compile]
    have hpath := resolve h he .classType path
    have hargs := types_rel h he parent args
    exact R.rel_bind hpath fun _ => R.rel_bind hargs fun _ => R.rel_pure _
  | .poly vars body => by
    rw [TypeExpr.compile, TypeExpr.compile]
    exact R.rel_bind (typeExpr h he parent body) fun _ => R.rel_pure _
  | .package path constraints => by
    rw [TypeExpr.compile, TypeExpr.compile]
    exact R.rel_bind (resolve h he .moduleType path) fun path =>
      R.rel_bind (packageRoot h he parent path) fun root =>
        R.rel_bind (package_rel h he parent root constraints) fun _ => R.rel_pure _

theorem types_rel (h : R.lookups.FuelRel fuel fuel') (he : R.lookups.env e e')
    (parent : Identifier) :
    ∀ ts, R.rel (compileTypes fuel e parent ts) (compileTypes fuel' e' parent ts)
  | [] => R.rel_pure _
  | t :: ts => by
    rw [compileTypes, compileTypes]
    have ht := typeExpr h he parent t
    have hts := types_rel h he parent ts
    exact R.rel_bind ht fun _ => R.rel_bind hts fun _ => R.rel_pure _

theorem elements_rel (h : R.lookups.FuelRel fuel fuel') (he : R.lookups.env e e')
    (parent : Identifier) :
    ∀ es, R.rel (compileElements fuel e parent es) (compileElements fuel' e' parent es)
  | [] => R.rel_pure _
  | .type t :: es => by
    rw [compileElements, compileElements]
    have ht := typeExpr h he parent t
    have hes := elements_rel h he parent es
    exact R.rel_bind ht fun _ => R.rel_bind hes fun _ => R.rel_pure _
  | .constructor name constant args :: es => by
    rw [compileElements, compileElements]
    have hargs := types_rel h he parent args
    have hes := elements_rel h he parent es
    exact R.rel_bind hargs fun _ => R.rel_bind hes fun _ => R.rel_pure _

theorem fields_rel (h : R.lookups.FuelRel fuel fuel') (he : R.lookups.env e e')
    (parent : Identifier) :
    ∀ fs, R.rel (compileFields fuel e parent fs) (compileFields fuel' e' parent fs)
  | [] => R.rel_pure _
  | .method name t :: fs => by
    rw [compileFields, compileFields]
    have ht := typeExpr h he parent t
    have hfs := fields_rel h he parent fs
    exact R.rel_bind ht fun _ => R.rel_bind hfs fun _ => R.rel_pure _
  | .inherit t :: fs => by
    rw [compileFields, compileFields]
    have ht := typeExpr h he parent t
    have hfs := fields_rel h he parent fs
    exact R.rel_bind ht fun _ => R.rel_bind hfs fun _ => R.rel_pure _

theorem package_rel (h : R.lookups.FuelRel fuel fuel') (he : R.lookups.env e e')
    (parent : Identifier) (root : Option Signature) :
    ∀ cs, R.rel (compilePackage fuel e parent root cs) (compilePackage fuel' e' parent root cs)
  | [] => R.rel_pure _
  | ⟨fragment, t⟩ :: cs => by
    rw [compilePackage, compilePackage]
    have hfragment := packageFragment h he parent root fragment
    have ht := typeExpr h he parent t
    have hcs := package_rel h he parent root cs
    exact R.rel_bind hfragment fun _ => R.rel_bind ht fun _ => R.rel_bind hcs fun _ => R.rel_pure _

end

section Declarations

variable (h : R.lookups.FuelRel fuel fuel') (he : R.lookups.env e e')

include h he

theorem optionalType (parent : Identifier) (t : Option TypeExpr) :
    R.rel (compileOptionalType fuel e parent t) (compileOptionalType fuel' e' parent t) := by
  cases t with
  | none => exact R.rel_pure _
  | some t => exact R.rel_bind (typeExpr h he parent t) fun _ => R.rel_pure _

theorem typePairs (parent : Identifier) (pairs : List (TypeExpr × TypeExpr)) :
    R.rel (compileTypePairs fuel e parent pairs) (compileTypePairs fuel' e' parent pairs) := by
  induction pairs with
  | nil => exact R.rel_pure _
  | cons pair pairs ih =>
    obtain ⟨l, t⟩ := pair
    have hl := typeExpr h he parent l
    have ht := typeExpr h he parent t
    exact R.rel_bind hl fun _ => R.rel_bind ht fun _ => R.rel_bind ih fun _ => R.rel_pure _

theorem typeEquation (parent : Identifier) (eq : TypeEquation) :
    R.rel (eq.compile fuel e parent) (eq.compile fuel' e' parent) :=
  R.rel_bind (optionalType h he parent eq.manifest) fun _ =>
    R.rel_bind (typePairs h he parent eq.constraints) fun _ => R.rel_pure _

theorem record (parent : Identifier) (fields : List Field) :
    R.rel (compileRecord fuel e parent fields) (compileRecord fuel' e' parent fields) := by
  induction fields with
  | nil => exact R.rel_pure _
  | cons f fs ih =>
    exact R.rel_bind (typeExpr h he parent f.type) fun _ => R.rel_bind ih fun _ => R.rel_pure _

theorem constructorArgs (parent : Identifier) (args : ConstructorArgs) :
    R.rel (args.compile fuel e parent) (args.compile fuel' e' parent) := by
  cases args with
  | tuple types => exact R.rel_bind (types_rel h he parent types) fun _ => R.rel_pure _
  | record fields => exact R.rel_bind (record h he parent fields) fun _ => R.rel_pure _

theorem constructor (parent : Identifier) (c : Constructor) :
    R.rel (c.compile fuel e parent) (c.compile fuel' e' parent) :=
  R.rel_bind (constructorArgs h he parent c.args) fun _ =>
    R.rel_bind (optionalType h he parent c.res) fun _ => R.rel_pure _

theorem constructors (parent : Identifier) (cs : List Constructor) :
    R.rel (compileConstructors fuel e parent cs) (compileConstructors fuel' e' parent cs) := by
  induction cs with
  | nil => exact R.rel_pure _
  | cons c cs ih =>
    exact R.rel_bind (constructor h he parent c) fun _ => R.rel_bind ih fun _ => R.rel_pure _

theorem typeRepr (parent : Identifier) (repr : TypeRepr) :
    R.rel (repr.compile fuel e parent) (repr.compile fuel' e' parent) := by
  cases repr with
  | variant cs => exact R.rel_bind (constructors h he parent cs) fun _ => R.rel_pure _
  | record fields => exact R.rel_bind (record h he parent fields) fun _ => R.rel_pure _
  | extensible => exact R.rel_pure _

theorem typeDecl (t : TypeDecl) : R.rel (t.compile fuel e) (t.compile fuel' e') := by
  refine R.rel_bind (typeEquation h he t.id t.equation) fun equation => ?_
  cases t.representation with
  | none => exact R.rel_pure _
  | some repr => exact R.rel_bind (typeRepr h he t.id repr) fun _ => R.rel_pure _

theorem value (v : Value) : R.rel (v.compile fuel e) (v.compile fuel' e') :=
  R.rel_bind (typeExpr h he v.id v.type) fun _ => R.rel_pure _

theorem external (x : External) : R.rel (x.compile fuel e) (x.compile fuel' e') :=
  R.rel_bind (typeExpr h he x.id x.type) fun _ => R.rel_pure _

theorem extended (cs : List Constructor) :
    R.rel (compileExtended fuel e cs) (compileExtended fuel' e' cs) := by
  induction cs with
  | nil => exact R.rel_pure _
  | cons c cs ih =>
    exact R.rel_bind (constructor h he c.id c) fun _ => R.rel_bind ih fun _ => R.rel_pure _

theorem extension (x : Extension) : R.rel (x.compile fuel e) (x.compile fuel' e') :=
  R.rel_bind (resolve h he .type x.typePath) fun _ =>
    R.rel_bind (extended h he x.constructors) fun _ => R.rel_pure _

end Declarations

mutual

theorem classTypeExpr (h : R.lookups.FuelRel fuel fuel') (he : R.lookups.env e e')
    (id : Identifier) :
    ∀ expr : ClassTypeExpr, R.rel (expr.compile fuel e id) (expr.compile fuel' e' id)
  | .constr path args => by
    rw [ClassTypeExpr.compile, ClassTypeExpr.compile]
    have hpath := resolveOrReport h he .classType .classDecl id path
    have hargs := types_rel h he id args
    exact R.rel_bind hpath fun _ => R.rel_bind hargs fun _ => R.rel_pure _
  | .signature sig => by
    rw [ClassTypeExpr.compile, ClassTypeExpr.compile]
    exact R.rel_bind (classSignature h he id sig) fun _ => R.rel_pure _

theorem classSignature (h : R.lookups.FuelRel fuel fuel') (he : R.lookups.env e e')
    (id : Identifier) :
    ∀ sig : ClassSignature, R.rel (sig.compile fuel e id) (sig.compile fuel' e' id)
  | ⟨self, items⟩ => by
    rw [ClassSignature.compile, ClassSignature.compile]
    have hself := optionalType h he id self
    have hitems := classItems h he id items
    exact R.rel_bind hself fun _ => R.rel_bind hitems fun _ => R.rel_pure _

theorem classItems (h : R.lookups.FuelRel fuel fuel') (he : R.lookups.env e e') (id : Identifier) :
    ∀ items, R.rel (compileClassItems fuel e id items) (compileClassItems fuel' e' id items)
  | [] => R.rel_pure _
  | item :: items => by
    rw [compileClassItems, compileClassItems]
    have hitem := classItem h he id item
    have hitems := classItems h he id items
    exact R.rel_bind hitem fun _ => R.rel_bind hitems fun _ => R.rel_pure _

theorem classItem (h : R.lookups.FuelRel fuel fuel') (he : R.lookups.env e e') (id : Identifier) :
    ∀ item : ClassItem, R.rel (item.compile fuel e id) (item.compile fuel' e' id)
  | .method m => by
    rw [ClassItem.compile, ClassItem.compile]
    exact R.rel_bind (typeExpr h he id m.type) fun _ => R.rel_pure _
  | .instanceVariable v => by
    rw [ClassItem.compile, ClassItem.compile]
    exact R.rel_bind (typeExpr h he id v.type) fun _ => R.rel_pure _
  | .constraint lhs rhs => by
    rw [ClassItem.compile, ClassItem.compile]
    have hlhs := typeExpr h he id lhs
    have hrhs := typeExpr h he id rhs
    exact R.rel_bind hlhs fun _ => R.rel_bind hrhs fun _ => R.rel_pure _
  | .inherit expr => by
    rw [ClassItem.compile, ClassItem.compile]
    exact R.rel_bind (classTypeExpr h he id expr) fun _ => R.rel_pure _
  | .comment text => R.rel_pure _

end

section Classes

variable (h : R.lookups.FuelRel fuel fuel') (he : R.lookups.env e e')

include h he

theorem classDecl (id : Identifier) (decl : ClassDecl) :
    R.rel (decl.compile fuel e id) (decl.compile fuel' e' id) := by
  induction decl with
  | classType expr => exact R.rel_bind (classTypeExpr h he id expr) fun _ => R.rel_pure _
  | arrow label arg body ih =>
    exact R.rel_bind (typeExpr h he id arg) fun _ => R.rel_bind ih fun _ => R.rel_pure _

theorem classExpansion (id : Identifier) (expr : ClassTypeExpr) (previous : Option ClassSignature) :
    R.rel (compileClassExpansion fuel e id expr previous)
      (compileClassExpansion fuel' e' id expr previous) := by
  cases expr with
  | signature sig => exact R.rel_pure _
  | constr path args =>
    refine R.rel_attempt? (h.classSignature he _) fun found => ?_
    cases found.or previous with
    | none => exact R.rel_pure _
    | some sig =>
      exact R.rel_bind (R.rel_quietly (classSignature h he id sig)) fun _ => R.rel_pure _

theorem class_rel (c : Class) : R.rel (c.compile fuel e) (c.compile fuel' e') :=
  R.rel_bind (classDecl h he c.id c.decl) fun _ =>
    R.rel_bind (classExpansion h he c.id _ c.expansion) fun _ => R.rel_pure _

theorem classType (c : ClassType) : R.rel (c.compile fuel e) (c.compile fuel' e') :=
  R.rel_bind (classTypeExpr h he c.id c.expr) fun _ =>
    R.rel_bind (classExpansion h he c.id _ c.expansion) fun _ => R.rel_pure _

end Classes
end Types

structure PassesRel (p p' : Pass) : Prop where
  fuel : R.lookups.FuelRel p.fuel p'.fuel
  splice : ∀ {e : Env}, R.lookups.env e e → ∀ sig, R.rel (p.splice e sig) (p'.splice e sig)

namespace PassesRel

variable {R} {p p' : Pass}

section Parts

variable (h : R.PassesRel p p')

include h

theorem constraintFragment {e : Env} (he : R.lookups.env e e) (root : Option Signature)
    (c : Constraint) :
    R.rel (p.constraintFragment e root c) (p'.constraintFragment e root c) := by
  cases root with
  | none => exact R.rel_pure _
  | some sig =>
    have hfragment := h.fuel.fragment (R.lookups.addFragmentRoot sig he) rfl c.space c.fragment
    refine R.rel_attempt? hfragment fun found => ?_
    cases found with
    | none => exact R.rel_pure _
    | some resolved => exact R.rel_pure _

theorem applyConstraint {e : Env} (he : R.lookups.env e e) (id : Identifier) (c : Constraint)
    (sig : Signature) :
    R.rel (p.applyConstraint e id c sig) (p'.applyConstraint e id c sig) := by
  rw [Pass.applyConstraint, Pass.applyConstraint]
  split
  · exact R.rel_attempt (h.fuel.constrain he c sig) (fun _ => R.rel_pure _) fun _ hsoft =>
      R.rel_bind (R.rel_file _ hsoft) fun _ => R.rel_pure _
  · exact R.rel_bind (R.rel_file _ rfl) fun _ => R.rel_pure _

theorem applyQuietly {e : Env} (he : R.lookups.env e e) (c : Constraint) (root : Option Signature) :
    R.rel (p.applyQuietly e c root) (p'.applyQuietly e c root) := by
  cases root with
  | none => exact R.rel_pure _
  | some sig =>
    have hfound := R.rel_attempt? (h.fuel.constrain he c sig) fun found => R.rel_pure found
    simpa only [Pass.applyQuietly, bind_pure] using hfound

theorem includedSignature {e : Env} (he : R.lookups.env e e) (decl : IncludeDecl) :
    R.lookups.rel (p.includedSignature e decl) (p'.includedSignature e decl) := by
  cases decl with
  | aliasOf path =>
    exact R.lookups.rel_bind (h.fuel.aliasExpansion he path false) R.lookups.asSignature
  | typed expr => exact h.fuel.signatureExpr he expr

theorem strengthening {e : Env} (he : R.lookups.env e e) (path : Option Path) :
    R.rel (p.strengthening e path) (p'.strengthening e path) := by
  cases path with
  | none => exact R.rel_pure _
  | some path => exact R.map _ (resolve h.fuel he .module path)

theorem expandInclude {e : Env} (he : R.lookups.env e e) (written : String) (i : Include)
    {β : Type} {k k' : Include × Env → PassM β}
    (hk : ∀ i e, R.lookups.env e e → R.rel (k (i, e)) (k' (i, e))) :
    R.rel (p.expandInclude e written i >>= k) (p'.expandInclude e written i >>= k') := by
  rw [Pass.expandInclude, Pass.expandInclude]
  split
  · rw [pure_bind, pure_bind]
    exact hk _ _ (R.lookups.openSignature _ he)
  · rw [bind_assoc, bind_assoc]
    refine R.rel_attempt (h.includedSignature he i.decl) (fun sig => ?_) fun error hsoft => ?_
    · simp only [bind_assoc, pure_bind]
      exact R.rel_bind (h.splice he _) fun content => hk _ _ (R.lookups.openSignature _ he)
    · simp only [bind_assoc, pure_bind]
      exact R.rel_bind (R.rel_file _ hsoft) fun _ => hk _ _ he

end Parts

-- The environment after an item is part of its result. The statements about items are therefore
-- about what comes after them, which may rely on that environment.
mutual

theorem signature (h : R.PassesRel p p') : ∀ (sig : Signature) {e : Env}, R.lookups.env e e →
    R.rel (sig.pass p e) (sig.pass p' e)
  | ⟨items, true, doc⟩, _, _ => by
    rw [Signature.pass, Signature.pass]
    exact R.rel_pure _
  | ⟨items, false, doc⟩, _, he => by
    rw [Signature.pass, Signature.pass]
    exact h.items_rel items (R.addDocs doc he) fun _ _ _ => R.rel_pure _

theorem items_rel (h : R.PassesRel p p') : ∀ (items : List Item) {e : Env}, R.lookups.env e e →
    ∀ {β : Type} {k k' : List Item × Env → PassM β},
      (∀ items e, R.lookups.env e e → R.rel (k (items, e)) (k' (items, e))) →
      R.rel (passItems p e items >>= k) (passItems p' e items >>= k')
  | [], _, he, _, _, _, hk => by
    rw [passItems, passItems, pure_bind, pure_bind]
    exact hk _ _ he
  | item :: items, _, he, _, _, _, hk => by
    rw [passItems, passItems, bind_assoc, bind_assoc]
    refine h.item_rel item he fun item next hnext => ?_
    simp only [bind_assoc, pure_bind]
    exact h.items_rel items hnext fun items last hlast => hk _ _ hlast

theorem item_rel (h : R.PassesRel p p') : ∀ (item : Item) {e : Env}, R.lookups.env e e →
    ∀ {β : Type} {k k' : Item × Env → PassM β},
      (∀ item e, R.lookups.env e e → R.rel (k (item, e)) (k' (item, e))) →
      R.rel (item.pass p e >>= k) (item.pass p' e >>= k')
  | .module m, _, he, _, _, _, hk => by
    simp only [Item.pass, bind_assoc, pure_bind]
    exact R.rel_bind (h.module_rel m he) fun m => hk _ _ (R.lookups.env_push _ he)
  | .moduleSubstitution m, _, he, _, _, _, hk => by
    simp only [Item.pass, bind_assoc, pure_bind]
    exact R.rel_bind (resolve h.fuel he .module m.manifest) fun _ => hk _ _ he
  | .moduleType m, _, he, _, _, _, hk => by
    simp only [Item.pass, bind_assoc, pure_bind]
    exact R.rel_bind (h.moduleType m he) fun m => hk _ _ (R.lookups.env_push _ he)
  | .type t, _, he, _, _, _, hk => by
    simp only [Item.pass, bind_assoc, pure_bind]
    exact R.rel_bind (typeDecl h.fuel (R.addItem _ he) t) fun t => hk _ _ (R.addItem _ he)
  | .typeSubstitution t, _, he, _, _, _, hk => by
    simp only [Item.pass, bind_assoc, pure_bind]
    exact R.rel_bind (typeDecl h.fuel he t) fun _ => hk _ _ he
  | .value v, _, he, _, _, _, hk => by
    simp only [Item.pass, bind_assoc, pure_bind]
    exact R.rel_bind (value h.fuel he v) fun _ => hk _ _ (R.addItem _ he)
  | .external x, _, he, _, _, _, hk => by
    simp only [Item.pass, bind_assoc, pure_bind]
    exact R.rel_bind (external h.fuel he x) fun _ => hk _ _ (R.addItem _ he)
  | .classDecl c, _, he, _, _, _, hk => by
    simp only [Item.pass, bind_assoc, pure_bind]
    exact R.rel_bind (class_rel h.fuel he c) fun _ => hk _ _ (R.addItem _ he)
  | .classType c, _, he, _, _, _, hk => by
    simp only [Item.pass, bind_assoc, pure_bind]
    exact R.rel_bind (classType h.fuel he c) fun _ => hk _ _ (R.addItem _ he)
  | .extension x, _, he, _, _, _, hk => by
    simp only [Item.pass, bind_assoc, pure_bind]
    exact R.rel_bind (extension h.fuel he x) fun _ => hk _ _ he
  | .exception c, _, he, _, _, _, hk => by
    simp only [Item.pass, bind_assoc, pure_bind]
    exact R.rel_bind (constructor h.fuel he c.id c) fun _ => hk _ _ he
  | .included i, _, he, _, _, _, hk => by
    simp only [Item.pass, bind_assoc, pure_bind]
    exact h.include_rel i he fun i next hnext => hk _ _ hnext
  | .opened doc content, _, he, _, _, _, hk => by
    simp only [Item.pass, bind_assoc, pure_bind]
    exact R.rel_bind (h.signature content he) fun _ => hk _ _ (R.lookups.openSignature _ he)
  | .comment text, _, he, _, _, _, hk => by
    simp only [Item.pass, pure_bind]
    exact hk _ _ he

theorem module_rel (h : R.PassesRel p p') : ∀ (m : Module) {e : Env}, R.lookups.env e e →
    R.rel (m.pass p e) (m.pass p' e)
  | ⟨id, doc, decl, true⟩, _, _ => by
    rw [Module.pass, Module.pass]
    exact R.rel_pure _
  | ⟨id, doc, decl, false⟩, _, he => by
    rw [Module.pass, Module.pass]
    exact R.rel_bind (h.moduleDecl decl id (R.addDocs doc he)) fun _ => R.rel_pure _

theorem moduleDecl (h : R.PassesRel p p') :
    ∀ (decl : ModuleDecl) (id : Identifier) {e : Env}, R.lookups.env e e →
    R.rel (decl.pass p e id) (decl.pass p' e id)
  | .aliasOf path expansion, id, _, he => by
    rw [ModuleDecl.pass, ModuleDecl.pass]
    have hpath := resolveOrReport h.fuel he .module .modulePath id path
    have hexpansion := h.expansion_rel expansion he
    exact R.rel_bind hpath fun _ => R.rel_bind hexpansion fun _ => R.rel_pure _
  | .typed expr, id, _, he => by
    rw [ModuleDecl.pass, ModuleDecl.pass]
    exact R.rel_bind (h.moduleTypeExpr expr id he) fun _ => R.rel_pure _

theorem moduleType (h : R.PassesRel p p') : ∀ (m : ModuleType) {e : Env}, R.lookups.env e e →
    R.rel (m.pass p e) (m.pass p' e)
  | ⟨id, doc, none⟩, _, _ => by
    rw [ModuleType.pass, ModuleType.pass]
    exact R.rel_pure _
  | ⟨id, doc, some expr⟩, _, he => by
    rw [ModuleType.pass, ModuleType.pass]
    exact R.rel_bind (h.moduleTypeExpr expr id he) fun _ => R.rel_pure _

theorem expansion_rel (h : R.PassesRel p p') :
    ∀ (expansion : Option StoredExpansion) {e : Env}, R.lookups.env e e →
    R.rel (passExpansion p e expansion) (passExpansion p' e expansion)
  | none, _, _ => by
    rw [passExpansion, passExpansion]
    exact R.rel_pure _
  | some expansion, _, he => by
    rw [passExpansion, passExpansion]
    exact R.rel_bind (h.storedExpansion expansion he) fun _ => R.rel_pure _

theorem storedExpansion (h : R.PassesRel p p') :
    ∀ (expansion : StoredExpansion) {e : Env}, R.lookups.env e e →
    R.rel (expansion.pass p e) (expansion.pass p' e)
  | .signature sig, _, he => by
    rw [StoredExpansion.pass, StoredExpansion.pass]
    exact R.rel_bind (h.signature sig he) fun _ => R.rel_pure _
  | .functor param body, _, he => by
    rw [StoredExpansion.pass, StoredExpansion.pass]
    exact R.rel_bind (h.functorParameter param he) fun param =>
      R.rel_bind (h.storedExpansion body (R.lookups.addParameter param he)) fun _ => R.rel_pure _

theorem functorParameter (h : R.PassesRel p p') :
    ∀ (param : FunctorParameter) {e : Env}, R.lookups.env e e →
    R.rel (param.pass p e) (param.pass p' e)
  | .unit, _, _ => by
    rw [FunctorParameter.pass, FunctorParameter.pass]
    exact R.rel_pure _
  | .named id expr, _, he => by
    rw [FunctorParameter.pass, FunctorParameter.pass]
    exact R.rel_bind (h.moduleTypeExpr expr id he) fun _ => R.rel_pure _

theorem moduleTypeExpr (h : R.PassesRel p p') :
    ∀ (expr : ModuleTypeExpr) (id : Identifier) {e : Env},
    R.lookups.env e e → R.rel (expr.pass p e id) (expr.pass p' e id)
  | .path path expansion, id, _, he => by
    rw [ModuleTypeExpr.pass, ModuleTypeExpr.pass]
    have hpath := resolveOrReport h.fuel he .moduleType .moduleTypePath id path
    have hexpansion := h.expansion_rel expansion he
    exact R.rel_bind hpath fun _ => R.rel_bind hexpansion fun _ => R.rel_pure _
  | .signature sig, id, _, he => by
    rw [ModuleTypeExpr.pass, ModuleTypeExpr.pass]
    exact R.rel_bind (h.signature sig he) fun _ => R.rel_pure _
  | .functor param body, id, _, he => by
    rw [ModuleTypeExpr.pass, ModuleTypeExpr.pass]
    exact R.rel_bind (h.functorParameter param he) fun param =>
      R.rel_bind (h.moduleTypeExpr body id.result (R.lookups.addParameter param he)) fun _ =>
        R.rel_pure _
  | .constrained constraints base expansion, id, _, he => by
    rw [ModuleTypeExpr.pass, ModuleTypeExpr.pass]
    refine R.rel_bind (h.signatureExpr base id he) fun compiled => ?_
    refine R.rel_attempt (h.fuel.signatureExpr he compiled) (fun sig => ?_) fun error hsoft => ?_
    · refine R.rel_bind (h.constraints_rel constraints id sig he) ?_
      rintro ⟨constraints, sig, applied⟩
      dsimp only
      split
      · exact R.rel_pure _
      · exact R.rel_bind (h.expansion_rel expansion he) fun _ => R.rel_pure _
    · exact R.rel_bind (R.rel_file _ hsoft) fun _ => R.rel_pure _
  | .typeOf origin expansion, id, _, he => by
    rw [ModuleTypeExpr.pass, ModuleTypeExpr.pass]
    have hpath := resolveOrReport h.fuel he .module .modulePath id origin.path
    have hexpansion := h.expansion_rel expansion he
    exact R.rel_bind hpath fun _ => R.rel_bind hexpansion fun _ => R.rel_pure _

theorem constraints_rel (h : R.PassesRel p p') :
    ∀ (constraints : List Constraint) (id : Identifier) (sig : Signature)
    {e : Env}, R.lookups.env e e →
    R.rel (passConstraints p e id sig constraints) (passConstraints p' e id sig constraints)
  | [], id, sig, _, _ => by
    rw [passConstraints, passConstraints]
    exact R.rel_pure _
  | c :: cs, id, sig, _, he => by
    rw [passConstraints, passConstraints]
    refine R.rel_bind (h.constraint_rel c id (some sig) he) fun c => ?_
    refine R.rel_bind (h.applyConstraint he id c sig) fun ⟨sig, applied⟩ => ?_
    exact R.rel_bind (h.constraints_rel cs id sig he) fun _ => R.rel_pure _

theorem signatureExpr (h : R.PassesRel p p') : ∀ (expr : SignatureExpr) (id : Identifier) {e : Env},
    R.lookups.env e e → R.rel (expr.pass p e id) (expr.pass p' e id)
  | .path path, id, _, he => by
    rw [SignatureExpr.pass, SignatureExpr.pass]
    exact R.rel_bind (resolve h.fuel he .moduleType path) fun _ => R.rel_pure _
  | .signature sig, id, _, he => by
    rw [SignatureExpr.pass, SignatureExpr.pass]
    exact R.rel_bind (h.signature sig he) fun _ => R.rel_pure _
  | .constrained constraints base, id, _, he => by
    rw [SignatureExpr.pass, SignatureExpr.pass]
    refine R.rel_bind (h.signatureExpr base id he) fun base => ?_
    refine R.rel_attempt? (h.fuel.signatureExpr he base) fun root => ?_
    exact R.rel_bind (h.baseConstraints constraints id root he) fun _ => R.rel_pure _
  | .typeOf origin, id, _, he => by
    rw [SignatureExpr.pass, SignatureExpr.pass]
    exact R.rel_bind (resolve h.fuel he .module origin.path) fun _ => R.rel_pure _

theorem baseConstraints (h : R.PassesRel p p') : ∀ (constraints : List Constraint) (id : Identifier)
    (root : Option Signature) {e : Env}, R.lookups.env e e →
    R.rel (passBaseConstraints p e id root constraints)
      (passBaseConstraints p' e id root constraints)
  | [], id, root, _, _ => by
    rw [passBaseConstraints, passBaseConstraints]
    exact R.rel_pure _
  | c :: cs, id, root, _, he => by
    rw [passBaseConstraints, passBaseConstraints]
    refine R.rel_bind (h.constraint_rel c id root he) fun c => ?_
    refine R.rel_bind (h.applyQuietly he c root) fun root => ?_
    exact R.rel_bind (h.baseConstraints cs id root he) fun _ => R.rel_pure _

theorem constraint_rel (h : R.PassesRel p p') :
    ∀ (c : Constraint) (id : Identifier) (root : Option Signature)
    {e : Env}, R.lookups.env e e → R.rel (c.pass p e id root) (c.pass p' e id root)
  | .moduleEq f decl, id, root, _, he => by
    rw [Constraint.pass, Constraint.pass]
    have hf := h.constraintFragment he root (.moduleEq f decl)
    have hdecl := h.moduleDecl decl id he
    exact R.rel_bind hf fun _ => R.rel_bind hdecl fun _ => R.rel_pure _
  | .moduleSubst f path, id, root, _, he => by
    rw [Constraint.pass, Constraint.pass]
    have hf := h.constraintFragment he root (.moduleSubst f path)
    have hpath := resolve h.fuel he .module path
    exact R.rel_bind hf fun _ => R.rel_bind hpath fun _ => R.rel_pure _
  | .typeEq f eq, id, root, _, he => by
    rw [Constraint.pass, Constraint.pass]
    have hf := h.constraintFragment he root (.typeEq f eq)
    have heq := typeEquation h.fuel he id eq
    exact R.rel_bind hf fun _ => R.rel_bind heq fun _ => R.rel_pure _
  | .typeSubst f eq, id, root, _, he => by
    rw [Constraint.pass, Constraint.pass]
    have hf := h.constraintFragment he root (.typeSubst f eq)
    have heq := typeEquation h.fuel he id eq
    exact R.rel_bind hf fun _ => R.rel_bind heq fun _ => R.rel_pure _

theorem include_rel (h : R.PassesRel p p') : ∀ (i : Include) {e : Env}, R.lookups.env e e →
    ∀ {β : Type} {k k' : Include × Env → PassM β},
      (∀ i e, R.lookups.env e e → R.rel (k (i, e)) (k' (i, e))) →
      R.rel (i.pass p e >>= k) (i.pass p' e >>= k')
  | ⟨parent, doc, decl, strengthened, shadowed, content⟩, _, he, _, _, _, hk => by
    rw [Include.pass, Include.pass, bind_assoc, bind_assoc]
    refine R.rel_bind (h.includeDecl decl parent he) fun compiled => ?_
    rw [bind_assoc, bind_assoc]
    exact R.rel_bind (h.strengthening he strengthened) fun _ => h.expandInclude he _ _ hk

theorem includeDecl (h : R.PassesRel p p') : ∀ (decl : IncludeDecl) (parent : Identifier) {e : Env},
    R.lookups.env e e → R.rel (decl.pass p e parent) (decl.pass p' e parent)
  | .aliasOf path, parent, _, he => by
    rw [IncludeDecl.pass, IncludeDecl.pass]
    exact R.rel_bind (resolve h.fuel he .module path) fun _ => R.rel_pure _
  | .typed expr, parent, _, he => by
    rw [IncludeDecl.pass, IncludeDecl.pass]
    exact R.rel_bind (h.signatureExpr expr parent he) fun _ => R.rel_pure _

end
end PassesRel

section Units

variable {R} (hfuel : ∀ fuel, R.lookups.FuelRel fuel fuel)
  (hout : R.rel (abort .outOfFuel : PassM Signature) (abort .outOfFuel)) {e : Env}
  (he : R.lookups.env e e)

include hfuel hout in
theorem compile_rel (fuel : Nat) {e : Env} (he : R.lookups.env e e) (sig : Signature) :
    R.rel (sig.compile fuel e) (sig.compile fuel e) := by
  induction fuel generalizing e sig with
  | zero => exact hout
  | succ fuel ih => exact (PassesRel.mk (hfuel fuel) ih).signature sig he

include he

theorem openUnits (self : String) (names : List String) {β : Type} {k : Env → PassM β}
    (hk : ∀ e, R.lookups.env e e → R.rel (k e) (k e)) :
    R.rel (Pass.openUnits self e names >>= k) (Pass.openUnits self e names >>= k) := by
  induction names generalizing e with
  | nil =>
    rw [Pass.openUnits, pure_bind]
    exact hk e he
  | cons name names ih =>
    rw [Pass.openUnits]
    split
    · exact ih he
    · rw [bind_assoc]
      refine R.rel_attempt (R.lookups.fetchByName he name) (fun found => ?_) fun _ _ => ih he
      cases found with
      | none => exact ih he
      | some unit => exact ih (R.lookups.env_push _ he)

include hfuel

theorem packed (fuel : Nat) (ps : List Packed) :
    R.rel (Pass.packed fuel e ps) (Pass.packed fuel e ps) := by
  induction ps with
  | nil => exact R.rel_pure _
  | cons p ps ih =>
    have hpath := resolve (hfuel fuel) he .module p.path
    exact R.rel_bind hpath fun _ => R.rel_bind ih fun _ => R.rel_pure _

include hout

theorem unitContent (fuel : Nat) (content : UnitContent) :
    R.rel (content.compile fuel e) (content.compile fuel e) := by
  cases content with
  | module sig => exact R.rel_bind (compile_rel hfuel hout fuel he sig) fun _ => R.rel_pure _
  | pack ps => exact R.rel_bind (packed hfuel he fuel ps) fun _ => R.rel_pure _

theorem compileIn (fuel : Nat) (unit : CompilationUnit) :
    R.rel (unit.compileIn fuel e) (unit.compileIn fuel e) := by
  refine openUnits he unit.name _ fun opened hopened => ?_
  exact R.rel_bind (unitContent hfuel hout (R.addDocs unit.doc hopened) fuel unit.content)
    fun _ => R.rel_pure _

end Units

end PassRel

end CrossRef
