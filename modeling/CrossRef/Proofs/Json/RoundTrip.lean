import CrossRef.Json.CompilationUnit
import CrossRef.Proofs.Json.Reading

/-! Stored trees are read back as they were written: signatures, units and options. -/

namespace CrossRef

open Json (depth depthOfMembers depthOfValues tagged)

@[simp] theorem Shadowed.ofJson?_toJson (s : Shadowed) : Shadowed.ofJson? s.toJson = some s := by
  simp [ofJson?, toJson]

theorem TypeOfOrigin.read_toJson (origin : TypeOfOrigin) (levels : Nat)
    (h : origin.toJson.depth ≤ levels) : TypeOfOrigin.read levels origin.toJson = some origin := by
  cases origin with
  | moduleType path =>
    simp only [toJson, tagged, depth, depthOfMembers] at h
    have hpath := path.read_toJson levels (by omega)
    simp [read, toJson, hpath]
  | structInclude path =>
    simp only [toJson, tagged, depth, depthOfMembers] at h
    have hpath := path.read_toJson levels (by omega)
    simp [read, toJson, hpath]

theorem ModuleSubstitution.read_toJson (m : ModuleSubstitution) (levels : Nat)
    (h : m.toJson.depth ≤ levels) : ModuleSubstitution.read levels m.toJson = some m := by
  simp only [toJson, depth, depthOfMembers] at h
  have hid := m.id.read_toJson levels (by omega)
  have hmanifest := m.manifest.read_toJson levels (by omega)
  simp [read, toJson, hid, hmanifest]

theorem Path.restores (levels : Nat) : Json.Restores levels (Path.read levels) (·.toJson) :=
  fun path h => path.read_toJson levels h

theorem ModuleTypeExpr.toJson_ne_null (expr : ModuleTypeExpr) : expr.toJson ≠ .null := by
  cases expr <;> simp [ModuleTypeExpr.toJson, tagged]

theorem StoredExpansion.toJson_ne_null (expansion : StoredExpansion) :
    expansion.toJson ≠ .null := by
  cases expansion <;> simp [StoredExpansion.toJson, tagged]

-- One theorem for each sort of syntax, by recursion on the syntax. Every reader that enters a
-- value has spent one level on it, and the values inside have at least one level less.
mutual

theorem Signature.read_toJson : ∀ (sig : Signature) (levels : Nat), sig.toJson.depth ≤ levels →
    Signature.read levels sig.toJson = some sig
  | _, 0, h => absurd h (Json.not_depth_le_zero _)
  | ⟨items, compiled, doc⟩, levels + 1, h => by
    simp only [Signature.toJson, depth, depthOfMembers] at h
    have hitems := itemsToJson_read items levels (by omega)
    simp [Signature.read, Signature.toJson, hitems]

theorem itemsToJson_read : ∀ (items : List Item) (levels : Nat),
    depthOfValues (itemsToJson items) ≤ levels →
    (Json.arr (itemsToJson items)).list? (Item.read levels) = some items
  | [], levels, _ => by simp [itemsToJson]
  | item :: items, levels, h => by
    simp only [itemsToJson, depthOfValues] at h ⊢
    exact Json.list?_cons (item.read_toJson levels (by omega))
      (itemsToJson_read items levels (by omega))

theorem Item.read_toJson : ∀ (item : Item) (levels : Nat), item.toJson.depth ≤ levels →
    Item.read levels item.toJson = some item
  | _, 0, h => absurd h (Json.not_depth_le_zero _)
  | .module m, levels + 1, h => by
    simp only [Item.toJson, tagged, depth, depthOfMembers] at h
    have hm := m.read_toJson levels (by omega)
    simp [Item.read, Item.toJson, hm]
  | .moduleSubstitution m, levels + 1, h => by
    simp only [Item.toJson, tagged, depth, depthOfMembers] at h
    have hm := m.read_toJson levels (by omega)
    simp [Item.read, Item.toJson, hm]
  | .moduleType m, levels + 1, h => by
    simp only [Item.toJson, tagged, depth, depthOfMembers] at h
    have hm := m.read_toJson levels (by omega)
    simp [Item.read, Item.toJson, hm]
  | .type t, levels + 1, h => by
    simp only [Item.toJson, tagged, depth, depthOfMembers] at h
    have ht := (TypeDecl.restores levels).single t (by omega)
    simp [Item.read, Item.toJson, ht]
  | .typeSubstitution t, levels + 1, h => by
    simp only [Item.toJson, tagged, depth, depthOfMembers] at h
    have ht := (TypeDecl.restores levels).single t (by omega)
    simp [Item.read, Item.toJson, ht]
  | .value v, levels + 1, h => by
    simp only [Item.toJson, tagged, depth, depthOfMembers] at h
    have hv := (Value.restores levels).single v (by omega)
    simp [Item.read, Item.toJson, hv]
  | .external e, levels + 1, h => by
    simp only [Item.toJson, tagged, depth, depthOfMembers] at h
    have he := (External.restores levels).single e (by omega)
    simp [Item.read, Item.toJson, he]
  | .classDecl c, levels + 1, h => by
    simp only [Item.toJson, tagged, depth, depthOfMembers] at h
    have hc := (Class.restores levels).single c (by omega)
    simp [Item.read, Item.toJson, hc]
  | .classType c, levels + 1, h => by
    simp only [Item.toJson, tagged, depth, depthOfMembers] at h
    have hc := (ClassType.restores levels).single c (by omega)
    simp [Item.read, Item.toJson, hc]
  | .extension e, levels + 1, h => by
    simp only [Item.toJson, tagged, depth, depthOfMembers] at h
    have he := (Extension.restores levels).single e (by omega)
    simp [Item.read, Item.toJson, he]
  | .exception c, levels + 1, h => by
    simp only [Item.toJson, tagged, depth, depthOfMembers] at h
    have hc := (Constructor.restores levels).single c (by omega)
    simp [Item.read, Item.toJson, hc]
  | .included i, levels + 1, h => by
    simp only [Item.toJson, tagged, depth, depthOfMembers] at h
    have hi := i.read_toJson levels (by omega)
    simp [Item.read, Item.toJson, hi]
  | .opened doc content, levels + 1, h => by
    simp only [Item.toJson, tagged, depth, depthOfMembers] at h
    have hcontent := content.read_toJson levels (by omega)
    simp [Item.read, Item.toJson, hcontent]
  | .comment text, levels + 1, _ => by simp [Item.read, Item.toJson]

theorem Module.read_toJson : ∀ (m : Module) (levels : Nat), m.toJson.depth ≤ levels →
    Module.read levels m.toJson = some m
  | _, 0, h => absurd h (Json.not_depth_le_zero _)
  | ⟨id, doc, decl, hidden⟩, levels + 1, h => by
    simp only [Module.toJson, depth, depthOfMembers] at h
    have hid := id.read_toJson levels (by omega)
    have hdecl := decl.read_toJson levels (by omega)
    simp [Module.read, Module.toJson, hid, hdecl]

theorem ModuleDecl.read_toJson : ∀ (decl : ModuleDecl) (levels : Nat),
    decl.toJson.depth ≤ levels → ModuleDecl.read levels decl.toJson = some decl
  | _, 0, h => absurd h (Json.not_depth_le_zero _)
  | .aliasOf path expansion, levels + 1, h => by
    simp only [ModuleDecl.toJson, tagged, depth, depthOfMembers, depthOfValues] at h
    have hpath := path.read_toJson levels (by omega)
    have hexpansion := expansionToJson_read expansion levels (by omega)
    simp [ModuleDecl.read, ModuleDecl.toJson, hpath, hexpansion]
  | .typed expr, levels + 1, h => by
    simp only [ModuleDecl.toJson, tagged, depth, depthOfMembers] at h
    have hexpr := expr.read_toJson levels (by omega)
    simp [ModuleDecl.read, ModuleDecl.toJson, hexpr]

theorem ModuleType.read_toJson : ∀ (m : ModuleType) (levels : Nat), m.toJson.depth ≤ levels →
    ModuleType.read levels m.toJson = some m
  | _, 0, h => absurd h (Json.not_depth_le_zero _)
  | ⟨id, doc, none⟩, levels + 1, h => by
    simp only [ModuleType.toJson, depth, depthOfMembers] at h
    have hid := id.read_toJson levels (by omega)
    simp [ModuleType.read, ModuleType.toJson, hid]
  | ⟨id, doc, some expr⟩, levels + 1, h => by
    simp only [ModuleType.toJson, depth, depthOfMembers] at h
    have hid := id.read_toJson levels (by omega)
    have hexpr := expr.read_toJson levels (by omega)
    have hsome := Json.optional?_of_ne_null expr.toJson_ne_null hexpr
    simp [ModuleType.read, ModuleType.toJson, hid, hsome]

theorem expansionToJson_read : ∀ (expansion : Option StoredExpansion) (levels : Nat),
    (expansionToJson expansion).depth ≤ levels →
    (expansionToJson expansion).optional? (StoredExpansion.read levels) = some expansion
  | none, levels, _ => by simp [expansionToJson]
  | some expansion, levels, h => by
    rw [expansionToJson] at h ⊢
    exact Json.optional?_of_ne_null expansion.toJson_ne_null (expansion.read_toJson levels h)

theorem StoredExpansion.read_toJson : ∀ (expansion : StoredExpansion) (levels : Nat),
    expansion.toJson.depth ≤ levels →
    StoredExpansion.read levels expansion.toJson = some expansion
  | _, 0, h => absurd h (Json.not_depth_le_zero _)
  | .signature sig, levels + 1, h => by
    simp only [StoredExpansion.toJson, tagged, depth, depthOfMembers] at h
    have hsig := sig.read_toJson levels (by omega)
    simp [StoredExpansion.read, StoredExpansion.toJson, hsig]
  | .functor param body, levels + 1, h => by
    simp only [StoredExpansion.toJson, tagged, depth, depthOfMembers, depthOfValues] at h
    have hparam := param.read_toJson levels (by omega)
    have hbody := body.read_toJson levels (by omega)
    simp [StoredExpansion.read, StoredExpansion.toJson, hparam, hbody]

theorem FunctorParameter.read_toJson : ∀ (param : FunctorParameter) (levels : Nat),
    param.toJson.depth ≤ levels → FunctorParameter.read levels param.toJson = some param
  | _, 0, h => absurd h (Json.not_depth_le_zero _)
  | .unit, levels + 1, _ => by simp [FunctorParameter.read, FunctorParameter.toJson, Json.tag?]
  | .named id expr, levels + 1, h => by
    simp only [FunctorParameter.toJson, tagged, depth, depthOfMembers] at h
    have hid := id.read_toJson levels (by omega)
    have hexpr := expr.read_toJson levels (by omega)
    simp [FunctorParameter.read, FunctorParameter.toJson, tagged, Json.tag?, Json.tagged?, hid,
      hexpr]

theorem ModuleTypeExpr.read_toJson : ∀ (expr : ModuleTypeExpr) (levels : Nat),
    expr.toJson.depth ≤ levels → ModuleTypeExpr.read levels expr.toJson = some expr
  | _, 0, h => absurd h (Json.not_depth_le_zero _)
  | .path path expansion, levels + 1, h => by
    simp only [ModuleTypeExpr.toJson, tagged, depth, depthOfMembers] at h
    have hpath := path.read_toJson levels (by omega)
    have hexpansion := expansionToJson_read expansion levels (by omega)
    simp [ModuleTypeExpr.read, ModuleTypeExpr.toJson, hpath, hexpansion]
  | .signature sig, levels + 1, h => by
    simp only [ModuleTypeExpr.toJson, tagged, depth, depthOfMembers] at h
    have hsig := sig.read_toJson levels (by omega)
    simp [ModuleTypeExpr.read, ModuleTypeExpr.toJson, hsig]
  | .functor param body, levels + 1, h => by
    simp only [ModuleTypeExpr.toJson, tagged, depth, depthOfMembers, depthOfValues] at h
    have hparam := param.read_toJson levels (by omega)
    have hbody := body.read_toJson levels (by omega)
    simp [ModuleTypeExpr.read, ModuleTypeExpr.toJson, hparam, hbody]
  | .constrained constraints base expansion, levels + 1, h => by
    simp only [ModuleTypeExpr.toJson, tagged, depth, depthOfMembers] at h
    have hconstraints := constraintsToJson_read constraints levels (by omega)
    have hbase := base.read_toJson levels (by omega)
    have hexpansion := expansionToJson_read expansion levels (by omega)
    simp [ModuleTypeExpr.read, ModuleTypeExpr.toJson, hconstraints, hbase, hexpansion]
  | .typeOf origin expansion, levels + 1, h => by
    simp only [ModuleTypeExpr.toJson, tagged, depth, depthOfMembers] at h
    have horigin := origin.read_toJson levels (by omega)
    have hexpansion := expansionToJson_read expansion levels (by omega)
    simp [ModuleTypeExpr.read, ModuleTypeExpr.toJson, horigin, hexpansion]

theorem SignatureExpr.read_toJson : ∀ (expr : SignatureExpr) (levels : Nat),
    expr.toJson.depth ≤ levels → SignatureExpr.read levels expr.toJson = some expr
  | _, 0, h => absurd h (Json.not_depth_le_zero _)
  | .path path, levels + 1, h => by
    simp only [SignatureExpr.toJson, tagged, depth, depthOfMembers] at h
    have hpath := path.read_toJson levels (by omega)
    simp [SignatureExpr.read, SignatureExpr.toJson, hpath]
  | .signature sig, levels + 1, h => by
    simp only [SignatureExpr.toJson, tagged, depth, depthOfMembers] at h
    have hsig := sig.read_toJson levels (by omega)
    simp [SignatureExpr.read, SignatureExpr.toJson, hsig]
  | .constrained constraints base, levels + 1, h => by
    simp only [SignatureExpr.toJson, tagged, depth, depthOfMembers, depthOfValues] at h
    have hconstraints := constraintsToJson_read constraints levels (by omega)
    have hbase := base.read_toJson levels (by omega)
    simp [SignatureExpr.read, SignatureExpr.toJson, hconstraints, hbase]
  | .typeOf origin, levels + 1, h => by
    simp only [SignatureExpr.toJson, tagged, depth, depthOfMembers] at h
    have horigin := origin.read_toJson levels (by omega)
    simp [SignatureExpr.read, SignatureExpr.toJson, horigin]

theorem constraintsToJson_read : ∀ (cs : List Constraint) (levels : Nat),
    depthOfValues (constraintsToJson cs) ≤ levels →
    (Json.arr (constraintsToJson cs)).list? (Constraint.read levels) = some cs
  | [], levels, _ => by simp [constraintsToJson]
  | c :: cs, levels, h => by
    simp only [constraintsToJson, depthOfValues] at h ⊢
    exact Json.list?_cons (c.read_toJson levels (by omega))
      (constraintsToJson_read cs levels (by omega))

theorem Constraint.read_toJson : ∀ (c : Constraint) (levels : Nat), c.toJson.depth ≤ levels →
    Constraint.read levels c.toJson = some c
  | _, 0, h => absurd h (Json.not_depth_le_zero _)
  | .moduleEq fragment decl, levels + 1, h => by
    simp only [Constraint.toJson, tagged, depth, depthOfMembers, depthOfValues] at h
    have hfragment := fragment.read_toJson levels (by omega)
    have hdecl := decl.read_toJson levels (by omega)
    simp [Constraint.read, Constraint.toJson, hfragment, hdecl]
  | .moduleSubst fragment path, levels + 1, h => by
    simp only [Constraint.toJson, tagged, depth, depthOfMembers, depthOfValues] at h
    have hfragment := fragment.read_toJson levels (by omega)
    have hpath := path.read_toJson levels (by omega)
    simp [Constraint.read, Constraint.toJson, hfragment, hpath]
  | .typeEq fragment eq, levels + 1, h => by
    simp only [Constraint.toJson, tagged, depth, depthOfMembers, depthOfValues] at h
    have hfragment := fragment.read_toJson levels (by omega)
    have heq := (TypeEquation.restores levels).single eq (by omega)
    simp [Constraint.read, Constraint.toJson, hfragment, heq]
  | .typeSubst fragment eq, levels + 1, h => by
    simp only [Constraint.toJson, tagged, depth, depthOfMembers, depthOfValues] at h
    have hfragment := fragment.read_toJson levels (by omega)
    have heq := (TypeEquation.restores levels).single eq (by omega)
    simp [Constraint.read, Constraint.toJson, hfragment, heq]

theorem Include.read_toJson : ∀ (i : Include) (levels : Nat), i.toJson.depth ≤ levels →
    Include.read levels i.toJson = some i
  | _, 0, h => absurd h (Json.not_depth_le_zero _)
  | ⟨parent, doc, decl, strengthened, shadowed, content⟩, levels + 1, h => by
    simp only [Include.toJson, depth, depthOfMembers] at h
    have hparent := parent.read_toJson levels (by omega)
    have hdecl := decl.read_toJson levels (by omega)
    have hstrengthened := (Path.restores levels).optional Path.toJson_ne_null strengthened
      (by omega)
    have hcontent := content.read_toJson levels (by omega)
    simp [Include.read, Include.toJson, Json.field?, List.lookup_cons, hparent, hdecl, hstrengthened,
      hcontent]

theorem IncludeDecl.read_toJson : ∀ (decl : IncludeDecl) (levels : Nat),
    decl.toJson.depth ≤ levels → IncludeDecl.read levels decl.toJson = some decl
  | _, 0, h => absurd h (Json.not_depth_le_zero _)
  | .aliasOf path, levels + 1, h => by
    simp only [IncludeDecl.toJson, tagged, depth, depthOfMembers] at h
    have hpath := path.read_toJson levels (by omega)
    simp [IncludeDecl.read, IncludeDecl.toJson, hpath]
  | .typed expr, levels + 1, h => by
    simp only [IncludeDecl.toJson, tagged, depth, depthOfMembers] at h
    have hexpr := expr.read_toJson levels (by omega)
    simp [IncludeDecl.read, IncludeDecl.toJson, hexpr]

end

theorem Import.restores (levels : Nat) : Json.Restores levels (Import.read levels) (·.toJson) := by
  intro i h
  cases i with
  | unresolved name => simp [read, toJson]
  | resolved root name =>
    simp only [toJson, tagged, depth, depthOfMembers] at h
    have hroot := root.read_toJson levels (by omega)
    simp [read, toJson, hroot]

theorem Packed.restores (levels : Nat) : Json.Restores levels (Packed.read levels) (·.toJson) := by
  intro p h
  simp only [toJson, depth, depthOfMembers] at h
  have hid := p.id.read_toJson levels (by omega)
  have hpath := p.path.read_toJson levels (by omega)
  simp [read, toJson, hid, hpath]

theorem UnitContent.read_toJson (content : UnitContent) (levels : Nat)
    (h : content.toJson.depth ≤ levels) : UnitContent.read levels content.toJson = some content := by
  cases content with
  | module sig =>
    simp only [toJson, tagged, depth, depthOfMembers] at h
    have hsig := sig.read_toJson levels (by omega)
    simp [read, toJson, hsig]
  | pack packed =>
    simp only [toJson, tagged, depth, depthOfMembers] at h
    have hpacked := (Packed.restores levels).list packed (by omega)
    simp [read, toJson, hpacked]

theorem CompilationUnit.read_toJson (unit : CompilationUnit) (levels : Nat)
    (h : unit.toJson.depth ≤ levels) : CompilationUnit.read levels unit.toJson = some unit := by
  simp only [toJson, depth, depthOfMembers] at h
  have hid := unit.id.read_toJson levels (by omega)
  have himports := (Import.restores levels).list unit.imports (by omega)
  have hcontent := unit.content.read_toJson levels (by omega)
  simp [read, toJson, hid, himports, hcontent]

namespace Json

theorem word?_nat (w : UInt64) : (nat w.toNat).word? = some w := by
  have hsize : w.toNat < UInt64.size := w.toNat_lt_size
  simp [word?, hsize]

def keep (kept : String → Bool) : Json → Json
  | obj members => obj (members.filter fun member => kept member.1)
  | j => j

theorem lookup_filter_key (kept : String → Bool) (key : String) (members : List (String × Json)) :
    (members.filter fun member => kept member.1).lookup key =
      if kept key then members.lookup key else none := by
  induction members with
  | nil => simp
  | cons member members ih =>
    obtain ⟨other, j⟩ := member
    by_cases hother : key = other
    · subst hother
      by_cases hkept : kept key
      · simp [hkept]
      · simpa [hkept] using ih
    · have hkey : (key == other) = false := beq_eq_false_iff_ne.mpr hother
      by_cases hkept : kept other
      · simpa [List.lookup_cons, hkept, hkey] using ih
      · simpa [List.lookup_cons, hkept, hkey] using ih

theorem getD?_keep {α : Type} (kept : String → Bool) (members : List (String × Json)) (key : String)
    (read : Json → Option α) (default : α) :
    ((obj members).keep kept).getD? key read default =
      if kept key then (obj members).getD? key read default else some default := by
  by_cases hkept : kept key
  · simp only [keep, getD?, lookup_filter_key, hkept, if_true]
  · simp only [keep, getD?, lookup_filter_key, hkept, if_false, Bool.false_eq_true]

end Json

namespace ResolverOptions

def keep (kept : String → Bool) (o : ResolverOptions) : ResolverOptions :=
  let defaults : ResolverOptions := {}
  { openModules := if kept "open_modules" then o.openModules else defaults.openModules
    maxAliasDepth := if kept "max_alias_depth" then o.maxAliasDepth else defaults.maxAliasDepth
    strengthenIncludes :=
      if kept "strengthen_includes" then o.strengthenIncludes else defaults.strengthenIncludes }

theorem ofJson?_keep (kept : String → Bool) (o : ResolverOptions) :
    ofJson? (o.toJson.keep kept) = some (o.keep kept) := by
  have hword : (Json.nat o.limit).word? = some o.maxAliasDepth := Json.word?_nat o.maxAliasDepth
  simp only [ofJson?, toJson, Json.getD?_keep, keep]
  by_cases hopen : kept "open_modules" <;> by_cases hdepth : kept "max_alias_depth" <;>
    by_cases hstrengthen : kept "strengthen_includes" <;>
    simp [hopen, hdepth, hstrengthen, Json.getD?, hword, List.lookup_cons]

end ResolverOptions

/-- Whatever is stored reads back as it was, and options also from a file that leaves some of them
out. -/
theorem stored_values_read_back :
    (∀ unit : CompilationUnit, CompilationUnit.ofJson? unit.toJson = some unit) ∧
      (∀ o : ResolverOptions, ResolverOptions.ofJson? o.toJson = some o) ∧
      ∀ (o : ResolverOptions) (kept : String → Bool),
        ResolverOptions.ofJson? (o.toJson.keep kept) = some (o.keep kept) := by
  have hunit : ∀ unit : CompilationUnit, CompilationUnit.ofJson? unit.toJson = some unit := by
    intro unit
    exact unit.read_toJson unit.toJson.depth (Nat.le_refl _)
  have hoptions : ∀ o : ResolverOptions, ResolverOptions.ofJson? o.toJson = some o := by
    intro o
    exact o.ofJson?_keep fun _ => true
  exact ⟨hunit, hoptions, fun o kept => o.ofJson?_keep kept⟩

end CrossRef
