import CrossRef.Json.ClassType

/-! Reading back what was written: paths, type expressions, declarations and classes. A reader gives
up below the levels it may enter, and as many as the written form has are always enough. -/

namespace CrossRef

namespace Json

@[simp] theorem get?_head {α : Type} (key : String) (j : Json) (members : List (String × Json))
    (read : Json → Option α) : (obj ((key, j) :: members)).get? key read = read j := by
  simp only [get?, field?, List.lookup_cons, beq_self_eq_true]
  rfl

@[simp] theorem get?_tail {α : Type} {key other : String} (h : key ≠ other) (j : Json)
    (members : List (String × Json)) (read : Json → Option α) :
    (obj ((other, j) :: members)).get? key read = (obj members).get? key read := by
  have hkey : (key == other) = false := beq_eq_false_iff_ne.mpr h
  simp only [get?, field?, List.lookup_cons, hkey]

@[simp] theorem bool?_bool (b : Bool) : (bool b).bool? = some b := rfl

@[simp] theorem str?_str (s : String) : (str s).str? = some s := rfl

@[simp] theorem pair?_arr (a b : Json) : (arr [a, b]).pair? = some (a, b) := rfl

@[simp] theorem list?_nil {α : Type} (read : Json → Option α) :
    (arr []).list? read = some [] := rfl

theorem list?_cons {α : Type} {read : Json → Option α} {j : Json} {js : List Json} {a : α}
    {as : List α} (hj : read j = some a) (hjs : (arr js).list? read = some as) :
    (arr (j :: js)).list? read = some (a :: as) := by
  have hrest : js.mapM read = some as := hjs
  show (j :: js).mapM read = some (a :: as)
  rw [List.mapM_cons, hj, hrest]
  rfl

@[simp] theorem optional?_null {α : Type} (read : Json → Option α) :
    null.optional? read = some none := rfl

theorem optional?_of_ne_null {α : Type} {read : Json → Option α} {j : Json} {a : α}
    (hj : j ≠ null) (h : read j = some a) : j.optional? read = some (some a) := by
  cases j with
  | null => exact absurd rfl hj
  | _ => simp only [optional?, h, Option.map_some]

theorem tagged_ne_null (tag : String) (value : Json) : tagged tag value ≠ null := by
  simp [tagged]

theorem not_depth_le_zero (j : Json) : ¬ j.depth ≤ 0 := by
  cases j <;> simp [depth]

theorem depth_le_of_mem {j : Json} {js : List Json} (h : j ∈ js) : j.depth ≤ depthOfValues js := by
  induction js with
  | nil => exact absurd h List.not_mem_nil
  | cons first rest ih =>
    rw [depthOfValues]
    rcases List.mem_cons.mp h with rfl | hrest
    · exact Nat.le_max_left _ _
    · exact Nat.le_trans (ih hrest) (Nat.le_max_right _ _)

/-- `read` gives back what `write` has written, as long as that has no more than `levels` levels. -/
def Restores {α : Type} (levels : Nat) (read : Json → Option α) (write : α → Json) : Prop :=
  ∀ a, (write a).depth ≤ levels → read (write a) = some a

namespace Restores

variable {α : Type} {levels : Nat} {read : Json → Option α} {write : α → Json}

theorem single (h : Restores levels read write) (a : α) (hdepth : (write a).depth ≤ levels) :
    read (write a) = some a := h a hdepth

theorem list (h : Restores levels read write) (as : List α)
    (hdepth : depthOfValues (as.map write) ≤ levels) :
    (arr (as.map write)).list? read = some as := by
  apply list?_map
  intro a ha
  have hmem : write a ∈ as.map write := List.mem_map_of_mem ha
  exact h a (Nat.le_trans (depth_le_of_mem hmem) hdepth)

theorem optional (h : Restores levels read write) (hnull : ∀ a, write a ≠ null) (o : Option α)
    (hdepth : (ofOption (o.map write)).depth ≤ levels) :
    (ofOption (o.map write)).optional? read = some o := by
  cases o with
  | none => rfl
  | some a => exact optional?_of_ne_null (hnull a) (h a hdepth)

end Restores

end Json

open Json (depth depthOfMembers depthOfValues tagged)

@[simp] theorem IdentKind.ofJson?_toJson (k : IdentKind) : IdentKind.ofJson? k.toJson = some k := by
  cases k <;> decide

theorem Identifier.toJson_ne_null (id : Identifier) : id.toJson ≠ .null := by
  cases id <;> simp [Identifier.toJson]

theorem Identifier.read_toJson : ∀ (id : Identifier) (levels : Nat), id.toJson.depth ≤ levels →
    Identifier.read levels id.toJson = some id
  | _, 0, h => absurd h (Json.not_depth_le_zero _)
  | top kind name, levels + 1, _ => by simp [read, toJson]
  | child parent kind name, levels + 1, h => by
    simp only [toJson, depth, depthOfMembers] at h
    have hparent := parent.read_toJson levels (by omega)
    have hsome := Json.optional?_of_ne_null parent.toJson_ne_null hparent
    simp [read, toJson, hsome]

theorem ResolvedPath.read_toJson : ∀ (path : ResolvedPath) (levels : Nat),
    path.toJson.depth ≤ levels → ResolvedPath.read levels path.toJson = some path
  | _, 0, h => absurd h (Json.not_depth_le_zero _)
  | identifier id, levels + 1, h => by
    simp only [toJson, tagged, depth, depthOfMembers] at h
    have hid := id.read_toJson levels (by omega)
    simp [read, toJson, hid]
  | apply functor argument, levels + 1, h => by
    simp only [toJson, tagged, depth, depthOfMembers] at h
    have hfunctor := functor.read_toJson levels (by omega)
    have hargument := argument.read_toJson levels (by omega)
    simp [read, toJson, hfunctor, hargument]
  | dot parent kind name, levels + 1, h => by
    simp only [toJson, tagged, depth, depthOfMembers] at h
    have hparent := parent.read_toJson levels (by omega)
    simp [read, toJson, hparent]

theorem Path.toJson_ne_null (path : Path) : path.toJson ≠ .null := by
  cases path <;> simp [Path.toJson, tagged]

theorem Path.read_toJson : ∀ (path : Path) (levels : Nat), path.toJson.depth ≤ levels →
    Path.read levels path.toJson = some path
  | _, 0, h => absurd h (Json.not_depth_le_zero _)
  | resolved path, levels + 1, h => by
    simp only [toJson, tagged, depth, depthOfMembers] at h
    have hpath := path.read_toJson levels (by omega)
    simp [read, toJson, hpath]
  | root name, levels + 1, _ => by simp [read, toJson]
  | dot parent name, levels + 1, h => by
    simp only [toJson, tagged, depth, depthOfMembers, depthOfValues] at h
    have hparent := parent.read_toJson levels (by omega)
    simp [read, toJson, hparent]
  | apply functor argument, levels + 1, h => by
    simp only [toJson, tagged, depth, depthOfMembers, depthOfValues] at h
    have hfunctor := functor.read_toJson levels (by omega)
    have hargument := argument.read_toJson levels (by omega)
    simp [read, toJson, hfunctor, hargument]

theorem ResolvedFragment.read_toJson : ∀ (f : ResolvedFragment) (levels : Nat),
    f.toJson.depth ≤ levels → ResolvedFragment.read levels f.toJson = some f
  | _, 0, h => absurd h (Json.not_depth_le_zero _)
  | root, levels + 1, _ => by simp [read, toJson, Json.tag?]
  | module parent name, levels + 1, h => by
    simp only [toJson, tagged, depth, depthOfMembers, depthOfValues] at h
    have hparent := parent.read_toJson levels (by omega)
    simp [read, toJson, tagged, Json.tag?, Json.tagged?, hparent]
  | type parent name, levels + 1, h => by
    simp only [toJson, tagged, depth, depthOfMembers, depthOfValues] at h
    have hparent := parent.read_toJson levels (by omega)
    simp [read, toJson, tagged, Json.tag?, Json.tagged?, hparent]

theorem Fragment.read_toJson : ∀ (f : Fragment) (levels : Nat), f.toJson.depth ≤ levels →
    Fragment.read levels f.toJson = some f
  | _, 0, h => absurd h (Json.not_depth_le_zero _)
  | resolved fragment, levels + 1, h => by
    simp only [toJson, tagged, depth, depthOfMembers] at h
    have hfragment := fragment.read_toJson levels (by omega)
    simp [read, toJson, hfragment]
  | root, levels + 1, _ => by simp [read, toJson, Json.tag?]
  | dot parent name, levels + 1, h => by
    simp only [toJson, tagged, depth, depthOfMembers, depthOfValues] at h
    have hparent := parent.read_toJson levels (by omega)
    simp [read, toJson, tagged, Json.tag?, Json.tagged?, hparent]

theorem Label.toJson_ne_null (label : Label) : label.toJson ≠ .null := by
  cases label <;> exact Json.tagged_ne_null _ _

@[simp] theorem Label.ofJson?_toJson (label : Label) : Label.ofJson? label.toJson = some label := by
  cases label <;> simp [ofJson?, toJson]

@[simp] theorem Label.optional?_toJson (o : Option Label) :
    (Json.ofOption (o.map Label.toJson)).optional? Label.ofJson? = some o := by
  cases o with
  | none => rfl
  | some label => exact Json.optional?_of_ne_null label.toJson_ne_null label.ofJson?_toJson

@[simp] theorem VariantKind.ofJson?_toJson (kind : VariantKind) :
    VariantKind.ofJson? kind.toJson = some kind := by
  have hstrings (tags : List String) : (Json.arr (tags.map .str)).strings? = some tags :=
    Json.strings?_strings tags
  cases kind <;> simp [ofJson?, toJson, tagged, Json.tag?, Json.tagged?, Json.strings, hstrings]

theorem TypeExpr.toJson_ne_null (t : TypeExpr) : t.toJson ≠ .null := by
  cases t <;> simp [TypeExpr.toJson, tagged]

mutual

theorem TypeExpr.read_toJson : ∀ (t : TypeExpr) (levels : Nat), t.toJson.depth ≤ levels →
    TypeExpr.read levels t.toJson = some t
  | _, 0, h => absurd h (Json.not_depth_le_zero _)
  | .var name, levels + 1, _ => by
    simp [TypeExpr.read, TypeExpr.toJson, tagged, Json.tag?, Json.tagged?]
  | .any, levels + 1, _ => by simp [TypeExpr.read, TypeExpr.toJson, Json.tag?]
  | .arrow label arg ret, levels + 1, h => by
    simp only [TypeExpr.toJson, tagged, depth, depthOfMembers] at h
    have harg := arg.read_toJson levels (by omega)
    have hret := ret.read_toJson levels (by omega)
    simp [TypeExpr.read, TypeExpr.toJson, tagged, Json.tag?, Json.tagged?, harg, hret]
  | .tuple types, levels + 1, h => by
    simp only [TypeExpr.toJson, tagged, depth, depthOfMembers] at h
    have htypes := typesToJson_read types levels (by omega)
    simp [TypeExpr.read, TypeExpr.toJson, tagged, Json.tag?, Json.tagged?, htypes]
  | .constr path args, levels + 1, h => by
    simp only [TypeExpr.toJson, tagged, depth, depthOfMembers, depthOfValues] at h
    have hpath := path.read_toJson levels (by omega)
    have hargs := typesToJson_read args levels (by omega)
    simp [TypeExpr.read, TypeExpr.toJson, tagged, Json.tag?, Json.tagged?, hpath, hargs]
  | .variant kind elements, levels + 1, h => by
    simp only [TypeExpr.toJson, tagged, depth, depthOfMembers] at h
    have helements := elementsToJson_read elements levels (by omega)
    simp [TypeExpr.read, TypeExpr.toJson, tagged, Json.tag?, Json.tagged?, helements]
  | .object fields isOpen, levels + 1, h => by
    simp only [TypeExpr.toJson, tagged, depth, depthOfMembers] at h
    have hfields := objectFieldsToJson_read fields levels (by omega)
    simp [TypeExpr.read, TypeExpr.toJson, tagged, Json.tag?, Json.tagged?, hfields]
  | .classRef path args, levels + 1, h => by
    simp only [TypeExpr.toJson, tagged, depth, depthOfMembers, depthOfValues] at h
    have hpath := path.read_toJson levels (by omega)
    have hargs := typesToJson_read args levels (by omega)
    simp [TypeExpr.read, TypeExpr.toJson, tagged, Json.tag?, Json.tagged?, hpath, hargs]
  | .poly vars body, levels + 1, h => by
    simp only [TypeExpr.toJson, tagged, depth, depthOfMembers, depthOfValues] at h
    have hbody := body.read_toJson levels (by omega)
    simp [TypeExpr.read, TypeExpr.toJson, tagged, Json.tag?, Json.tagged?, hbody]
  | .package path constraints, levels + 1, h => by
    simp only [TypeExpr.toJson, tagged, depth, depthOfMembers] at h
    have hpath := path.read_toJson levels (by omega)
    have hconstraints := packageToJson_read constraints levels (by omega)
    simp [TypeExpr.read, TypeExpr.toJson, tagged, Json.tag?, Json.tagged?, hpath, hconstraints]

theorem typesToJson_read : ∀ (ts : List TypeExpr) (levels : Nat),
    depthOfValues (typesToJson ts) ≤ levels →
    (Json.arr (typesToJson ts)).list? (TypeExpr.read levels) = some ts
  | [], levels, _ => by simp [typesToJson]
  | t :: ts, levels, h => by
    simp only [typesToJson, depthOfValues] at h ⊢
    exact Json.list?_cons (t.read_toJson levels (by omega)) (typesToJson_read ts levels (by omega))

theorem elementsToJson_read : ∀ (es : List VariantElement) (levels : Nat),
    depthOfValues (elementsToJson es) ≤ levels →
    (Json.arr (elementsToJson es)).list? (VariantElement.read (TypeExpr.read levels)) = some es
  | [], levels, _ => by simp [elementsToJson]
  | .type t :: es, levels, h => by
    simp only [elementsToJson, depthOfValues, tagged, depth, depthOfMembers] at h
    have ht := t.read_toJson levels (by omega)
    rw [elementsToJson]
    exact Json.list?_cons (by simp [VariantElement.read, ht])
      (elementsToJson_read es levels (by omega))
  | .constructor name constant args :: es, levels, h => by
    simp only [elementsToJson, depthOfValues, tagged, depth, depthOfMembers] at h
    have hargs := typesToJson_read args levels (by omega)
    rw [elementsToJson]
    exact Json.list?_cons (by simp [VariantElement.read, hargs])
      (elementsToJson_read es levels (by omega))

theorem objectFieldsToJson_read : ∀ (fs : List ObjectField) (levels : Nat),
    depthOfValues (objectFieldsToJson fs) ≤ levels →
    (Json.arr (objectFieldsToJson fs)).list? (ObjectField.read (TypeExpr.read levels)) = some fs
  | [], levels, _ => by simp [objectFieldsToJson]
  | .method name t :: fs, levels, h => by
    simp only [objectFieldsToJson, depthOfValues, tagged, depth, depthOfMembers] at h
    have ht := t.read_toJson levels (by omega)
    rw [objectFieldsToJson]
    exact Json.list?_cons (by simp [ObjectField.read, ht])
      (objectFieldsToJson_read fs levels (by omega))
  | .inherit t :: fs, levels, h => by
    simp only [objectFieldsToJson, depthOfValues, tagged, depth, depthOfMembers] at h
    have ht := t.read_toJson levels (by omega)
    rw [objectFieldsToJson]
    exact Json.list?_cons (by simp [ObjectField.read, ht])
      (objectFieldsToJson_read fs levels (by omega))

theorem packageToJson_read : ∀ (cs : List PackageConstraint) (levels : Nat),
    depthOfValues (packageToJson cs) ≤ levels →
    (Json.arr (packageToJson cs)).list? (PackageConstraint.read levels (TypeExpr.read levels)) =
      some cs
  | [], levels, _ => by simp [packageToJson]
  | ⟨fragment, t⟩ :: cs, levels, h => by
    simp only [packageToJson, depthOfValues, depth] at h
    have hfragment := fragment.read_toJson levels (by omega)
    have ht := t.read_toJson levels (by omega)
    rw [packageToJson]
    exact Json.list?_cons (by simp [PackageConstraint.read, hfragment, ht])
      (packageToJson_read cs levels (by omega))

end

theorem TypeExpr.restores (levels : Nat) :
    Json.Restores levels (TypeExpr.read levels) (·.toJson) :=
  fun t h => t.read_toJson levels h

theorem TypeEquation.restores (levels : Nat) :
    Json.Restores levels (TypeEquation.read levels) (·.toJson) := by
  intro eq h
  simp only [toJson, depth, depthOfMembers] at h
  have hpair : Json.Restores levels (readConstraint levels)
      fun c => .arr [c.1.toJson, c.2.toJson] := by
    intro c hc
    simp only [depth, depthOfValues] at hc
    have hleft := c.1.read_toJson levels (by omega)
    have hright := c.2.read_toJson levels (by omega)
    simp [readConstraint, hleft, hright]
  have hmanifest := (TypeExpr.restores levels).optional TypeExpr.toJson_ne_null eq.manifest
    (by omega)
  have hconstraints := hpair.list eq.constraints (by omega)
  simp [read, toJson, hmanifest, hconstraints]

theorem Field.restores (levels : Nat) : Json.Restores levels (Field.read levels) (·.toJson) := by
  intro f h
  simp only [toJson, depth, depthOfMembers] at h
  have hid := f.id.read_toJson levels (by omega)
  have htype := f.type.read_toJson levels (by omega)
  simp [read, toJson, hid, htype]

theorem ConstructorArgs.restores (levels : Nat) :
    Json.Restores levels (ConstructorArgs.read levels) (·.toJson) := by
  intro args h
  cases args with
  | tuple types =>
    simp only [toJson, tagged, depth, depthOfMembers] at h
    have htypes := (TypeExpr.restores levels).list types (by omega)
    simp [read, toJson, htypes]
  | record fields =>
    simp only [toJson, tagged, depth, depthOfMembers] at h
    have hfields := (Field.restores levels).list fields (by omega)
    simp [read, toJson, hfields]

theorem Constructor.restores (levels : Nat) :
    Json.Restores levels (Constructor.read levels) (·.toJson) := by
  intro c h
  simp only [toJson, depth, depthOfMembers] at h
  have hid := c.id.read_toJson levels (by omega)
  have hargs := (ConstructorArgs.restores levels).single c.args (by omega)
  have hres := (TypeExpr.restores levels).optional TypeExpr.toJson_ne_null c.res (by omega)
  simp [read, toJson, hid, hargs, hres]

theorem TypeRepr.toJson_ne_null (repr : TypeRepr) : repr.toJson ≠ .null := by
  cases repr <;> simp [TypeRepr.toJson, tagged]

theorem TypeRepr.restores (levels : Nat) :
    Json.Restores levels (TypeRepr.read levels) (·.toJson) := by
  intro repr h
  cases repr with
  | variant constructors =>
    simp only [toJson, tagged, depth, depthOfMembers] at h
    have hconstructors := (Constructor.restores levels).list constructors (by omega)
    simp [read, toJson, tagged, Json.tag?, Json.tagged?, hconstructors]
  | record fields =>
    simp only [toJson, tagged, depth, depthOfMembers] at h
    have hfields := (Field.restores levels).list fields (by omega)
    simp [read, toJson, tagged, Json.tag?, Json.tagged?, hfields]
  | extensible => simp [read, toJson, Json.tag?]

theorem TypeDecl.restores (levels : Nat) :
    Json.Restores levels (TypeDecl.read levels) (·.toJson) := by
  intro t h
  simp only [toJson, depth, depthOfMembers] at h
  have hid := t.id.read_toJson levels (by omega)
  have hequation := (TypeEquation.restores levels).single t.equation (by omega)
  have hrepresentation := (TypeRepr.restores levels).optional TypeRepr.toJson_ne_null
    t.representation (by omega)
  simp [read, toJson, hid, hequation, hrepresentation]

theorem Value.restores (levels : Nat) : Json.Restores levels (Value.read levels) (·.toJson) := by
  intro v h
  simp only [toJson, depth, depthOfMembers] at h
  have hid := v.id.read_toJson levels (by omega)
  have htype := v.type.read_toJson levels (by omega)
  simp [read, toJson, hid, htype]

theorem External.restores (levels : Nat) :
    Json.Restores levels (External.read levels) (·.toJson) := by
  intro e h
  simp only [toJson, depth, depthOfMembers] at h
  have hid := e.id.read_toJson levels (by omega)
  have htype := e.type.read_toJson levels (by omega)
  simp [read, toJson, hid, htype]

theorem Extension.restores (levels : Nat) :
    Json.Restores levels (Extension.read levels) (·.toJson) := by
  intro e h
  simp only [toJson, depth, depthOfMembers] at h
  have htypePath := e.typePath.read_toJson levels (by omega)
  have hconstructors := (Constructor.restores levels).list e.constructors (by omega)
  simp [read, toJson, htypePath, hconstructors]

theorem Method.restores (levels : Nat) : Json.Restores levels (Method.read levels) (·.toJson) := by
  intro m h
  simp only [toJson, depth, depthOfMembers] at h
  have hid := m.id.read_toJson levels (by omega)
  have htype := m.type.read_toJson levels (by omega)
  simp [read, toJson, hid, htype]

theorem InstanceVariable.restores (levels : Nat) :
    Json.Restores levels (InstanceVariable.read levels) (·.toJson) := by
  intro v h
  simp only [toJson, depth, depthOfMembers] at h
  have hid := v.id.read_toJson levels (by omega)
  have htype := v.type.read_toJson levels (by omega)
  simp [read, toJson, hid, htype]

mutual

theorem ClassTypeExpr.read_toJson : ∀ (expr : ClassTypeExpr) (levels : Nat),
    expr.toJson.depth ≤ levels → ClassTypeExpr.read levels expr.toJson = some expr
  | _, 0, h => absurd h (Json.not_depth_le_zero _)
  | .constr path args, levels + 1, h => by
    simp only [ClassTypeExpr.toJson, tagged, depth, depthOfMembers, depthOfValues] at h
    have hpath := path.read_toJson levels (by omega)
    have hargs := (TypeExpr.restores levels).list args (by omega)
    simp [ClassTypeExpr.read, ClassTypeExpr.toJson, hpath, hargs]
  | .signature sig, levels + 1, h => by
    simp only [ClassTypeExpr.toJson, tagged, depth, depthOfMembers] at h
    have hsig := sig.read_toJson levels (by omega)
    simp [ClassTypeExpr.read, ClassTypeExpr.toJson, hsig]

theorem ClassSignature.read_toJson : ∀ (sig : ClassSignature) (levels : Nat),
    sig.toJson.depth ≤ levels → ClassSignature.read levels sig.toJson = some sig
  | _, 0, h => absurd h (Json.not_depth_le_zero _)
  | ⟨self, items⟩, levels + 1, h => by
    simp only [ClassSignature.toJson, depth, depthOfMembers] at h
    have hself := (TypeExpr.restores levels).optional TypeExpr.toJson_ne_null self (by omega)
    have hitems := classItemsToJson_read items levels (by omega)
    simp [ClassSignature.read, ClassSignature.toJson, hself, hitems]

theorem classItemsToJson_read : ∀ (items : List ClassItem) (levels : Nat),
    depthOfValues (classItemsToJson items) ≤ levels →
    (Json.arr (classItemsToJson items)).list? (ClassItem.read levels) = some items
  | [], levels, _ => by simp [classItemsToJson]
  | item :: items, levels, h => by
    simp only [classItemsToJson, depthOfValues] at h ⊢
    exact Json.list?_cons (item.read_toJson levels (by omega))
      (classItemsToJson_read items levels (by omega))

theorem ClassItem.read_toJson : ∀ (item : ClassItem) (levels : Nat),
    item.toJson.depth ≤ levels → ClassItem.read levels item.toJson = some item
  | _, 0, h => absurd h (Json.not_depth_le_zero _)
  | .method m, levels + 1, h => by
    simp only [ClassItem.toJson, tagged, depth, depthOfMembers] at h
    have hm := (Method.restores levels).single m (by omega)
    simp [ClassItem.read, ClassItem.toJson, hm]
  | .instanceVariable v, levels + 1, h => by
    simp only [ClassItem.toJson, tagged, depth, depthOfMembers] at h
    have hv := (InstanceVariable.restores levels).single v (by omega)
    simp [ClassItem.read, ClassItem.toJson, hv]
  | .constraint lhs rhs, levels + 1, h => by
    simp only [ClassItem.toJson, tagged, depth, depthOfMembers, depthOfValues] at h
    have hlhs := lhs.read_toJson levels (by omega)
    have hrhs := rhs.read_toJson levels (by omega)
    simp [ClassItem.read, ClassItem.toJson, hlhs, hrhs]
  | .inherit expr, levels + 1, h => by
    simp only [ClassItem.toJson, tagged, depth, depthOfMembers] at h
    have hexpr := expr.read_toJson levels (by omega)
    simp [ClassItem.read, ClassItem.toJson, hexpr]
  | .comment text, levels + 1, _ => by simp [ClassItem.read, ClassItem.toJson]

end

theorem ClassDecl.read_toJson : ∀ (decl : ClassDecl) (levels : Nat),
    decl.toJson.depth ≤ levels → ClassDecl.read levels decl.toJson = some decl
  | _, 0, h => absurd h (Json.not_depth_le_zero _)
  | classType expr, levels + 1, h => by
    simp only [toJson, tagged, depth, depthOfMembers] at h
    have hexpr := expr.read_toJson levels (by omega)
    simp [read, toJson, hexpr]
  | arrow label arg body, levels + 1, h => by
    simp only [toJson, tagged, depth, depthOfMembers, depthOfValues] at h
    have harg := arg.read_toJson levels (by omega)
    have hbody := body.read_toJson levels (by omega)
    simp [read, toJson, harg, hbody]

theorem ClassSignature.optional?_toJson (levels : Nat) (o : Option ClassSignature)
    (h : (Json.ofOption (o.map (·.toJson))).depth ≤ levels) :
    (Json.ofOption (o.map (·.toJson))).optional? (ClassSignature.read levels) = some o := by
  have restores : Json.Restores levels (ClassSignature.read levels) (·.toJson) :=
    fun sig hsig => sig.read_toJson levels hsig
  refine restores.optional (fun sig => ?_) o h
  cases sig
  simp [ClassSignature.toJson]

theorem Class.restores (levels : Nat) : Json.Restores levels (Class.read levels) (·.toJson) := by
  intro c h
  simp only [toJson, depth, depthOfMembers] at h
  have hid := c.id.read_toJson levels (by omega)
  have hdecl := c.decl.read_toJson levels (by omega)
  have hexpansion := ClassSignature.optional?_toJson levels c.expansion (by omega)
  simp [read, toJson, hid, hdecl, hexpansion]

theorem ClassType.restores (levels : Nat) :
    Json.Restores levels (ClassType.read levels) (·.toJson) := by
  intro c h
  simp only [toJson, depth, depthOfMembers] at h
  have hid := c.id.read_toJson levels (by omega)
  have hexpr := c.expr.read_toJson levels (by omega)
  have hexpansion := ClassSignature.optional?_toJson levels c.expansion (by omega)
  simp [read, toJson, hid, hexpr, hexpansion]

end CrossRef
