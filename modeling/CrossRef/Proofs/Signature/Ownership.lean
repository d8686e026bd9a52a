import CrossRef.Proofs.Env.Bindings
import CrossRef.Proofs.Signature.Refinement
import CrossRef.Signature.Move
import CrossRef.Signature.Strengthen

/-! Whose members the items of a signature are. Moving a signature gives all its items the new
owner; strengthening and compiling leave them theirs. -/

namespace CrossRef

namespace Identifier

variable (old new : Identifier) (shadowed : Shadowed)

theorem moved?_self : moved? old new shadowed old = some new := by
  cases old <;> simp [moved?]

theorem child_ne_self (p : Identifier) (k : IdentKind) (n : String) : p.child k n ≠ p := by
  intro h
  have hsize := congrArg sizeOf h
  simp at hsize
  omega

theorem moved?_member (k : IdentKind) (n : String) :
    ∃ n', moved? old new shadowed (old.child k n) = some (new.child k n') := by
  simp [moved?, child_ne_self]

end Identifier

namespace Item

/-- What the item declares is a member of `owner`. An include declares nothing of its own, but says
whose members the ones it stands for are. -/
def BelongsTo (owner : Identifier) : Item → Prop
  | included i => i.parent = owner
  | item => ∀ id, item.identifier? = some id → id.parent? = some owner

variable {owner : Identifier} {item : Item}

theorem belongsTo_iff_of_not_included (h : ∀ i, item ≠ included i) :
    item.BelongsTo owner ↔ ∀ id, item.identifier? = some id → id.parent? = some owner := by
  cases item with
  | included i => exact absurd rfl (h i)
  | _ => exact Iff.rfl

theorem owner?_of_not_included (h : ∀ i, item ≠ included i) :
    item.owner? = item.identifier?.bind (·.parent?) := by
  cases item with
  | included i => exact absurd rfl (h i)
  | _ => rfl

theorem BelongsTo.eq_of_owner? (h : item.BelongsTo owner) {other : Identifier}
    (hother : item.owner? = some other) : other = owner := by
  rcases item.included_or_plain with ⟨i, rfl⟩ | hplain
  · exact (Option.some.inj hother).symm.trans h
  · rw [owner?_of_not_included hplain] at hother
    obtain ⟨id, hid, hparent⟩ := Option.bind_eq_some_iff.mp hother
    have howner := (belongsTo_iff_of_not_included hplain).mp h id hid
    exact Option.some.inj (hparent.symm.trans howner)

theorem BelongsTo.of_owner?_eq_none (h : item.BelongsTo owner) (hnone : item.owner? = none)
    (other : Identifier) : item.BelongsTo other := by
  rcases item.included_or_plain with ⟨i, rfl⟩ | hplain
  · cases hnone
  · rw [belongsTo_iff_of_not_included hplain] at h ⊢
    rw [owner?_of_not_included hplain] at hnone
    intro id hid
    rw [hid, Option.bind_some, h id hid] at hnone
    cases hnone

theorem identifier?_mapLeaves (r : LeafMap) (item : Item) :
    (item.mapLeaves r).identifier? = item.identifier?.map r.ident := by
  cases item with
  | module m =>
    obtain ⟨id, doc, decl, hidden⟩ := m
    simp [Item.mapLeaves, Module.mapLeaves, identifier?]
  | moduleType m =>
    obtain ⟨id, doc, expr⟩ := m
    cases expr <;> simp [Item.mapLeaves, ModuleType.mapLeaves, identifier?]
  | _ =>
    rw [Item.mapLeaves]
    rfl

theorem BelongsTo.mapLeaves {r : LeafMap} {new : Identifier} (howner : r.ident owner = new)
    (hmember : ∀ k n, (r.ident (owner.child k n)).parent? = some new) (h : item.BelongsTo owner) :
    (item.mapLeaves r).BelongsTo new := by
  rcases item.included_or_plain with ⟨i, rfl⟩ | hplain
  · obtain ⟨parent, doc, decl, strengthened, shadowed, content⟩ := i
    have hparent : parent = owner := h
    rw [Item.mapLeaves, Include.mapLeaves]
    show r.ident parent = new
    rw [hparent, howner]
  · have hmapped : ∀ i, item.mapLeaves r ≠ included i := by
      intro i
      cases item with
      | included j => exact absurd rfl (hplain j)
      | _ => simp [Item.mapLeaves]
    rw [belongsTo_iff_of_not_included hplain] at h
    rw [belongsTo_iff_of_not_included hmapped]
    intro id hid
    rw [identifier?_mapLeaves] at hid
    obtain ⟨declared, hdeclared, rfl⟩ := Option.map_eq_some_iff.mp hid
    have hparent := h declared hdeclared
    cases declared with
    | top k n => cases hparent
    | child p k n =>
      obtain rfl : p = owner := Option.some.inj hparent
      exact hmember k n

theorem BelongsTo.strengthen (path : ResolvedPath) (h : item.BelongsTo owner) :
    (item.strengthen path).BelongsTo owner := by
  fun_cases Item.strengthen path item with
  | case1 t =>
    have hid : (t.strengthen path).id = t.id := by
      unfold TypeDecl.strengthen
      split <;> rfl
    intro id hdeclared
    apply h id
    rw [← hdeclared]
    exact congrArg some hid.symm
  | _ => exact h

theorem Refines.belongsTo {item' : Item} (hrefines : item.Refines item')
    (h : item.BelongsTo owner) : item'.BelongsTo owner := by
  have hdeclared := hrefines.identifier?
  cases hrefines with
  | included hi =>
    cases hi
    exact h
  | _ => exact fun id hid => h id (hdeclared.symm.trans hid)

end Item

theorem mapItems_eq_map (r : LeafMap) (items : List Item) :
    mapItems r items = items.map (·.mapLeaves r) := by
  induction items with
  | nil => rw [mapItems, List.map_nil]
  | cons item items ih => rw [mapItems, List.map_cons, ih]

theorem strengthenItems_eq_map (path : ResolvedPath) (items : List Item) :
    strengthenItems path items = items.map (·.strengthen path) := by
  induction items with
  | nil => rw [strengthenItems, List.map_nil]
  | cons item items ih => rw [strengthenItems, List.map_cons, ih]

namespace Signature

variable {owner : Identifier} {sig : Signature}

def BelongsTo (owner : Identifier) (sig : Signature) : Prop :=
  ∀ item ∈ sig.items, item.BelongsTo owner

theorem BelongsTo.eq_of_parent? (h : sig.BelongsTo owner) {other : Identifier}
    (hother : sig.parent? = some other) : other = owner := by
  obtain ⟨item, hitem, howner⟩ := List.exists_of_findSome?_eq_some hother
  exact (h item hitem).eq_of_owner? howner

theorem BelongsTo.reparent (h : sig.BelongsTo owner) (parent : Identifier) (shadowed : Shadowed) :
    (sig.reparent parent shadowed).BelongsTo parent := by
  unfold Signature.reparent
  cases hold : sig.parent? with
  | none =>
    intro item hitem
    have hnone : item.owner? = none := List.findSome?_eq_none_iff.mp hold item hitem
    exact (h item hitem).of_owner?_eq_none hnone parent
  | some old =>
    obtain rfl := h.eq_of_parent? hold
    dsimp only
    split
    case isTrue hsame =>
      rw [← hsame.1]
      exact h
    case isFalse =>
      obtain ⟨items, compiled, doc⟩ := sig
      intro moved hmoved
      rw [Signature.mapLeaves, mapItems_eq_map] at hmoved
      obtain ⟨item, hitem, rfl⟩ := List.mem_map.mp hmoved
      refine (h item hitem).mapLeaves ?_ fun k n => ?_
      · simp [LeafMap.identifiers, Identifier.moved?_self]
      · obtain ⟨n', hn'⟩ := Identifier.moved?_member old parent shadowed k n
        simp [LeafMap.identifiers, hn', Identifier.parent?]

theorem BelongsTo.strengthen (h : sig.BelongsTo owner) (path : ResolvedPath) :
    (sig.strengthen path).BelongsTo owner := by
  obtain ⟨items, compiled, doc⟩ := sig
  intro stronger hstronger
  rw [Signature.strengthen, strengthenItems_eq_map] at hstronger
  obtain ⟨item, hitem, rfl⟩ := List.mem_map.mp hstronger
  exact (h item hitem).strengthen path

theorem Refines.belongsTo {sig' : Signature} (hrefines : sig.Refines sig')
    (h : sig.BelongsTo owner) : sig'.BelongsTo owner := by
  cases hrefines with
  | marked items doc => exact h
  | items doc hitems =>
    unfold BelongsTo at h ⊢
    dsimp only at h ⊢
    induction hitems with
    | nil => exact h
    | cons hitem _ ih =>
      rw [List.forall_mem_cons] at h ⊢
      exact ⟨hitem.belongsTo h.1, ih h.2⟩

end Signature

end CrossRef
