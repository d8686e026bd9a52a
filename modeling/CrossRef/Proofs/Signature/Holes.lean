import CrossRef.Proofs.Signature.Ownership
import CrossRef.Proofs.Signature.Update

/-! Places in a signature. A member stands in the signature itself or in the content of an include,
and a hole says where. A change fills the hole of a member with another one, and what is removed
leaves an empty hole. -/

namespace CrossRef

/-- A signature with a place for items, in its own list or in the content of one of its includes. -/
inductive Hole where
  | here (front back : List Item) (compiled : Bool) (doc : Docs)
  | inside (front : List Item) (parent : Identifier) (includeDoc : Docs) (decl : IncludeDecl)
      (strengthened : Option Path) (shadowed : Shadowed) (content : Hole) (back : List Item)
      (compiled : Bool) (doc : Docs)

namespace Hole

def fill (items : List Item) : Hole → Signature
  | here front back compiled doc => ⟨front ++ items ++ back, compiled, doc⟩
  | inside front parent includeDoc decl strengthened shadowed content back compiled doc =>
    ⟨front ++ .included ⟨parent, includeDoc, decl, strengthened, shadowed, content.fill items⟩ ::
      back, compiled, doc⟩

def after : Hole → List Item
  | here _ back _ _ => membersOfItems back
  | inside _ _ _ _ _ _ content back _ _ => content.after ++ membersOfItems back

def passed : Hole → List Item
  | here _ _ _ _ => []
  | inside front _ _ _ _ _ content _ _ _ => front ++ content.passed

def Last (pick : Item → Bool) (hole : Hole) : Prop := ∀ item ∈ hole.after, pick item = false

theorem Last.mono {test pick : Item → Bool} {hole : Hole} (h : hole.Last test)
    (hpick : ∀ item, pick item = true → test item = true) : hole.Last pick := by
  intro item hitem
  have hfails := h item hitem
  rw [Bool.eq_false_iff] at hfails ⊢
  exact fun haccepted => hfails (hpick item haccepted)

def cons (item : Item) : Hole → Hole
  | here front back compiled doc => here (item :: front) back compiled doc
  | inside front parent includeDoc decl strengthened shadowed content back compiled doc =>
    inside (item :: front) parent includeDoc decl strengthened shadowed content back compiled doc

theorem fill_cons (first : Item) (hole : Hole) (items : List Item) :
    (hole.cons first).fill items =
      { hole.fill items with items := first :: (hole.fill items).items } := by
  cases hole <;> rfl

theorem after_cons (first : Item) (hole : Hole) : (hole.cons first).after = hole.after := by
  cases hole <;> rfl

end Hole

section Found

variable {test : Item → Bool} {item : Item}

mutual

theorem Signature.exists_hole : ∀ {sig : Signature},
    sig.members.reverse.find? test = some item →
      ∃ hole : Hole, sig = hole.fill [item] ∧ hole.Last test
  | ⟨items, compiled, doc⟩, h => by
    rw [Signature.members] at h
    exact exists_hole_items compiled doc h

theorem exists_hole_items (compiled : Bool) (doc : Docs) : ∀ {items : List Item},
    (membersOfItems items).reverse.find? test = some item →
      ∃ hole : Hole, ⟨items, compiled, doc⟩ = hole.fill [item] ∧ hole.Last test
  | [], h => by
    rw [membersOfItems] at h
    cases h
  | first :: items, h => by
    rw [membersOfItems, List.reverse_append, List.find?_append] at h
    -- What is found later is at a hole further back; otherwise it is in the first item.
    cases hlater : (membersOfItems items).reverse.find? test with
    | some later =>
      have hitem : later = item := by simpa [hlater] using h
      obtain ⟨hole, hfill, hlast⟩ := exists_hole_items compiled doc (hitem ▸ hlater)
      refine ⟨hole.cons first, ?_, ?_⟩
      · rw [Hole.fill_cons, ← hfill]
      · rw [Hole.Last, Hole.after_cons]
        exact hlast
    | none =>
      rw [hlater, Option.none_or] at h
      have hrest : ∀ other ∈ membersOfItems items, test other = false := by
        intro other hother
        have hfails := List.find?_eq_none.mp hlater other (List.mem_reverse.mpr hother)
        exact Bool.eq_false_iff.mpr hfails
      exact first.exists_hole items compiled doc hrest h

theorem Item.exists_hole (items : List Item) (compiled : Bool) (doc : Docs)
    (hrest : ∀ other ∈ membersOfItems items, test other = false) (first : Item)
    (h : first.members.reverse.find? test = some item) :
    ∃ hole : Hole, ⟨first :: items, compiled, doc⟩ = hole.fill [item] ∧ hole.Last test := by
  rcases first.included_or_plain with ⟨i, rfl⟩ | hplain
  · rw [Item.members] at h
    obtain ⟨hole, hfill, hlast⟩ := i.exists_hole h
    refine ⟨.inside [] i.parent i.doc i.decl i.strengthened i.shadowed hole items compiled doc,
      ?_, ?_⟩
    · cases i
      rw [Hole.fill, ← hfill]
      rfl
    · rw [Hole.Last, Hole.after, List.forall_mem_append]
      exact ⟨hlast, hrest⟩
  · rw [Item.members_of_not_included hplain] at h
    have hitem : item = first := List.mem_singleton.mp (List.mem_of_find?_eq_some h)
    exact ⟨.here [] items compiled doc, by rw [hitem]; rfl, hrest⟩

theorem Include.exists_hole : ∀ {i : Include}, i.members.reverse.find? test = some item →
    ∃ hole : Hole, i.content = hole.fill [item] ∧ hole.Last test
  | ⟨_, _, _, _, _, content⟩, h => by
    rw [Include.members] at h
    exact content.exists_hole h

end

end Found

section Change

variable {pick : Item → Bool} {f : Item → Item}

theorem updateLastItem_eq_none (hf : StableChange pick f) {items : List Item}
    (h : ∀ member ∈ membersOfItems items, pick member = false) :
    updateLastItem pick f items = none := by
  have hmembers := membersOfItems_updateLast hf items
  rw [changeLast_eq_none h] at hmembers
  exact Option.map_eq_none_iff.mp hmembers

theorem updateLastItem_append_cons {item changed : Item}
    (hitem : item.updateLast pick f = some changed) (front : List Item) {back : List Item}
    (hback : updateLastItem pick f back = none) :
    updateLastItem pick f (front ++ item :: back) = some (front ++ changed :: back) := by
  induction front with
  | nil =>
    rw [List.nil_append, updateLastItem, hback, hitem]
    rfl
  | cons first front ih =>
    rw [List.cons_append, updateLastItem, ih]
    rfl

theorem Hole.updateLast_fill (hf : StableChange pick f) {item : Item}
    (hplain : ∀ i, item ≠ .included i) (hitem : pick item = true) {hole : Hole}
    (hlast : hole.Last pick) :
    (hole.fill [item]).updateLast pick f = some (hole.fill [f item]) := by
  induction hole with
  | here front back compiled doc =>
    have hchanged : item.updateLast pick f = some (f item) := by
      rw [Item.updateLast_of_not_included hplain, if_pos hitem]
    have hback := updateLastItem_append_cons hchanged front (updateLastItem_eq_none hf hlast)
    rw [fill, fill, Signature.updateLast, List.append_assoc, List.append_assoc,
      List.singleton_append, List.singleton_append, hback]
    rfl
  | inside front parent includeDoc decl strengthened shadowed content back compiled doc ih =>
    obtain ⟨hcontent, hback⟩ := List.forall_mem_append.mp hlast
    have hchanged : (Item.included ⟨parent, includeDoc, decl, strengthened, shadowed,
        content.fill [item]⟩).updateLast pick f =
          some (.included ⟨parent, includeDoc, decl, strengthened, shadowed,
            content.fill [f item]⟩) := by
      rw [Item.updateLast, Include.updateLast, ih hcontent]
      rfl
    rw [fill, fill, Signature.updateLast,
      updateLastItem_append_cons hchanged front (updateLastItem_eq_none hf hback)]
    rfl

end Change

section Removal

variable {pick : Item → Bool}

theorem takeLast_eq_none_iff {items : List Item} :
    takeLast pick items = none ↔ ∀ item ∈ items, pick item = false := by
  induction items with
  | nil => simp [takeLast]
  | cons first items ih =>
    rw [takeLast, List.forall_mem_cons, ← ih]
    cases takeLast pick items with
    | none => simp
    | some taken => simp

theorem takeLast_append_cons {item : Item} (hitem : pick item = true) (front : List Item)
    {back : List Item} (hback : takeLast pick back = none) :
    takeLast pick (front ++ item :: back) = some (item, front ++ back) := by
  induction front with
  | nil =>
    rw [List.nil_append, takeLast, hback, hitem]
    rfl
  | cons first front ih =>
    rw [List.cons_append, takeLast, ih]
    rfl

theorem takeLast_eq_some {items rest : List Item} {taken : Item}
    (h : takeLast pick items = some (taken, rest)) :
    ∃ front back, items = front ++ taken :: back ∧ rest = front ++ back ∧ pick taken = true := by
  induction items generalizing rest with
  | nil => cases h
  | cons first items ih =>
    rw [takeLast] at h
    cases hlater : takeLast pick items with
    | some later =>
      obtain ⟨later, rest'⟩ := later
      rw [hlater] at h
      cases h
      obtain ⟨front, back, rfl, rfl, hpick⟩ := ih hlater
      exact ⟨first :: front, back, rfl, rfl, hpick⟩
    | none =>
      rw [hlater] at h
      obtain ⟨hpick, ⟨⟩⟩ := Option.ite_none_right_eq_some.mp h
      exact ⟨[], items, rfl, rfl, hpick⟩

theorem removeFromIncludes_append_cons {item changed taken : Item}
    (hitem : item.removeIncluded pick = some (taken, changed)) (front : List Item)
    {back : List Item} (hback : removeFromIncludes pick back = none) :
    removeFromIncludes pick (front ++ item :: back) = some (taken, front ++ changed :: back) := by
  induction front with
  | nil =>
    rw [List.nil_append, removeFromIncludes, hback, hitem]
    rfl
  | cons first front ih =>
    rw [List.cons_append, removeFromIncludes, ih]
    rfl

theorem takeLast_eq_none_of_members (hincluded : ∀ i, pick (.included i) = false)
    {items : List Item} (h : ∀ member ∈ membersOfItems items, pick member = false) :
    takeLast pick items = none := by
  induction items with
  | nil => rfl
  | cons first items ih =>
    rw [membersOfItems, List.forall_mem_append] at h
    have hfirst : pick first = false := by
      rcases first.included_or_plain with ⟨i, rfl⟩ | hplain
      · exact hincluded i
      · rw [Item.members_of_not_included hplain, List.forall_mem_singleton] at h
        exact h.1
    rw [takeLast, ih h.2, hfirst]
    rfl

mutual

theorem Signature.remove_eq_none (hincluded : ∀ i, pick (.included i) = false) :
    ∀ {sig : Signature}, (∀ member ∈ sig.members, pick member = false) → sig.remove pick = none
  | ⟨items, compiled, doc⟩, h => by
    rw [Signature.members] at h
    rw [Signature.remove, takeLast_eq_none_of_members hincluded h,
      removeFromIncludes_eq_none hincluded h]
    rfl

theorem removeFromIncludes_eq_none (hincluded : ∀ i, pick (.included i) = false) :
    ∀ {items : List Item},
    (∀ member ∈ membersOfItems items, pick member = false) → removeFromIncludes pick items = none
  | [], _ => by rw [removeFromIncludes]
  | item :: items, h => by
    rw [membersOfItems, List.forall_mem_append] at h
    rw [removeFromIncludes, removeFromIncludes_eq_none hincluded h.2,
      item.removeIncluded_eq_none hincluded h.1]
    rfl

theorem Item.removeIncluded_eq_none (hincluded : ∀ i, pick (.included i) = false) (item : Item)
    (h : ∀ member ∈ item.members, pick member = false) : item.removeIncluded pick = none := by
  rcases item.included_or_plain with ⟨i, rfl⟩ | hplain
  · rw [Item.members] at h
    rw [Item.removeIncluded, i.remove_eq_none hincluded h]
    rfl
  · cases item with
    | included i => exact absurd rfl (hplain i)
    | _ => rw [Item.removeIncluded]; simp

theorem Include.remove_eq_none (hincluded : ∀ i, pick (.included i) = false) : ∀ (i : Include),
    (∀ member ∈ i.members, pick member = false) → i.remove pick = none
  | ⟨_, _, _, _, _, content⟩, h => by
    rw [Include.members] at h
    rw [Include.remove, content.remove_eq_none hincluded h]
    rfl

end

variable (hincluded : ∀ i, pick (.included i) = false)

include hincluded

section Level

variable {front back : List Item} (parent : Identifier) (includeDoc : Docs) (decl : IncludeDecl)
  (strengthened : Option Path) (shadowed : Shadowed) (compiled : Bool) (doc : Docs)

theorem Signature.remove_of_content (hfront : ∀ item ∈ front, pick item = false)
    (hback : ∀ member ∈ membersOfItems back, pick member = false) {content rest : Signature}
    {taken : Item} (hcontent : content.remove pick = some (taken, rest)) :
    Signature.remove pick ⟨front ++ .included ⟨parent, includeDoc, decl, strengthened, shadowed,
        content⟩ :: back, compiled, doc⟩ =
      some (taken, ⟨front ++ .included ⟨parent, includeDoc, decl, strengthened, shadowed, rest⟩ ::
        back, compiled, doc⟩) := by
  have hnone : takeLast pick (front ++ .included ⟨parent, includeDoc, decl, strengthened, shadowed,
      content⟩ :: back) = none := by
    have hback := takeLast_eq_none_iff.mp (takeLast_eq_none_of_members hincluded hback)
    rw [takeLast_eq_none_iff, List.forall_mem_append, List.forall_mem_cons]
    exact ⟨hfront, hincluded _, hback⟩
  have hitem : (Item.included ⟨parent, includeDoc, decl, strengthened, shadowed,
      content⟩).removeIncluded pick =
        some (taken, .included ⟨parent, includeDoc, decl, strengthened, shadowed, rest⟩) := by
    rw [Item.removeIncluded, Include.remove, hcontent]
    rfl
  have hincludes := removeFromIncludes_append_cons hitem front
    (removeFromIncludes_eq_none hincluded hback)
  rw [Signature.remove, hnone, hincludes]
  rfl

omit hincluded in
theorem Signature.content_inj_of_mapLeaves {r r' : LeafMap} {content content' : Signature}
    (h : Signature.mapLeaves r ⟨front ++ .included ⟨parent, includeDoc, decl, strengthened,
          shadowed, content⟩ :: back, compiled, doc⟩ =
        Signature.mapLeaves r' ⟨front ++ .included ⟨parent, includeDoc, decl, strengthened,
          shadowed, content'⟩ :: back, compiled, doc⟩) :
    content.mapLeaves r = content'.mapLeaves r' := by
  rw [Signature.mapLeaves, Signature.mapLeaves, mapItems_eq_map, mapItems_eq_map, List.map_append,
    List.map_append, List.map_cons, List.map_cons] at h
  injection h with hitems
  obtain ⟨-, hrest⟩ := List.append_inj hitems (by simp)
  injection hrest with hincludes
  rw [Item.mapLeaves, Item.mapLeaves, Include.mapLeaves, Include.mapLeaves] at hincludes
  injection hincludes with hincludes
  injection hincludes

end Level

namespace Hole

theorem remove_fill {item : Item} (hitem : pick item = true) {hole : Hole} (hlast : hole.Last pick)
    (hpassed : ∀ other ∈ hole.passed, pick other = false) :
    (hole.fill [item]).remove pick = some (item, hole.fill []) := by
  induction hole with
  | here front back compiled doc =>
    have hback := takeLast_eq_none_of_members hincluded hlast
    rw [fill, fill, List.append_assoc, List.append_assoc, List.singleton_append, List.nil_append,
      Signature.remove, takeLast_append_cons hitem front hback]
  | inside front parent includeDoc decl strengthened shadowed content back compiled doc ih =>
    obtain ⟨hcontent, hback⟩ := List.forall_mem_append.mp hlast
    obtain ⟨hfront, hpassed⟩ := List.forall_mem_append.mp hpassed
    exact Signature.remove_of_content hincluded parent includeDoc decl strengthened shadowed
      compiled doc hfront hback (ih hcontent hpassed)

theorem remove_fill_other (item : Item) {hole : Hole} (hlast : hole.Last pick)
    (hpassed : ∃ other ∈ hole.passed, pick other = true) :
    ∃ (place : Hole) (taken : Item), hole.fill [item] = place.fill [taken] ∧ pick taken = true ∧
      (hole.fill [item]).remove pick = some (taken, place.fill []) ∧
      ∀ r r', (place.fill []).mapLeaves r ≠ (hole.fill []).mapLeaves r' := by
  induction hole with
  | here front back compiled doc =>
    obtain ⟨other, hother, -⟩ := hpassed
    cases hother
  | inside front parent includeDoc decl strengthened shadowed content back compiled doc ih =>
    obtain ⟨hcontent, hback⟩ := List.forall_mem_append.mp hlast
    cases htake : takeLast pick (front ++ .included ⟨parent, includeDoc, decl, strengthened,
        shadowed, content.fill [item]⟩ :: back) with
    | some taken =>
      obtain ⟨taken, rest⟩ := taken
      obtain ⟨front', back', hitems, rfl, htaken⟩ := takeLast_eq_some htake
      refine ⟨.here front' back' compiled doc, taken, ?_, htaken, ?_, ?_⟩
      · rw [fill, fill, hitems, List.append_assoc, List.singleton_append]
      · simp only [fill, Signature.remove, htake, List.append_nil]
      -- The list has lost an item where the hole is in an include of it.
      · intro r r' hmap
        have hlength : front'.length + back'.length = front.length + (back.length + 1) := by
          simpa [fill, Signature.mapLeaves, mapItems_eq_map] using
            congrArg (List.length ∘ Signature.items) hmap
        have hitems := congrArg List.length hitems
        rw [List.length_append, List.length_append, List.length_cons, List.length_cons] at hitems
        omega
    | none =>
      rw [takeLast_eq_none_iff, List.forall_mem_append] at htake
      obtain ⟨other, hother, hpick⟩ := hpassed
      have hinner : other ∈ content.passed := by
        refine (List.mem_append.mp hother).resolve_left fun hfront => ?_
        rw [htake.1 other hfront] at hpick
        cases hpick
      obtain ⟨place, taken, hplace, htaken, hremove, hne⟩ := ih hcontent ⟨other, hinner, hpick⟩
      refine ⟨.inside front parent includeDoc decl strengthened shadowed place back compiled doc,
        taken, ?_, htaken, ?_, ?_⟩
      · rw [fill, fill, hplace]
      · exact Signature.remove_of_content hincluded parent includeDoc decl strengthened shadowed
          compiled doc htake.1 hback hremove
      · intro r r' hmap
        exact hne r r' (Signature.content_inj_of_mapLeaves _ _ _ _ _ _ _ hmap)

/-- One accepted member is removed. What stays is what the last accepted member leaves, also when
references to the removed one are rewritten, if and only if it is the only one on the way. -/
theorem remove_fill_iff {item : Item} (hitem : pick item = true) {hole : Hole}
    (hlast : hole.Last pick) :
    ∃ (place : Hole) (taken : Item), hole.fill [item] = place.fill [taken] ∧ pick taken = true ∧
      (hole.fill [item]).remove pick = some (taken, place.fill []) ∧
      ∀ rewrite : Item → LeafMap,
        (place.fill []).mapLeaves (rewrite taken) = (hole.fill []).mapLeaves (rewrite item) ↔
          ∀ other ∈ hole.passed, pick other = false := by
  by_cases hpassed : ∀ other ∈ hole.passed, pick other = false
  · have hremove := remove_fill hincluded hitem hlast hpassed
    exact ⟨hole, item, rfl, hitem, hremove, fun rewrite => iff_of_true rfl hpassed⟩
  · have hother : ∃ other ∈ hole.passed, pick other = true := by simpa using hpassed
    obtain ⟨place, taken, hplace, htaken, hremove, hne⟩ :=
      remove_fill_other hincluded item hlast hother
    exact ⟨place, taken, hplace, htaken, hremove, fun rewrite => iff_of_false (hne _ _) hpassed⟩

end Hole

end Removal

structure Hole.Marks (hole : Hole) (sig : Signature) (ns : Namespace) (name : String)
    (item : Item) : Prop where
  fill_eq : sig = hole.fill [item]
  binds : item.binds ns name = true
  last : hole.Last (·.binds ns name)

section Marks

variable {sig : Signature} {ns : Namespace} {name : String} {item : Item}

theorem rejects_included {pick : Item → Bool}
    (hbinds : ∀ item, pick item = true → item.binds ns name = true) (i : Include) :
    pick (.included i) = false := by
  refine Bool.eq_false_iff.mpr fun hpick => ?_
  have hspaces : ns ∈ (Item.included i).namespaces := by
    simpa [Item.binds, Item.identifier?] using hbinds _ hpick
  cases hspaces

theorem Signature.exists_marks (h : sig.find? ns name = some item) :
    ∃ hole : Hole, hole.Marks sig ns name item := by
  have hbinds : item.binds ns name = true := by
    unfold find? at h
    simpa using List.find?_some h
  obtain ⟨hole, hfill, hlast⟩ := Signature.exists_hole h
  exact ⟨hole, hfill, hbinds, hlast⟩

namespace Hole.Marks

variable {hole : Hole} (hmarks : hole.Marks sig ns name item) {pick : Item → Bool}
  (hbinds : ∀ item, pick item = true → item.binds ns name = true) (hitem : pick item = true)

include hmarks hbinds hitem

theorem updateLast {f : Item → Item} (hf : StableChange pick f) :
    sig.updateLast pick f = some (hole.fill [f item]) := by
  have hplain : ∀ i, item ≠ .included i := by
    rintro i rfl
    rw [rejects_included hbinds i] at hitem
    cases hitem
  rw [hmarks.fill_eq]
  exact updateLast_fill hf hplain hitem (hmarks.last.mono hbinds)

theorem remove_iff :
    ∃ (place : Hole) (taken : Item), sig = place.fill [taken] ∧ pick taken = true ∧
      sig.remove pick = some (taken, place.fill []) ∧
      ∀ rewrite : Item → LeafMap,
        (place.fill []).mapLeaves (rewrite taken) = (hole.fill []).mapLeaves (rewrite item) ↔
          ∀ other ∈ hole.passed, pick other = false := by
  rw [hmarks.fill_eq]
  exact remove_fill_iff (rejects_included hbinds) hitem (hmarks.last.mono hbinds)

end Hole.Marks

end Marks

end CrossRef
