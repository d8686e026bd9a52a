import CrossRef.Proofs.Signature.Holes

/-! Removals that do not get in each other's way. Two searches for members that never accept the
same one find the same two members in either order, and leave the same signature. A map on leaves
that keeps what a search looks at changes neither what it finds nor where. -/

namespace CrossRef

/-- Two ways to take an item out of `s`. Neither sees what the other has done, and together they
leave the same in either order. -/
structure Independent {σ : Type} (f g : σ → Option (Item × σ)) (s : σ) : Prop where
  left : ∀ {a s₁}, f s = some (a, s₁) → g s = none → g s₁ = none
  right : ∀ {b s₂}, g s = some (b, s₂) → f s = none → f s₂ = none
  both : ∀ {a s₁ b s₂}, f s = some (a, s₁) → g s = some (b, s₂) →
    ∃ s₃, g s₁ = some (b, s₃) ∧ f s₂ = some (a, s₃)

namespace Independent

variable {σ τ : Type} {f g p q : σ → Option (Item × σ)} {s : σ}

theorem symm (h : Independent f g s) : Independent g f s where
  left := h.right
  right := h.left
  both hg hf := by
    obtain ⟨s₃, hg', hf'⟩ := h.both hf hg
    exact ⟨s₃, hf', hg'⟩

theorem of_left_none (hf : f s = none) (hkeep : ∀ b s₂, g s = some (b, s₂) → f s₂ = none) :
    Independent f g s where
  left h _ := by
    rw [hf] at h
    cases h
  right hg _ := hkeep _ _ hg
  both h _ := by
    rw [hf] at h
    cases h

theorem wrap {F G : τ → Option (Item × τ)} (put : σ → τ)
    (hF : ∀ s, F (put s) = (f s).map (Prod.map id put))
    (hG : ∀ s, G (put s) = (g s).map (Prod.map id put)) (h : Independent f g s) :
    Independent F G (put s) where
  left hf hg := by
    rw [hF] at hf
    rw [hG, Option.map_eq_none_iff] at hg
    obtain ⟨⟨a, s₁⟩, htaken, ⟨⟩⟩ := Option.map_eq_some_iff.mp hf
    rw [hG, h.left htaken hg, Option.map_none]
  right hg hf := by
    rw [hG] at hg
    rw [hF, Option.map_eq_none_iff] at hf
    obtain ⟨⟨b, s₂⟩, htaken, ⟨⟩⟩ := Option.map_eq_some_iff.mp hg
    rw [hF, h.right htaken hf, Option.map_none]
  both hf hg := by
    rw [hF] at hf
    rw [hG] at hg
    obtain ⟨⟨a, s₁⟩, hleft, ⟨⟩⟩ := Option.map_eq_some_iff.mp hf
    obtain ⟨⟨b, s₂⟩, hright, ⟨⟩⟩ := Option.map_eq_some_iff.mp hg
    obtain ⟨s₃, hg₃, hf₃⟩ := h.both hleft hright
    refine ⟨put s₃, ?_, ?_⟩
    · rw [hG, hg₃]
      rfl
    · rw [hF, hf₃]
      rfl

theorem orElse (hfg : Independent f g s) (hfq : Independent f q s) (hpg : Independent p g s)
    (hpq : Independent p q s) :
    Independent (fun s => (f s).or (p s)) (fun s => (g s).or (q s)) s where
  left hF hG := by
    obtain ⟨hg, hq⟩ := Option.or_eq_none_iff.mp hG
    rcases Option.or_eq_some_iff.mp hF with hf | ⟨-, hp⟩
    · simp only [hfg.left hf hg, hfq.left hf hq, Option.or_none]
    · simp only [hpg.left hp hg, hpq.left hp hq, Option.or_none]
  right hG hF := by
    obtain ⟨hf, hp⟩ := Option.or_eq_none_iff.mp hF
    rcases Option.or_eq_some_iff.mp hG with hg | ⟨-, hq⟩
    · simp only [hfg.right hg hf, hpg.right hg hp, Option.or_none]
    · simp only [hfq.right hq hf, hpq.right hq hp, Option.or_none]
  both hF hG := by
    rcases Option.or_eq_some_iff.mp hF with hf | ⟨hf, hp⟩
    · rcases Option.or_eq_some_iff.mp hG with hg | ⟨hg, hq⟩
      · obtain ⟨s₃, hg₃, hf₃⟩ := hfg.both hf hg
        exact ⟨s₃, by simp only [hg₃, Option.some_or], by simp only [hf₃, Option.some_or]⟩
      · obtain ⟨s₃, hg₃, hf₃⟩ := hfq.both hf hq
        have hskip := hfg.left hf hg
        exact ⟨s₃, by simp only [hskip, hg₃, Option.none_or], by simp only [hf₃, Option.some_or]⟩
    · rcases Option.or_eq_some_iff.mp hG with hg | ⟨hg, hq⟩
      · obtain ⟨s₃, hg₃, hf₃⟩ := hpg.both hp hg
        have hskip := hfg.right hg hf
        exact ⟨s₃, by simp only [hg₃, Option.some_or], by simp only [hskip, hf₃, Option.none_or]⟩
      · obtain ⟨s₃, hg₃, hf₃⟩ := hpq.both hp hq
        have hskipg := hpg.left hp hg
        have hskipf := hfq.right hq hf
        exact ⟨s₃, by simp only [hskipg, hg₃, Option.none_or],
          by simp only [hskipf, hf₃, Option.none_or]⟩

end Independent

structure FromEnd (f : List Item → Option (Item × List Item)) : Prop where
  nil : f [] = none
  cons : ∀ item items, f (item :: items) =
    match f items with
    | some (taken, rest) => some (taken, item :: rest)
    | none => (f [item]).map fun (taken, rest) => (taken, rest ++ items)

namespace FromEnd

variable {f g : List Item → Option (Item × List Item)}

theorem append_of_some (h : FromEnd f) {back rest : List Item} {taken : Item}
    (hback : f back = some (taken, rest)) (front : List Item) :
    f (front ++ back) = some (taken, front ++ rest) := by
  induction front with
  | nil => exact hback
  | cons first front ih => rw [List.cons_append, h.cons, ih, List.cons_append]

theorem append_of_none (h : FromEnd f) {back : List Item} (hback : f back = none)
    (front : List Item) :
    f (front ++ back) = (f front).map fun (taken, rest) => (taken, rest ++ back) := by
  induction front with
  | nil => rw [List.nil_append, hback, h.nil, Option.map_none]
  | cons first front ih =>
    rw [List.cons_append, h.cons, ih, h.cons first front]
    cases f front with
    | some found => rfl
    | none =>
      simp only [Option.map_none, Option.map_map, Function.comp_def, List.append_assoc]

theorem append_eq_none (h : FromEnd f) {front back : List Item} :
    f (front ++ back) = none ↔ f front = none ∧ f back = none := by
  cases hback : f back with
  | some found => simp [h.append_of_some hback]
  | none => simp [h.append_of_none hback]

theorem append_eq_some (h : FromEnd f) {front back out : List Item} {taken : Item}
    (hfound : f (front ++ back) = some (taken, out)) :
    (∃ rest, f back = some (taken, rest) ∧ out = front ++ rest) ∨
      f back = none ∧ ∃ rest, f front = some (taken, rest) ∧ out = rest ++ back := by
  cases hback : f back with
  | some found =>
    rw [h.append_of_some hback] at hfound
    cases hfound
    exact .inl ⟨_, rfl, rfl⟩
  | none =>
    rw [h.append_of_none hback] at hfound
    obtain ⟨⟨found, rest⟩, hfront, ⟨⟩⟩ := Option.map_eq_some_iff.mp hfound
    exact .inr ⟨rfl, rest, hfront, rfl⟩

theorem append_front (h : FromEnd f) {front back rest : List Item} {taken : Item}
    (hfront : f front = some (taken, rest)) (hback : f back = none) :
    f (front ++ back) = some (taken, rest ++ back) := by
  rw [h.append_of_none hback, hfront]
  rfl

theorem independent_append (hf : FromEnd f) (hg : FromEnd g) {front back : List Item}
    (hfront : Independent f g front) (hback : Independent f g back) :
    Independent f g (front ++ back) where
  left hfound hnone := by
    obtain ⟨hgfront, hgback⟩ := hg.append_eq_none.mp hnone
    rcases hf.append_eq_some hfound with ⟨rest, hfb, rfl⟩ | ⟨-, rest, hff, rfl⟩
    · exact hg.append_eq_none.mpr ⟨hgfront, hback.left hfb hgback⟩
    · exact hg.append_eq_none.mpr ⟨hfront.left hff hgfront, hgback⟩
  right hfound hnone := by
    obtain ⟨hffront, hfback⟩ := hf.append_eq_none.mp hnone
    rcases hg.append_eq_some hfound with ⟨rest, hgb, rfl⟩ | ⟨-, rest, hgf, rfl⟩
    · exact hf.append_eq_none.mpr ⟨hffront, hback.right hgb hfback⟩
    · exact hf.append_eq_none.mpr ⟨hfront.right hgf hffront, hfback⟩
  both hffound hgfound := by
    -- Each of the two finds its item in the back, or else in the front.
    rcases hf.append_eq_some hffound with ⟨rest₁, hfb, rfl⟩ | ⟨hfb, rest₁, hff, rfl⟩
    · rcases hg.append_eq_some hgfound with ⟨rest₂, hgb, rfl⟩ | ⟨hgb, rest₂, hgf, rfl⟩
      · obtain ⟨rest₃, hg₃, hf₃⟩ := hback.both hfb hgb
        exact ⟨_, hg.append_of_some hg₃ front, hf.append_of_some hf₃ front⟩
      · exact ⟨_, hg.append_front hgf (hback.left hfb hgb), hf.append_of_some hfb rest₂⟩
    · rcases hg.append_eq_some hgfound with ⟨rest₂, hgb, rfl⟩ | ⟨hgb, rest₂, hgf, rfl⟩
      · exact ⟨_, hg.append_of_some hgb rest₁, hf.append_front hff (hback.right hgb hfb)⟩
      · obtain ⟨rest₃, hg₃, hf₃⟩ := hfront.both hff hgf
        exact ⟨_, hg.append_front hg₃ hgb, hf.append_front hf₃ hfb⟩

theorem independent_of_each (hf : FromEnd f) (hg : FromEnd g)
    (heach : ∀ item, Independent f g [item]) (items : List Item) : Independent f g items := by
  induction items with
  | nil => exact .of_left_none hf.nil fun b s₂ h => by rw [hg.nil] at h; cases h
  | cons item items ih => exact hf.independent_append hg (heach item) ih

end FromEnd

theorem takeLast_fromEnd (pick : Item → Bool) : FromEnd (takeLast pick) where
  nil := rfl
  cons item items := by
    rw [takeLast]
    cases takeLast pick items with
    | some found => rfl
    | none => cases hpick : pick item <;> simp [takeLast, hpick]

theorem removeFromIncludes_single (pick : Item → Bool) (item : Item) :
    removeFromIncludes pick [item] = (item.removeIncluded pick).map (Prod.map id ([·])) := by
  rw [removeFromIncludes, removeFromIncludes]
  rfl

theorem removeFromIncludes_fromEnd (pick : Item → Bool) : FromEnd (removeFromIncludes pick) where
  nil := by rw [removeFromIncludes]
  cons item items := by
    rw [removeFromIncludes_single, removeFromIncludes]
    cases removeFromIncludes pick items with
    | some found => rfl
    | none =>
      rw [Option.map_map]
      rfl

theorem Signature.remove_eq (pick : Item → Bool) (compiled : Bool) (doc : Docs)
    (items : List Item) :
    Signature.remove pick ⟨items, compiled, doc⟩ =
      ((takeLast pick items).or (removeFromIncludes pick items)).map
        (Prod.map id (Signature.mk · compiled doc)) := by
  rw [Signature.remove]
  cases takeLast pick items with
  | some found => rfl
  | none => rfl

theorem Item.removeIncluded_of_plain (pick : Item → Bool) {item : Item}
    (hplain : ∀ i, item ≠ .included i) : item.removeIncluded pick = none := by
  cases item with
  | included i => exact absurd rfl (hplain i)
  | _ =>
    rw [Item.removeIncluded]
    exact hplain

section Accepted

variable {pick : Item → Bool}

mutual

theorem Signature.remove_accepts : ∀ {sig rest : Signature} {taken : Item},
    sig.remove pick = some (taken, rest) → pick taken = true
  | ⟨items, compiled, doc⟩, rest, taken, h => by
    rw [Signature.remove_eq] at h
    obtain ⟨⟨found, left⟩, hfound, ⟨⟩⟩ := Option.map_eq_some_iff.mp h
    rcases Option.or_eq_some_iff.mp hfound with htake | ⟨-, hincluded⟩
    · obtain ⟨-, -, -, -, hpick⟩ := takeLast_eq_some htake
      exact hpick
    · exact removeFromIncludes_accepts hincluded

theorem removeFromIncludes_accepts : ∀ {items rest : List Item} {taken : Item},
    removeFromIncludes pick items = some (taken, rest) → pick taken = true
  | [], _, _, h => by
    rw [removeFromIncludes] at h
    cases h
  | item :: items, rest, taken, h => by
    rw [removeFromIncludes] at h
    cases hlater : removeFromIncludes pick items with
    | some found =>
      rw [hlater] at h
      cases h
      exact removeFromIncludes_accepts hlater
    | none =>
      rw [hlater] at h
      obtain ⟨⟨found, changed⟩, hfound, ⟨⟩⟩ := Option.map_eq_some_iff.mp h
      exact item.removeIncluded_accepts hfound

theorem Item.removeIncluded_accepts (item : Item) {taken changed : Item}
    (h : item.removeIncluded pick = some (taken, changed)) : pick taken = true := by
  rcases item.included_or_plain with ⟨i, rfl⟩ | hplain
  · rw [Item.removeIncluded] at h
    obtain ⟨⟨found, rest⟩, hfound, ⟨⟩⟩ := Option.map_eq_some_iff.mp h
    exact i.remove_accepts hfound
  · rw [Item.removeIncluded_of_plain pick hplain] at h
    cases h

theorem Include.remove_accepts : ∀ (i : Include) {rest : Include} {taken : Item},
    i.remove pick = some (taken, rest) → pick taken = true
  | ⟨_, _, _, _, _, content⟩, rest, taken, h => by
    rw [Include.remove] at h
    obtain ⟨⟨found, left⟩, hfound, ⟨⟩⟩ := Option.map_eq_some_iff.mp h
    exact content.remove_accepts hfound

end

end Accepted

section Removals

variable {p q : Item → Bool}

theorem takeLast_independent (hpq : ∀ item, p item = true → q item = false) (items : List Item) :
    Independent (takeLast p) (takeLast q) items := by
  refine (takeLast_fromEnd p).independent_of_each (takeLast_fromEnd q) (fun item => ?_) items
  have htake (pick : Item → Bool) :
      takeLast pick [item] = if pick item then some (item, []) else none := rfl
  cases hitem : p item with
  | false =>
    refine .of_left_none (by rw [htake, hitem]; rfl) fun b rest h => ?_
    rw [htake] at h
    obtain ⟨-, ⟨⟩⟩ := Option.ite_none_right_eq_some.mp h
    rfl
  | true =>
    refine (Independent.of_left_none (by rw [htake, hpq item hitem]; rfl) fun b rest h => ?_).symm
    rw [htake] at h
    obtain ⟨-, ⟨⟩⟩ := Option.ite_none_right_eq_some.mp h
    rfl

theorem takeLast_independent_removeFromIncludes (hp : ∀ i, p (.included i) = false)
    (items : List Item) :
    Independent (takeLast p) (removeFromIncludes q) items := by
  refine (takeLast_fromEnd p).independent_of_each (removeFromIncludes_fromEnd q) (fun item => ?_)
    items
  have htake (item : Item) : takeLast p [item] = if p item then some (item, []) else none := rfl
  rcases item.included_or_plain with ⟨i, rfl⟩ | hplain
  · refine .of_left_none (by rw [htake, hp i]; rfl) fun b rest h => ?_
    rw [removeFromIncludes_single, Item.removeIncluded, Option.map_map] at h
    obtain ⟨⟨b', i'⟩, -, ⟨⟩⟩ := Option.map_eq_some_iff.mp h
    exact (htake _).trans (by rw [hp i']; rfl)
  · have hnone : removeFromIncludes q [item] = none := by
      rw [removeFromIncludes_single, Item.removeIncluded_of_plain q hplain]
      rfl
    refine (Independent.of_left_none hnone fun b rest h => ?_).symm
    rw [htake] at h
    obtain ⟨-, ⟨⟩⟩ := Option.ite_none_right_eq_some.mp h
    exact (removeFromIncludes_fromEnd q).nil

mutual

/-- Two removals that never accept the same item do not get in each other's way. -/
theorem Signature.remove_independent (hp : ∀ i, p (.included i) = false)
    (hq : ∀ i, q (.included i) = false) (hpq : ∀ item, p item = true → q item = false) :
    ∀ sig : Signature,
    Independent (Signature.remove p) (Signature.remove q) sig
  | ⟨items, compiled, doc⟩ => by
    have htake := takeLast_independent hpq items
    have hfirst := takeLast_independent_removeFromIncludes (q := q) hp items
    have hsecond := takeLast_independent_removeFromIncludes (q := p) hq items
    have hincludes := removeFromIncludes_independent hp hq hpq items
    exact (htake.orElse hfirst hsecond.symm hincludes).wrap (Signature.mk · compiled doc)
      (Signature.remove_eq p compiled doc) (Signature.remove_eq q compiled doc)

theorem removeFromIncludes_independent (hp : ∀ i, p (.included i) = false)
    (hq : ∀ i, q (.included i) = false) (hpq : ∀ item, p item = true → q item = false) :
    ∀ items : List Item,
    Independent (removeFromIncludes p) (removeFromIncludes q) items
  | [] => .of_left_none (removeFromIncludes_fromEnd p).nil fun b rest h => by
    rw [(removeFromIncludes_fromEnd q).nil] at h
    cases h
  | item :: items => by
    have hitem := (item.removeIncluded_independent hp hq hpq).wrap ([·])
      (removeFromIncludes_single p) (removeFromIncludes_single q)
    exact (removeFromIncludes_fromEnd p).independent_append (removeFromIncludes_fromEnd q) hitem
      (removeFromIncludes_independent hp hq hpq items)

theorem Item.removeIncluded_independent (hp : ∀ i, p (.included i) = false)
    (hq : ∀ i, q (.included i) = false) (hpq : ∀ item, p item = true → q item = false)
    (item : Item) :
    Independent (Item.removeIncluded p) (Item.removeIncluded q) item := by
  rcases item.included_or_plain with ⟨i, rfl⟩ | hplain
  · have hput (pick : Item → Bool) (i : Include) : (Item.included i).removeIncluded pick =
        (i.remove pick).map (Prod.map id Item.included) := by
      rw [Item.removeIncluded]
      rfl
    exact (i.remove_independent hp hq hpq).wrap Item.included (hput p) (hput q)
  · refine .of_left_none (Item.removeIncluded_of_plain p hplain) fun b rest h => ?_
    rw [Item.removeIncluded_of_plain q hplain] at h
    cases h

theorem Include.remove_independent (hp : ∀ i, p (.included i) = false)
    (hq : ∀ i, q (.included i) = false) (hpq : ∀ item, p item = true → q item = false) :
    ∀ i : Include,
    Independent (Include.remove p) (Include.remove q) i
  | ⟨parent, doc, decl, strengthened, shadowed, content⟩ => by
    have hput (pick : Item → Bool) (content : Signature) :
        (Include.mk parent doc decl strengthened shadowed content).remove pick =
          (content.remove pick).map
            (Prod.map id (Include.mk parent doc decl strengthened shadowed)) := by
      rw [Include.remove]
      rfl
    exact (content.remove_independent hp hq hpq).wrap
      (Include.mk parent doc decl strengthened shadowed) (hput p) (hput q)

end

end Removals

section MapLeaves

variable {pick : Item → Bool} {r : LeafMap}

theorem takeLast_mapItems (h : ∀ item : Item, pick (item.mapLeaves r) = pick item)
    (items : List Item) :
    takeLast pick (mapItems r items) =
      (takeLast pick items).map (Prod.map (·.mapLeaves r) (mapItems r)) := by
  induction items with
  | nil => rw [mapItems, takeLast]; rfl
  | cons item items ih =>
    rw [mapItems, takeLast, takeLast, ih, h]
    cases takeLast pick items with
    | some found => simp only [Option.map_some, Prod.map, mapItems]
    | none => cases pick item <;> rfl

mutual

theorem Signature.remove_mapLeaves (h : ∀ item : Item, pick (item.mapLeaves r) = pick item) :
    ∀ sig : Signature,
    (sig.mapLeaves r).remove pick =
      (sig.remove pick).map (Prod.map (·.mapLeaves r) (·.mapLeaves r))
  | ⟨items, compiled, doc⟩ => by
    rw [Signature.mapLeaves, Signature.remove_eq, Signature.remove_eq, takeLast_mapItems h,
      removeFromIncludes_mapItems h items, ← Option.map_or, Option.map_map, Option.map_map]
    refine Option.map_congr fun found _ => ?_
    simp only [Function.comp_apply, Prod.map, id, Signature.mapLeaves]

theorem removeFromIncludes_mapItems (h : ∀ item : Item, pick (item.mapLeaves r) = pick item) :
    ∀ items : List Item,
    removeFromIncludes pick (mapItems r items) =
      (removeFromIncludes pick items).map (Prod.map (·.mapLeaves r) (mapItems r))
  | [] => by
    rw [mapItems, removeFromIncludes]
    rfl
  | item :: items => by
    rw [mapItems, removeFromIncludes, removeFromIncludes, removeFromIncludes_mapItems h items,
      item.removeIncluded_mapLeaves h]
    cases removeFromIncludes pick items with
    | some found => simp only [Option.map_some, Prod.map, mapItems]
    | none => simp only [Option.map_none, Option.map_map, Function.comp_def, Prod.map, mapItems]

theorem Item.removeIncluded_mapLeaves (h : ∀ item : Item, pick (item.mapLeaves r) = pick item)
    (item : Item) :
    (item.mapLeaves r).removeIncluded pick =
      (item.removeIncluded pick).map (Prod.map (·.mapLeaves r) (·.mapLeaves r)) := by
  cases item with
  | included i =>
    rw [Item.mapLeaves, Item.removeIncluded, Item.removeIncluded, i.remove_mapLeaves h,
      Option.map_map, Option.map_map]
    refine Option.map_congr fun found _ => ?_
    simp only [Function.comp_apply, Prod.map, Item.mapLeaves]
  | _ => simp only [Item.mapLeaves, Item.removeIncluded, Option.map_none]

theorem Include.remove_mapLeaves (h : ∀ item : Item, pick (item.mapLeaves r) = pick item) :
    ∀ i : Include,
    (i.mapLeaves r).remove pick = (i.remove pick).map (Prod.map (·.mapLeaves r) (·.mapLeaves r))
  | ⟨parent, doc, decl, strengthened, shadowed, content⟩ => by
    rw [Include.mapLeaves, Include.remove, Include.remove, content.remove_mapLeaves h,
      Option.map_map, Option.map_map]
    refine Option.map_congr fun found _ => ?_
    simp only [Function.comp_apply, Prod.map, Include.mapLeaves]

end

end MapLeaves

end CrossRef
