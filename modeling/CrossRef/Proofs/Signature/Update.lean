import CrossRef.Proofs.Env.Bindings

/-! Changing a member of a signature. The change reaches the member that a lookup by name finds, it
is found there afterwards, and making it twice is making it once. -/

namespace CrossRef

def changeLast (pick : Item → Bool) (f : Item → Item) : List Item → Option (List Item)
  | [] => none
  | item :: items =>
    match changeLast pick f items with
    | some changed => some (item :: changed)
    | none => if pick item then some (f item :: items) else none

section Lists

variable (pick : Item → Bool) (f : Item → Item)

theorem changeLast_append (front back : List Item) :
    changeLast pick f (front ++ back) =
      match changeLast pick f back with
      | some changed => some (front ++ changed)
      | none => (changeLast pick f front).map (· ++ back) := by
  induction front with
  | nil =>
    rw [List.nil_append]
    cases changeLast pick f back <;> simp [changeLast]
  | cons item front ih =>
    rw [List.cons_append, changeLast, ih]
    cases hback : changeLast pick f back with
    | some changed => rfl
    | none =>
      rw [changeLast]
      cases changeLast pick f front with
      | some changed => rfl
      | none =>
        by_cases hpick : pick item = true
        · simp [hpick]
        · simp [hpick]

variable {pick f}

theorem changeLast_eq_none {items : List Item} (h : ∀ item ∈ items, pick item = false) :
    changeLast pick f items = none := by
  induction items with
  | nil => rfl
  | cons item items ih =>
    rw [List.forall_mem_cons] at h
    rw [changeLast, ih h.2, h.1]
    rfl

theorem find?_changeLast {test : Item → Bool} (htest : ∀ item, pick item = true → test item = true)
    {items : List Item} {item : Item} (hfind : items.reverse.find? test = some item)
    (hpick : pick item = true) (hchanged : test (f item) = true) :
    ∃ out, changeLast pick f items = some out ∧ out.reverse.find? test = some (f item) := by
  induction items with
  | nil => cases hfind
  | cons first items ih =>
    rw [List.reverse_cons, List.find?_append] at hfind
    cases hlater : items.reverse.find? test with
    | some later =>
      obtain rfl : later = item := by simpa [hlater] using hfind
      obtain ⟨out, hout, hfound⟩ := ih hlater
      refine ⟨first :: out, by rw [changeLast, hout], ?_⟩
      rw [List.reverse_cons, List.find?_append, hfound]
      rfl
    | none =>
      have hrest : ∀ other ∈ items, pick other = false := by
        intro other hother
        have hfails := List.find?_eq_none.mp hlater other (List.mem_reverse.mpr hother)
        exact Bool.eq_false_iff.mpr fun hother => hfails (htest other hother)
      obtain rfl : first = item := by
        rw [hlater, Option.none_or] at hfind
        exact List.mem_singleton.mp (List.mem_of_find?_eq_some hfind) |>.symm
      refine ⟨f first :: items, by rw [changeLast, changeLast_eq_none hrest, hpick]; rfl, ?_⟩
      rw [List.reverse_cons, List.find?_append, hlater]
      simp [hchanged]

end Lists

/-- A change of the items that `pick` accepts: they stay declarations that it accepts, and do not
change again. -/
structure StableChange (pick : Item → Bool) (f : Item → Item) : Prop where
  plain : ∀ item, pick item = true → ∀ i, f item ≠ .included i
  accepted : ∀ item, pick item = true → pick (f item) = true
  again : ∀ item, pick item = true → f (f item) = f item

theorem Item.updateLast_of_not_included {item : Item} (h : ∀ i, item ≠ .included i)
    (pick : Item → Bool) (f : Item → Item) :
    item.updateLast pick f = if pick item then some (f item) else none := by
  cases item with
  | included i => exact absurd rfl (h i)
  | _ => rw [Item.updateLast]; simp

section Update

variable {pick : Item → Bool} {f : Item → Item}

mutual

theorem Signature.members_updateLast (hf : StableChange pick f) : ∀ sig : Signature,
    (sig.updateLast pick f).map Signature.members = changeLast pick f sig.members
  | ⟨items, compiled, doc⟩ => by
    rw [Signature.updateLast, Signature.members, ← membersOfItems_updateLast hf items, Option.map_map]
    congr 1

theorem membersOfItems_updateLast (hf : StableChange pick f) : ∀ items : List Item,
    (updateLastItem pick f items).map membersOfItems = changeLast pick f (membersOfItems items)
  | [] => by simp only [updateLastItem, membersOfItems, changeLast, Option.map_none]
  | item :: items => by
    rw [updateLastItem, membersOfItems, changeLast_append, ← membersOfItems_updateLast hf items]
    cases updateLastItem pick f items with
    | some changed => simp only [Option.map_some, membersOfItems]
    | none =>
      simp only [Option.map_none]
      rw [← item.members_updateLast hf, Option.map_map, Option.map_map]
      congr 1

theorem Item.members_updateLast (hf : StableChange pick f) (item : Item) :
    (item.updateLast pick f).map Item.members = changeLast pick f item.members := by
  rcases item.included_or_plain with ⟨i, rfl⟩ | hplain
  · rw [Item.updateLast, Item.members, ← i.members_updateLast hf, Option.map_map]
    congr 1
  · rw [Item.updateLast_of_not_included hplain, Item.members_of_not_included hplain]
    by_cases hpick : pick item = true
    · have hmembers := Item.members_of_not_included (hf.plain item hpick)
      simp [changeLast, hpick, hmembers]
    · simp [changeLast, hpick]

theorem Include.members_updateLast (hf : StableChange pick f) : ∀ i : Include,
    (i.updateLast pick f).map Include.members = changeLast pick f i.members
  | ⟨parent, doc, decl, strengthened, shadowed, content⟩ => by
    rw [Include.updateLast, Include.members, ← content.members_updateLast hf, Option.map_map]
    congr 1

end

mutual

theorem Signature.updateLast_again (hf : StableChange pick f) : ∀ {sig out : Signature},
    sig.updateLast pick f = some out → out.updateLast pick f = some out
  | ⟨items, compiled, doc⟩, out, h => by
    rw [Signature.updateLast] at h
    obtain ⟨changed, hchanged, rfl⟩ := Option.map_eq_some_iff.mp h
    rw [Signature.updateLast, updateLastItem_again hf hchanged]
    rfl

theorem updateLastItem_again (hf : StableChange pick f) : ∀ {items out : List Item},
    updateLastItem pick f items = some out → updateLastItem pick f out = some out
  | [], out, h => by
    rw [updateLastItem] at h
    cases h
  | item :: items, out, h => by
    rw [updateLastItem] at h
    cases hrest : updateLastItem pick f items with
    | some changed =>
      simp only [hrest] at h
      cases h
      rw [updateLastItem, updateLastItem_again hf hrest]
    | none =>
      simp only [hrest] at h
      obtain ⟨changed, hchanged, rfl⟩ := Option.map_eq_some_iff.mp h
      rw [updateLastItem, hrest]
      simp only [Item.updateLast_again hf hchanged, Option.map_some]

theorem Item.updateLast_again (hf : StableChange pick f) {item out : Item}
    (h : item.updateLast pick f = some out) :
    out.updateLast pick f = some out := by
  rcases item.included_or_plain with ⟨i, rfl⟩ | hplain
  · rw [Item.updateLast] at h
    obtain ⟨changed, hchanged, rfl⟩ := Option.map_eq_some_iff.mp h
    rw [Item.updateLast, Include.updateLast_again hf hchanged]
    rfl
  · rw [Item.updateLast_of_not_included hplain] at h
    obtain ⟨hpick, hout⟩ := Option.ite_none_right_eq_some.mp h
    obtain rfl := Option.some.inj hout
    rw [Item.updateLast_of_not_included (hf.plain item hpick), hf.accepted item hpick,
      hf.again item hpick]
    rfl

theorem Include.updateLast_again (hf : StableChange pick f) : ∀ {i out : Include},
    i.updateLast pick f = some out → out.updateLast pick f = some out
  | ⟨parent, doc, decl, strengthened, shadowed, content⟩, out, h => by
    rw [Include.updateLast] at h
    obtain ⟨changed, hchanged, rfl⟩ := Option.map_eq_some_iff.mp h
    rw [Include.updateLast, Signature.updateLast_again hf hchanged]
    rfl

end

theorem Signature.updateLast_of_find? (hf : StableChange pick f) {ns : Namespace} {name : String}
    (hbinds : ∀ item, pick item = true → item.binds ns name = true) {sig : Signature} {item : Item}
    (hfind : sig.find? ns name = some item) (hpick : pick item = true) :
    ∃ out, sig.updateLast pick f = some out ∧ out.find? ns name = some (f item) ∧
      out.updateLast pick f = some out := by
  have hchanged := hbinds _ (hf.accepted item hpick)
  obtain ⟨members, hmembers, hfound⟩ := find?_changeLast hbinds hfind hpick hchanged
  rw [← sig.members_updateLast hf] at hmembers
  obtain ⟨out, hout, rfl⟩ := Option.map_eq_some_iff.mp hmembers
  exact ⟨out, hout, hfound, Signature.updateLast_again hf hout⟩

end Update

namespace Signature

variable {sig : Signature} {name : String}

theorem find?_of_module? {m : Module} (h : sig.module? name = some m) :
    sig.find? .module name = some (.module m) := by
  unfold module? at h
  split at h
  case h_1 hfind =>
    rw [hfind, Option.some.inj h]
  case h_2 => cases h

theorem module?_of_find? {m : Module} (h : sig.find? .module name = some (.module m)) :
    sig.module? name = some m := by
  simp only [module?, h]

theorem name_of_find? {ns : Namespace} {item : Item} (h : sig.find? ns name = some item)
    {id : Identifier} (hid : item.identifier? = some id) : id.name = name := by
  unfold find? at h
  have hbinds : item.binds ns name = true := by simpa using List.find?_some h
  have hboth : ns ∈ item.namespaces ∧ id.name = name := by simpa [Item.binds, hid] using hbinds
  exact hboth.2

theorem stableChange_moduleDecl (name : String) (decl : ModuleDecl) :
    StableChange (·.declaresModule name) fun
      | .module m => .module { m with decl }
      | item => item where
  plain item hpick := by
    cases item with
    | module m => simp
    | _ => cases hpick
  accepted item hpick := by
    cases item with
    | module m => exact hpick
    | _ => cases hpick
  again item hpick := by
    cases item with
    | module m => rfl
    | _ => cases hpick

theorem stableChange_typeEquation (name : String) (equation : TypeEquation) :
    StableChange (·.declaresType name) fun
      | .type t => .type { t with equation }
      | item => item where
  plain item hpick := by
    cases item with
    | type t => simp
    | _ => cases hpick
  accepted item hpick := by
    cases item with
    | type t => exact hpick
    | _ => cases hpick
  again item hpick := by
    cases item with
    | type t => rfl
    | _ => cases hpick

theorem setModuleDecl_of_module? {m : Module} (h : sig.module? name = some m)
    (decl : ModuleDecl) :
    ∃ out, sig.setModuleDecl name decl = some out ∧ out.module? name = some { m with decl } ∧
      out.setModuleDecl name decl = some out := by
  have hfind := find?_of_module? h
  have hname : m.id.name = name := name_of_find? hfind rfl
  have hpick : Item.declaresModule name (.module m) = true := decide_eq_true hname
  have hbinds : ∀ item, Item.declaresModule name item = true → item.binds .module name = true := by
    intro item hitem
    cases item with
    | module m => exact hitem
    | _ => cases hitem
  have hstable := stableChange_moduleDecl name decl
  obtain ⟨out, hout, hfound, hagain⟩ := updateLast_of_find? hstable hbinds hfind hpick
  exact ⟨out, hout, module?_of_find? hfound, hagain⟩

theorem setTypeEquation_of_find? {t : TypeDecl} (h : sig.find? .type name = some (.type t))
    (equation : TypeEquation) :
    ∃ out, sig.setTypeEquation name equation = some out ∧
      out.find? .type name = some (.type { t with equation }) ∧
      out.setTypeEquation name equation = some out := by
  have hname : t.id.name = name := name_of_find? h rfl
  have hpick : Item.declaresType name (.type t) = true := decide_eq_true hname
  have hbinds : ∀ item, Item.declaresType name item = true → item.binds .type name = true := by
    intro item hitem
    cases item with
    | type t => exact hitem
    | _ => cases hitem
  exact updateLast_of_find? (stableChange_typeEquation name equation) hbinds h hpick

end Signature

end CrossRef
