import Mathlib.Data.List.Nodup
import CrossRef.Proofs.Path.Chain
import CrossRef.Proofs.Signature.Ownership
import CrossRef.Proofs.Signature.Parallel

/-! Moving a signature to another owner. One map moves every identifier in the signature, at
declarations and in references alike, and nothing else changes. Two declarations are moved to one
place only if one of them takes a name in braces that the other has already. -/

namespace CrossRef

def braced (name : String) : String := "\x7b" ++ name ++ "\x7d"

theorem braced_injective : Function.Injective braced := by
  intro name name' h
  have hlists : '\x7b' :: (name.toList ++ ['\x7d']) = '\x7b' :: (name'.toList ++ ['\x7d']) := by
    simpa [braced] using congrArg String.toList h
  injection hlists with _ hlists
  exact String.toList_inj.mp (List.append_cancel_right hlists)

theorem braced_ne_self (name : String) : braced name ≠ name := by
  intro h
  have hlength : "\x7b".length + name.length + "\x7d".length = name.length := by
    simpa only [braced, String.length_append] using congrArg String.length h
  have hbrace : "\x7b".length = 1 := rfl
  omega

def Shadowed.newName (s : Shadowed) (kind : IdentKind) (name : String) : String :=
  if name ∈ s.names kind then braced name else name

theorem Shadowed.hiddenName?_getD (s : Shadowed) (owner : Identifier) (kind : IdentKind)
    (name : String) : (s.hiddenName? (owner.child kind name)).getD name = s.newName kind name := by
  unfold Shadowed.hiddenName? Shadowed.newName
  rw [apply_ite (Option.getD · name)]
  rfl

theorem Shadowed.newName_of_isEmpty {s : Shadowed} (h : s.isEmpty = true) (kind : IdentKind)
    (name : String) : s.newName kind name = name := by
  have hnames : s.names kind = [] := by
    simp only [Shadowed.isEmpty, Bool.and_eq_true, List.isEmpty_iff] at h
    cases kind <;> simp [Shadowed.names, h]
  simp [Shadowed.newName, hnames]

theorem Shadowed.newName_eq_iff (s : Shadowed) (kind : IdentKind) (name name' : String) :
    s.newName kind name = s.newName kind name' ↔
      name = name' ∨
        (name ∈ s.names kind ∧ name' ∉ s.names kind ∧ name' = braced name) ∨
        (name' ∈ s.names kind ∧ name ∉ s.names kind ∧ name = braced name') := by
  unfold Shadowed.newName
  by_cases hname : name ∈ s.names kind <;> by_cases hname' : name' ∈ s.names kind
  · simp [hname, hname', braced_injective.eq_iff]
  · have hne : name ≠ name' := fun h => hname' (h ▸ hname)
    simp [hname, hname', hne, eq_comm]
  · have hne : name ≠ name' := fun h => hname (h ▸ hname')
    simp [hname, hname', hne]
  · simp [hname, hname']

namespace Identifier

/-- What lies within `old` is moved to the same place within `new`, except that a shadowed member of
`old` is given a name in braces. Everything else stays. -/
structure Relocates (old new : Identifier) (s : Shadowed) (f : Identifier → Identifier) :
    Prop where
  outside : ∀ id, ¬ id.isWithin old = true → f id = id
  owner : f old = new
  member : ∀ kind name chain, f (old.extend ((kind, name) :: chain)) =
    new.extend ((kind, s.newName kind name) :: chain)

section Moved

variable (old new : Identifier) (s : Shadowed)

def relocate (id : Identifier) : Identifier := (moved? old new s id).getD id

theorem moved?_of_not_isWithin {id : Identifier} (h : ¬ id.isWithin old = true) :
    moved? old new s id = none := by
  induction id with
  | top kind name =>
    rw [isWithin_top] at h
    rw [moved?, if_neg fun heq => h heq.symm]
  | child parent kind name ih =>
    rw [isWithin_child, not_or] at h
    have hparent : parent ≠ old := by
      rintro rfl
      exact h.2 parent.isWithin_self
    rw [moved?, if_neg fun heq => h.1 heq.symm, if_neg hparent, ih h.2, Option.map_none]

theorem extend_ne_self {chain : List Accessor} (h : chain ≠ []) : old.extend chain ≠ old := by
  intro heq
  have hchain : chain = [] := old.extend_injective heq
  exact h hchain

theorem moved?_extend (kind : IdentKind) (name : String) (chain : List Accessor) :
    moved? old new s (old.extend ((kind, name) :: chain)) =
      some (new.extend ((kind, s.newName kind name) :: chain)) := by
  -- The first accessor decides on the name; the later ones only follow their parents.
  induction chain using List.reverseRecOn with
  | nil =>
    show moved? old new s (old.child kind name) = some (new.child kind (s.newName kind name))
    rw [moved?, if_neg (child_ne_self old kind name), if_pos rfl, s.hiddenName?_getD]
  | append_singleton chain last ih =>
    rw [← List.cons_append, ← List.cons_append, extend_concat, extend_concat]
    have hself : (old.extend ((kind, name) :: chain)).child last.1 last.2 ≠ old := by
      rw [← extend_concat]
      exact extend_ne_self old (by simp)
    have hparent : old.extend ((kind, name) :: chain) ≠ old := extend_ne_self old (by simp)
    rw [moved?, if_neg hself, if_neg hparent, ih, Option.map_some]

theorem relocates_relocate : old.Relocates new s (relocate old new s) where
  outside id h := by rw [relocate, moved?_of_not_isWithin old new s h, Option.getD_none]
  owner := by rw [relocate, moved?_self, Option.getD_some]
  member kind name chain := by rw [relocate, moved?_extend, Option.getD_some]

theorem relocate_name (id : Identifier) :
    id = old ∨ (relocate old new s id).name = id.name ∨
      (relocate old new s id).name = braced id.name := by
  cases id with
  | top kind name =>
    rw [relocate, moved?]
    split
    · exact .inl ‹_›
    · exact .inr (.inl rfl)
  | child parent kind name =>
    rw [relocate, moved?]
    split
    · exact .inl ‹_›
    · split
      · rw [s.hiddenName?_getD, Shadowed.newName]
        split
        · exact .inr (.inr rfl)
        · exact .inr (.inl rfl)
      · cases moved? old new s parent <;> exact .inr (.inl rfl)

end Moved

theorem Relocates.eq_self {owner : Identifier} {s : Shadowed} {f : Identifier → Identifier}
    (h : owner.Relocates owner s f) (hs : s.isEmpty = true) (id : Identifier) : f id = id := by
  by_cases hwithin : id.isWithin owner = true
  · obtain ⟨chain, rfl⟩ := isWithin_iff_extend.mp hwithin
    cases chain with
    | nil => exact h.owner
    | cons accessor chain =>
      obtain ⟨kind, name⟩ := accessor
      rw [h.member, Shadowed.newName_of_isEmpty hs]
  · exact h.outside id hwithin

theorem Relocates.member_eq_iff {old new : Identifier} {s : Shadowed} {f : Identifier → Identifier}
    (h : old.Relocates new s f) {kind kind' : IdentKind} {name name' : String}
    {chain chain' : List Accessor} :
    f (old.extend ((kind, name) :: chain)) = f (old.extend ((kind', name') :: chain')) ↔
      kind = kind' ∧ s.newName kind name = s.newName kind' name' ∧ chain = chain' := by
  rw [h.member, h.member, new.extend_injective.eq_iff, List.cons.injEq, Prod.mk.injEq, and_assoc]

theorem exists_extend_of_isWithin {owner id : Identifier} (h : id.isWithin owner = true)
    (hne : id ≠ owner) : ∃ kind name chain, id = owner.extend ((kind, name) :: chain) := by
  obtain ⟨chain, rfl⟩ := isWithin_iff_extend.mp h
  cases chain with
  | nil => exact absurd rfl hne
  | cons accessor chain => exact ⟨accessor.1, accessor.2, chain, rfl⟩

end Identifier

inductive ResolvedPath.Relabelled (f : Identifier → Identifier) :
    ResolvedPath → ResolvedPath → Prop
  | identifier (id : Identifier) : Relabelled f (.identifier id) (.identifier (f id))
  | apply {functor functor' argument argument' : ResolvedPath} :
      Relabelled f functor functor' → Relabelled f argument argument' →
      Relabelled f (.apply functor argument) (.apply functor' argument')
  | dot {parent parent' : ResolvedPath} (kind : IdentKind) (name : String) :
      Relabelled f parent parent' → Relabelled f (.dot parent kind name) (.dot parent' kind name)

theorem ResolvedPath.relabelled_mapIdentifiers (f : Identifier → Identifier)
    (path : ResolvedPath) : path.Relabelled f (path.mapIdentifiers f) := by
  induction path with
  | identifier id => exact .identifier id
  | apply functor argument ihf iha => exact .apply ihf iha
  | dot parent kind name ih => exact .dot kind name ih

def LeafRel.relabelling (f : Identifier → Identifier) : LeafRel where
  ident id id' := id' = f id
  resolved := ResolvedPath.Relabelled f

namespace LeafMap

theorem identifiers_follows (f : Identifier → Identifier) :
    (LeafMap.identifiers f).Follows (.relabelling f) where
  ident _ := rfl
  path := Path.parallel_mapResolved (ResolvedPath.relabelled_mapIdentifiers f)
  var _ := rfl
  constr _ _ := rfl

theorem identifiers_still {f : Identifier → Identifier} (h : ∀ id, f id = id) :
    (LeafMap.identifiers f).Still := by
  have hresolved (path : ResolvedPath) : path.mapIdentifiers f = path := by
    induction path with
    | identifier id => rw [ResolvedPath.mapIdentifiers, h]
    | apply functor argument ihf iha => rw [ResolvedPath.mapIdentifiers, ihf, iha]
    | dot parent kind name ih => rw [ResolvedPath.mapIdentifiers, ih]
  have hpath (path : Path) : path.mapResolved (ResolvedPath.mapIdentifiers f) = path := by
    induction path with
    | resolved path => rw [Path.mapResolved, hresolved]
    | root name => rfl
    | dot parent name ih => rw [Path.mapResolved, ih]
    | apply functor argument ihf iha => rw [Path.mapResolved, ihf, iha]
  refine ⟨h, hpath, fun _ => rfl, fun path args => ?_⟩
  show TypeExpr.constr (path.mapResolved (ResolvedPath.mapIdentifiers f)) args = .constr path args
  rw [hpath]

end LeafMap

mutual

theorem Signature.members_mapLeaves (r : LeafMap) : ∀ sig : Signature,
    (sig.mapLeaves r).members = sig.members.map (·.mapLeaves r)
  | ⟨items, compiled, doc⟩ => by
    rw [Signature.mapLeaves, Signature.members, Signature.members, membersOfItems_mapItems r items]

theorem membersOfItems_mapItems (r : LeafMap) : ∀ items : List Item,
    membersOfItems (mapItems r items) = (membersOfItems items).map (·.mapLeaves r)
  | [] => by rw [mapItems, membersOfItems, List.map_nil]
  | item :: items => by
    rw [mapItems, membersOfItems, membersOfItems, List.map_append, item.members_mapLeaves r,
      membersOfItems_mapItems r items]

theorem Item.members_mapLeaves (r : LeafMap) (item : Item) :
    (item.mapLeaves r).members = item.members.map (·.mapLeaves r) := by
  cases item with
  | included i =>
    rw [Item.mapLeaves, Item.members, Item.members, i.members_mapLeaves r]
  | _ => simp only [Item.mapLeaves, Item.members, List.map_cons, List.map_nil]

theorem Include.members_mapLeaves (r : LeafMap) : ∀ i : Include,
    (i.mapLeaves r).members = i.members.map (·.mapLeaves r)
  | ⟨parent, doc, decl, strengthened, shadowed, content⟩ => by
    rw [Include.mapLeaves, Include.members, Include.members, content.members_mapLeaves r]

end

namespace Signature

def declarations (sig : Signature) : List Identifier := sig.members.filterMap (·.identifier?)

theorem declarations_mapLeaves (r : LeafMap) (sig : Signature) :
    (sig.mapLeaves r).declarations = sig.declarations.map r.ident := by
  unfold declarations
  rw [members_mapLeaves, List.filterMap_map, List.map_filterMap]
  congr 1
  funext item
  exact item.identifier?_mapLeaves r

theorem reparent_eq {sig : Signature} {old : Identifier} (hold : sig.parent? = some old)
    (new : Identifier) (s : Shadowed) :
    sig.reparent new s = sig.mapLeaves (.identifiers (old.relocate new s)) := by
  unfold reparent
  rw [hold]
  dsimp only
  split
  case isTrue hsame =>
    obtain ⟨rfl, hs⟩ := hsame
    have hstill := (Identifier.relocates_relocate old old s).eq_self hs
    exact ((LeafMap.identifiers_still hstill).signature sig).symm
  case isFalse => rfl

/-- A signature that is moved is the same but for its identifiers, which are all moved by one map. A
reference to a declaration of the signature is led to where the declaration has gone. -/
theorem reparent_relabels (sig : Signature) {old : Identifier} (hold : sig.parent? = some old)
    (new : Identifier) (s : Shadowed) :
    ∃ f, old.Relocates new s f ∧ sig.Parallel (.relabelling f) (sig.reparent new s) ∧
      (sig.reparent new s).declarations = sig.declarations.map f ∧
      ∀ id path, (Path.ofIdentifier id).Parallel (.relabelling f) path →
        path = .ofIdentifier (f id) := by
  refine ⟨old.relocate new s, old.relocates_relocate new s, ?_, ?_, ?_⟩
  · rw [reparent_eq hold]
    exact (LeafMap.identifiers_follows _).signature sig
  · rw [reparent_eq hold, declarations_mapLeaves]
    rfl
  · rintro id path ⟨⟨⟩⟩
    rfl

def referring (owner : Identifier) (name : String) : Signature :=
  .ofItems [.type ⟨owner.child .type name, [], {}, none⟩,
    .value ⟨owner.child .value "x", [], .constr (.ofIdentifier (owner.child .type name)) []⟩]

theorem reparent_relabels_referring :
    let old := (Identifier.root "A").child .moduleType "S"
    let new := Identifier.root "B"
    (referring old "t").reparent new { types := ["t"] } = referring new "\x7bt\x7d" ∧
    ∃ f, f (old.child .type "t") = new.child .type "\x7bt\x7d" ∧
      f (old.child .value "x") = new.child .value "x" ∧
      (referring old "t").Parallel (.relabelling f) (referring new "\x7bt\x7d") := by
  intro old new
  have hmoved : (referring old "t").reparent new { types := ["t"] } =
      referring new "\x7bt\x7d" := rfl
  obtain ⟨f, hf, hparallel, -⟩ :=
    reparent_relabels (referring old "t") (show _ = some old from rfl) new { types := ["t"] }
  rw [hmoved] at hparallel
  exact ⟨hmoved, f, hf.member .type "t" [], hf.member .value "x" [], hparallel⟩

/-- Declarations that are distinct stay so, unless one of them is renamed to what another is called
that is not renamed. -/
theorem reparent_nodup_iff (sig : Signature) {old : Identifier} (hold : sig.parent? = some old)
    (hbelow : ∀ id ∈ sig.declarations, id.isWithin old = true ∧ id ≠ old)
    (hnodup : sig.declarations.Nodup) (new : Identifier) (s : Shadowed) :
    (sig.reparent new s).declarations.Nodup ↔
      ¬ ∃ kind name chain, name ∈ s.names kind ∧ braced name ∉ s.names kind ∧
        old.extend ((kind, name) :: chain) ∈ sig.declarations ∧
        old.extend ((kind, braced name) :: chain) ∈ sig.declarations := by
  have hrelocate := old.relocates_relocate new s
  rw [reparent_eq hold, declarations_mapLeaves, List.nodup_map_iff_inj_on hnodup]
  constructor
  · rintro hinjective ⟨kind, name, chain, hname, hbraced, hdeclared, htaken⟩
    have hnames : s.newName kind name = s.newName kind (braced name) :=
      (s.newName_eq_iff kind name _).mpr (.inr (.inl ⟨hname, hbraced, rfl⟩))
    have hsame := hinjective _ hdeclared _ htaken (hrelocate.member_eq_iff.mpr ⟨rfl, hnames, rfl⟩)
    have hself : name = braced name := by simpa using old.extend_injective hsame
    exact braced_ne_self name hself.symm
  · intro hfree id hid id' hid' hsame
    obtain ⟨kind, name, chain, rfl⟩ :=
      Identifier.exists_extend_of_isWithin (hbelow id hid).1 (hbelow id hid).2
    obtain ⟨kind', name', chain', rfl⟩ :=
      Identifier.exists_extend_of_isWithin (hbelow id' hid').1 (hbelow id' hid').2
    obtain ⟨rfl, hnames, rfl⟩ := hrelocate.member_eq_iff.mp hsame
    rcases (s.newName_eq_iff kind name name').mp hnames with rfl | hclash | hclash
    · rfl
    · obtain ⟨hname, hname', rfl⟩ := hclash
      exact absurd ⟨kind, name, chain, hname, hname', hid, hid'⟩ hfree
    · obtain ⟨hname', hname, rfl⟩ := hclash
      exact absurd ⟨kind, name', chain, hname', hname, hid', hid⟩ hfree

def hidingInclude : Signature :=
  let owner := (Identifier.root "A").child .moduleType "S"
  let type (name : String) := Item.type ⟨owner.child .type name, [], {}, none⟩
  .ofItems [.included ⟨owner, [], .aliasOf (.ofIdentifier (.root "C")), none, { types := ["t"] },
    .ofItems [type "\x7bt\x7d"]⟩, type "t", type "u"]

theorem declarations_hidingInclude : hidingInclude.declarations =
    ["\x7bt\x7d", "t", "u"].map (((Identifier.root "A").child .moduleType "S").child .type) := rfl

theorem hidingInclude_below (id : Identifier) (hid : id ∈ hidingInclude.declarations) :
    id.isWithin ((Identifier.root "A").child .moduleType "S") = true ∧
      id ≠ (Identifier.root "A").child .moduleType "S" := by
  rw [declarations_hidingInclude] at hid
  revert id
  decide

theorem reparent_hidingInclude_nodup :
    (hidingInclude.reparent (.root "B") { types := ["u"] }).declarations.Nodup := by
  refine (reparent_nodup_iff hidingInclude rfl hidingInclude_below (by decide) (.root "B")
    { types := ["u"] }).mpr ?_
  rintro ⟨kind, name, chain, hname, -, -, htaken⟩
  obtain ⟨rfl, rfl⟩ : kind = .type ∧ name = "u" := by
    cases kind <;> simp_all [Shadowed.names]
  rw [declarations_hidingInclude, List.mem_map] at htaken
  obtain ⟨other, hother, heq⟩ := htaken
  have hchains : [(IdentKind.type, other)] = (.type, braced "u") :: chain :=
    Identifier.extend_injective _ heq
  obtain ⟨rfl, -⟩ : other = braced "u" ∧ [] = chain := by simpa using hchains
  exact absurd hother (by decide)

theorem reparent_hidingInclude_clash :
    hidingInclude.parent? = some ((Identifier.root "A").child .moduleType "S") ∧
    (∀ id ∈ hidingInclude.declarations,
      id.isWithin ((Identifier.root "A").child .moduleType "S") = true ∧
        id ≠ (Identifier.root "A").child .moduleType "S") ∧
    hidingInclude.declarations.Nodup ∧
    ¬ (hidingInclude.reparent (.root "B") { types := ["t"] }).declarations.Nodup :=
  ⟨rfl, hidingInclude_below, by decide, by decide⟩

end Signature

end CrossRef
