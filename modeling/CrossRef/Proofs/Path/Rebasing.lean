import CrossRef.Proofs.Signature.Relocation

/-! Rebased identifiers. A move from one declaration to another keeps the chain of accessors that
leads from the declaration to the identifier. So all the ways to move an identifier agree, each move
can be taken back, and two moves in a row are one. -/

namespace CrossRef

namespace Identifier

section Rebase

variable (source target : Identifier)

theorem rebase_self : source.rebase source target = some target := by
  cases source <;> rw [rebase, if_pos rfl]

theorem moved?_eq_rebase {s : Shadowed} (hs : s.isEmpty = true) (id : Identifier) :
    moved? source target s id = id.rebase source target := by
  induction id with
  | top kind name => rfl
  | child parent kind name ih =>
    -- A member of `source` itself has a case of its own, for the sake of its name only.
    have hmember (h : parent = source) : some (target.child kind name) =
        (parent.rebase source target).map (child · kind name) := by
      rw [h, rebase_self, Option.map_some]
    rw [moved?, rebase, s.hiddenName?_getD, Shadowed.newName_of_isEmpty hs, ih]
    by_cases hparent : parent = source
    · rw [if_pos hparent, hmember hparent]
    · rw [if_neg hparent]

theorem rebase_extend (chain : List Accessor) :
    (source.extend chain).rebase source target = some (target.extend chain) := by
  have hempty : ({} : Shadowed).isEmpty = true := rfl
  rw [← moved?_eq_rebase source target hempty]
  cases chain with
  | nil => exact moved?_self source target {}
  | cons accessor chain => rw [moved?_extend, Shadowed.newName_of_isEmpty hempty]

theorem rebase_of_not_isWithin {id : Identifier} (h : ¬ id.isWithin source = true) :
    id.rebase source target = none := by
  rw [← moved?_eq_rebase source target (s := {}) rfl, moved?_of_not_isWithin source target {} h]

end Rebase

variable {id id' source target : Identifier}

theorem rebase_eq_some_iff : id.rebase source target = some id' ↔
    ∃ chain, id = source.extend chain ∧ id' = target.extend chain := by
  constructor
  · intro h
    by_cases hwithin : id.isWithin source = true
    · obtain ⟨chain, rfl⟩ := isWithin_iff_extend.mp hwithin
      rw [rebase_extend] at h
      exact ⟨chain, rfl, (Option.some.inj h).symm⟩
    · rw [rebase_of_not_isWithin source target hwithin] at h
      cases h
  · rintro ⟨chain, rfl, rfl⟩
    exact rebase_extend source target chain

theorem isSome_rebase_iff :
    (id.rebase source target).isSome = true ↔ id.isWithin source = true := by
  constructor
  · intro h
    obtain ⟨id', hid'⟩ := Option.isSome_iff_exists.mp h
    obtain ⟨chain, hchain, -⟩ := rebase_eq_some_iff.mp hid'
    exact isWithin_iff_extend.mpr ⟨chain, hchain⟩
  · intro h
    obtain ⟨chain, rfl⟩ := isWithin_iff_extend.mp h
    rw [rebase_extend, Option.isSome_some]

theorem rebase_symm (h : id.rebase source target = some id') :
    id'.rebase target source = some id := by
  obtain ⟨chain, hid, hid'⟩ := rebase_eq_some_iff.mp h
  exact rebase_eq_some_iff.mpr ⟨chain, hid', hid⟩

theorem rebase_trans (id source middle target : Identifier) :
    (id.rebase source middle).bind (·.rebase middle target) = id.rebase source target := by
  by_cases hwithin : id.isWithin source = true
  · obtain ⟨chain, rfl⟩ := isWithin_iff_extend.mp hwithin
    rw [rebase_extend, Option.bind_some, rebase_extend, rebase_extend]
  · rw [rebase_of_not_isWithin source middle hwithin, rebase_of_not_isWithin source target hwithin,
      Option.bind_none]

end Identifier

theorem ResolvedPath.rerootIdentifier_identifier (source target id : Identifier) :
    rerootIdentifier source (.identifier target) id =
      (id.rebase source target).map .identifier := by
  induction id with
  | top kind name =>
    rw [rerootIdentifier, Identifier.rebase]
    split <;> rfl
  | child parent kind name ih =>
    rw [rerootIdentifier, Identifier.rebase, ih]
    split
    · rfl
    · rw [Option.map_map, Option.map_map]
      rfl

/-- An identifier can be rebased exactly when it lies within the declaration that is replaced.
Moving it without renaming and rerooting the path to it come to the same. What was rebased lies
within the new declaration and comes back from there, and a stop on the way makes no difference. -/
theorem Identifier.rebase_agrees_and_reverses (id source target : Identifier) :
    ((id.rebase source target).isSome = true ↔ id.isWithin source = true) ∧
    id.rebase source target = moved? source target {} id ∧
    (ResolvedPath.identifier id).reroot source (.identifier target) =
      (id.rebase source target).map .identifier ∧
    (∀ id', id.rebase source target = some id' →
      id'.isWithin target = true ∧ id'.rebase target source = some id) ∧
    ∀ middle, (id.rebase source middle).bind (·.rebase middle target) =
      id.rebase source target := by
  refine ⟨isSome_rebase_iff, (moved?_eq_rebase source target rfl id).symm, ?_, ?_, ?_⟩
  · exact ResolvedPath.rerootIdentifier_identifier source target id
  · intro id' h
    have hback : id'.rebase target source = some id := rebase_symm h
    exact ⟨isSome_rebase_iff.mp (Option.isSome_of_eq_some hback), hback⟩
  · exact fun middle => rebase_trans id source middle target

theorem Identifier.rebase_agrees_and_reverses_nested :
    let source := (Identifier.root "A").child .module "A"
    let target := source.child .module "A"
    let id := target.child .type "t"
    let id' := (target.child .module "A").child .type "t"
    id.rebase source target = some id' ∧ id'.isWithin target = true ∧
      id'.rebase target source = some id := by
  intro source target id id'
  have hid' : id.rebase source target = some id' := by decide
  exact ⟨hid', (rebase_agrees_and_reverses id source target).2.2.2.1 id' hid'⟩

end CrossRef
