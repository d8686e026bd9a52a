import CrossRef.TypeExpr.LeafMap

/-! Paths that are led elsewhere. When everything that went through a declaration goes through a
path apart from it, the declaration is no longer mentioned. -/

namespace CrossRef

namespace Identifier

theorem isWithin_child (id other : Identifier) (kind : IdentKind) (name : String) :
    (id.child kind name).isWithin other = true ↔
      other = id.child kind name ∨ id.isWithin other = true := by
  simp only [isWithin, ancestors, List.mem_cons, decide_eq_true_eq]

theorem isWithin_top (other : Identifier) (kind : IdentKind) (name : String) :
    (top kind name).isWithin other = true ↔ other = top kind name := by
  simp only [isWithin, ancestors, List.mem_singleton, decide_eq_true_eq]

theorem isWithin_self (id : Identifier) : id.isWithin id = true := by
  cases id with
  | top kind name => exact (isWithin_top _ kind name).mpr rfl
  | child parent kind name => exact (isWithin_child parent _ kind name).mpr (.inl rfl)

theorem isWithin_of_child {id other : Identifier} {kind : IdentKind} {name : String}
    (h : id.isWithin (other.child kind name) = true) : id.isWithin other = true := by
  induction id with
  | top k n =>
    have heq := (isWithin_top _ k n).mp h
    cases heq
  | child parent k n ih =>
    rw [isWithin_child] at h ⊢
    rcases h with h | h
    · cases h
      exact .inr (isWithin_self other)
    · exact .inr (ih h)

end Identifier

namespace ResolvedPath

def identifiers : ResolvedPath → List Identifier
  | identifier id => [id]
  | apply functor argument => functor.identifiers ++ argument.identifiers
  | dot parent _ _ => parent.identifiers

def Avoids (id : Identifier) (path : ResolvedPath) : Prop :=
  ∀ part ∈ path.identifiers, ¬ part.isWithin id = true

/-- The path neither goes through `id` nor is it a declaration in which `id` lies. -/
def Apart (id : Identifier) (path : ResolvedPath) : Prop :=
  path.Avoids id ∧ ∀ other, path = identifier other → ¬ id.isWithin other = true

theorem Apart.child {id : Identifier} {path : ResolvedPath} (h : path.Apart id) (kind : IdentKind)
    (name : String) : (path.child kind name).Apart id := by
  obtain ⟨havoids, houtside⟩ := h
  cases path with
  | identifier other =>
    -- A member of a declaration around `id` could be `id` itself.
    have hother : ¬ id.isWithin other = true := houtside other rfl
    refine ⟨?_, ?_⟩
    · intro part hpart hwithin
      rw [List.mem_singleton.mp hpart, Identifier.isWithin_child] at hwithin
      rcases hwithin with hid | hwithin
      · rw [hid, Identifier.isWithin_child] at hother
        exact hother (.inr other.isWithin_self)
      · exact havoids other (List.mem_singleton.mpr rfl) hwithin
    · rintro _ ⟨⟩ hwithin
      exact hother (Identifier.isWithin_of_child hwithin)
  | apply functor argument => exact ⟨havoids, by rintro _ ⟨⟩⟩
  | dot parent kind name => exact ⟨havoids, by rintro _ ⟨⟩⟩

section Reroot

variable {id : Identifier} {target : ResolvedPath}

theorem rerootIdentifier_none {other : Identifier} (h : rerootIdentifier id target other = none) :
    ¬ other.isWithin id = true := by
  induction other with
  | top kind name =>
    rw [rerootIdentifier] at h
    split at h
    · cases h
    · rename_i hne
      rw [Identifier.isWithin_top]
      exact fun heq => hne heq.symm
  | child parent kind name ih =>
    rw [rerootIdentifier] at h
    split at h
    · cases h
    · rename_i hne
      rw [Identifier.isWithin_child]
      rintro (heq | hwithin)
      · exact hne heq.symm
      · exact ih (Option.map_eq_none_iff.mp h) hwithin

theorem rerootIdentifier_apart (htarget : target.Apart id) {other : Identifier}
    {path : ResolvedPath} (h : rerootIdentifier id target other = some path) : path.Apart id := by
  induction other generalizing path with
  | top kind name =>
    rw [rerootIdentifier] at h
    split at h <;> cases h
    exact htarget
  | child parent kind name ih =>
    rw [rerootIdentifier] at h
    split at h
    · cases h
      exact htarget
    · obtain ⟨owner, howner, rfl⟩ := Option.map_eq_some_iff.mp h
      exact (ih howner).child kind name

theorem reroot_none {path : ResolvedPath} (h : path.reroot id target = none) : path.Avoids id := by
  induction path with
  | identifier other =>
    intro part hpart
    rw [List.mem_singleton.mp hpart]
    exact rerootIdentifier_none h
  | apply functor argument ihf iha =>
    rw [reroot] at h
    split at h
    · rename_i hf ha
      intro part hpart
      rcases List.mem_append.mp hpart with hpart | hpart
      · exact ihf hf part hpart
      · exact iha ha part hpart
    · cases h
  | dot parent kind name ih => exact ih (Option.map_eq_none_iff.mp h)

theorem getD_avoids {path : ResolvedPath}
    (h : ∀ {rerooted}, path.reroot id target = some rerooted → rerooted.Apart id) :
    ((path.reroot id target).getD path).Avoids id := by
  cases hpath : path.reroot id target with
  | none => exact reroot_none hpath
  | some rerooted => exact (h hpath).1

theorem reroot_apart (htarget : target.Apart id) {path rerooted : ResolvedPath}
    (h : path.reroot id target = some rerooted) : rerooted.Apart id := by
  induction path generalizing rerooted with
  | identifier other => exact rerootIdentifier_apart htarget h
  | apply functor argument ihf iha =>
    rw [reroot] at h
    split at h
    · cases h
    -- It is enough that one side is led elsewhere, so the other may have stayed as it was.
    · cases h
      refine ⟨fun part hpart => ?_, by rintro _ ⟨⟩⟩
      rcases List.mem_append.mp hpart with hpart | hpart
      · exact getD_avoids ihf part hpart
      · exact getD_avoids iha part hpart
  | dot parent kind name ih =>
    obtain ⟨owner, howner, rfl⟩ := Option.map_eq_some_iff.mp h
    exact (ih howner).child kind name

theorem avoids_reroot (htarget : target.Apart id) (path : ResolvedPath) :
    ((path.reroot id target).getD path).Avoids id :=
  getD_avoids fun h => reroot_apart htarget h

end Reroot

end ResolvedPath

namespace Path

def identifiers : Path → List Identifier
  | resolved path => path.identifiers
  | root _ => []
  | dot parent _ => parent.identifiers
  | apply functor argument => functor.identifiers ++ argument.identifiers

def Avoids (id : Identifier) (path : Path) : Prop :=
  ∀ part ∈ path.identifiers, ¬ part.isWithin id = true

theorem avoids_mapResolved {id : Identifier} {f : ResolvedPath → ResolvedPath}
    (hf : ∀ path, (f path).Avoids id) (path : Path) : (path.mapResolved f).Avoids id := by
  induction path with
  | resolved path => exact hf path
  | root name =>
    intro part hpart
    cases hpart
  | dot parent name ih => exact ih
  | apply functor argument ihf iha =>
    intro part hpart
    rcases List.mem_append.mp hpart with hpart | hpart
    · exact ihf part hpart
    · exact iha part hpart

end Path

end CrossRef
