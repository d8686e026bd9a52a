import Mathlib.Data.List.Induction
import CrossRef.Proofs.Path.Reroot

/-! Chains of accessors. What lies within a declaration is reached from it by a chain, in one way
only. A path that is led elsewhere has the same chain, started from another place. -/

namespace CrossRef

abbrev Accessor := IdentKind × String

namespace Identifier

def extend (id : Identifier) (chain : List Accessor) : Identifier :=
  chain.foldl (fun owner accessor => owner.child accessor.1 accessor.2) id

theorem extend_concat (id : Identifier) (chain : List Accessor) (accessor : Accessor) :
    id.extend (chain ++ [accessor]) = (id.extend chain).child accessor.1 accessor.2 := by
  simp only [extend, List.foldl_append, List.foldl_cons, List.foldl_nil]

theorem length_ancestors_extend (id : Identifier) (chain : List Accessor) :
    (id.extend chain).ancestors.length = id.ancestors.length + chain.length := by
  induction chain generalizing id with
  | nil => rfl
  | cons accessor chain ih =>
    show ((id.child accessor.1 accessor.2).extend chain).ancestors.length = _
    rw [ih, ancestors, List.length_cons, List.length_cons]
    omega

theorem extend_injective (id : Identifier) : Function.Injective id.extend := by
  intro chain chain' h
  have hlength : chain.length = chain'.length := by
    have hancestors := congrArg (·.ancestors.length) h
    simp only [length_ancestors_extend] at hancestors
    omega
  -- Both chains are taken apart at their ends, where identifiers are.
  induction chain using List.reverseRecOn generalizing chain' with
  | nil => exact (List.length_eq_zero_iff.mp hlength.symm).symm
  | append_singleton chain last ih =>
    rcases List.eq_nil_or_concat chain' with rfl | ⟨front, last', rfl⟩
    · simp at hlength
    · rw [List.concat_eq_append] at h hlength ⊢
      rw [extend_concat, extend_concat] at h
      injection h with hfront hkind hname
      rw [ih hfront (by simpa using hlength), Prod.ext hkind hname]

theorem isWithin_iff_extend {id other : Identifier} :
    id.isWithin other = true ↔ ∃ chain, id = other.extend chain := by
  constructor
  · intro h
    induction id with
    | top kind name => exact ⟨[], ((isWithin_top other kind name).mp h).symm⟩
    | child parent kind name ih =>
      rcases (isWithin_child parent other kind name).mp h with rfl | hparent
      · exact ⟨[], rfl⟩
      · obtain ⟨chain, rfl⟩ := ih hparent
        exact ⟨chain ++ [(kind, name)], (extend_concat other chain (kind, name)).symm⟩
  · rintro ⟨chain, rfl⟩
    induction chain using List.reverseRecOn with
    | nil => exact isWithin_self other
    | append_singleton chain last ih =>
      rw [extend_concat, isWithin_child]
      exact .inr ih

end Identifier

namespace ResolvedPath

def extend (path : ResolvedPath) (chain : List Accessor) : ResolvedPath :=
  chain.foldl (fun owner accessor => owner.child accessor.1 accessor.2) path

theorem extend_concat (path : ResolvedPath) (chain : List Accessor) (accessor : Accessor) :
    path.extend (chain ++ [accessor]) = (path.extend chain).child accessor.1 accessor.2 := by
  simp only [extend, List.foldl_append, List.foldl_cons, List.foldl_nil]

/-- A path that does not mention `source` is kept. In any other one each chain from `source` is
started from `target` instead. -/
inductive Rerooted (source : Identifier) (target : ResolvedPath) :
    ResolvedPath → ResolvedPath → Prop
  | kept {path : ResolvedPath} : path.Avoids source → Rerooted source target path path
  | chain (accessors : List Accessor) :
      Rerooted source target (.identifier (source.extend accessors)) (target.extend accessors)
  | dot {parent parent' : ResolvedPath} (kind : IdentKind) (name : String) :
      ¬ parent.Avoids source → Rerooted source target parent parent' →
      Rerooted source target (.dot parent kind name) (parent'.child kind name)
  | apply {f f' a a' : ResolvedPath} :
      ¬ (ResolvedPath.apply f a).Avoids source → Rerooted source target f f' →
      Rerooted source target a a' → Rerooted source target (.apply f a) (.apply f' a')

variable {source : Identifier} {target : ResolvedPath}

theorem rerootIdentifier_eq_some {id : Identifier} {path : ResolvedPath}
    (h : rerootIdentifier source target id = some path) :
    ∃ chain, id = source.extend chain ∧ path = target.extend chain := by
  induction id generalizing path with
  | top kind name =>
    rw [rerootIdentifier] at h
    split at h
    case isTrue hsource =>
      cases h
      exact ⟨[], hsource, rfl⟩
    case isFalse => cases h
  | child parent kind name ih =>
    rw [rerootIdentifier] at h
    split at h
    case isTrue hsource =>
      cases h
      exact ⟨[], hsource, rfl⟩
    case isFalse =>
      obtain ⟨owner, howner, rfl⟩ := Option.map_eq_some_iff.mp h
      obtain ⟨chain, rfl, rfl⟩ := ih howner
      refine ⟨chain ++ [(kind, name)], ?_, ?_⟩
      · exact (Identifier.extend_concat source chain (kind, name)).symm
      · exact (extend_concat target chain (kind, name)).symm

theorem mentions_of_rerootIdentifier {id : Identifier} {path : ResolvedPath}
    (h : rerootIdentifier source target id = some path) :
    ¬ (ResolvedPath.identifier id).Avoids source := by
  obtain ⟨chain, rfl, -⟩ := rerootIdentifier_eq_some h
  intro havoids
  exact havoids _ (List.mem_singleton.mpr rfl) (Identifier.isWithin_iff_extend.mpr ⟨chain, rfl⟩)

theorem avoids_apply_iff {id : Identifier} {f a : ResolvedPath} :
    (ResolvedPath.apply f a).Avoids id ↔ f.Avoids id ∧ a.Avoids id :=
  List.forall_mem_append

theorem mentions_of_reroot {path path' : ResolvedPath}
    (h : path.reroot source target = some path') : ¬ path.Avoids source := by
  induction path generalizing path' with
  | identifier id => exact mentions_of_rerootIdentifier h
  | apply f a ihf iha =>
    rw [avoids_apply_iff]
    rintro ⟨hf, ha⟩
    have hfunctor : f.reroot source target = none :=
      Option.eq_none_iff_forall_ne_some.mpr fun f' hf' => ihf hf' hf
    have hargument : a.reroot source target = none :=
      Option.eq_none_iff_forall_ne_some.mpr fun a' ha' => iha ha' ha
    rw [reroot, hfunctor, hargument] at h
    cases h
  | dot parent kind name ih =>
    obtain ⟨owner, howner, -⟩ := Option.map_eq_some_iff.mp h
    exact ih howner

theorem rerooted_reroot (path : ResolvedPath) :
    Rerooted source target path ((path.reroot source target).getD path) := by
  induction path with
  | identifier id =>
    cases hid : (ResolvedPath.identifier id).reroot source target with
    | none => exact .kept (reroot_none hid)
    | some path' =>
      obtain ⟨chain, rfl, rfl⟩ := rerootIdentifier_eq_some hid
      exact .chain chain
  | apply f a ihf iha =>
    cases happly : (ResolvedPath.apply f a).reroot source target with
    | none => exact .kept (reroot_none happly)
    | some path' =>
      have hpath' : path' =
          .apply ((f.reroot source target).getD f) ((a.reroot source target).getD a) := by
        rw [reroot] at happly
        split at happly
        · cases happly
        · exact (Option.some.inj happly).symm
      rw [hpath']
      exact .apply (mentions_of_reroot happly) ihf iha
  | dot parent kind name ih =>
    cases hparent : parent.reroot source target with
    | none =>
      have hdot : (ResolvedPath.dot parent kind name).reroot source target = none := by
        rw [reroot, hparent, Option.map_none]
      rw [hdot]
      exact .kept (reroot_none hdot)
    | some owner =>
      rw [hparent] at ih
      rw [reroot, hparent]
      exact .dot kind name (mentions_of_reroot hparent) ih

end ResolvedPath

end CrossRef
