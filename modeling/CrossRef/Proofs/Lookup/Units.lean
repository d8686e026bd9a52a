import CrossRef.Proofs.Lookup.Termination

/-! Looking for units by name. -/

namespace CrossRef

open LookupM

/-- The text of a unit that goes by `name`. -/
def Expansion.IsUnit (policy : Policy) (name : String) (found : Expansion) : Prop :=
  ∃ unit : CompilationUnit, unit.Stands policy ∧ unit.name = name ∧
    found = .signature unit.content.signature

section Units

variable {policy : Policy} {env : Env} (he : env.Orderly policy) {name : String}
  (hname : ¬ policy.Clear name)

include he hname

theorem Env.Orderly.lookupByName_unit {id : Identifier} {component : Component}
    (hfound : env.lookupByName .module name = some (id, component)) : id = .root name := by
  rw [Env.lookupByName] at hfound
  obtain ⟨bound, hbound, hrest⟩ := Option.bind_eq_some_iff.mp hfound
  obtain ⟨found, -, hpair⟩ := Option.bind_eq_some_iff.mp hrest
  cases hpair
  obtain ⟨scope, hscope, hlookup⟩ := List.exists_of_findSome?_eq_some hbound
  obtain ⟨newer, older, hsplit, -⟩ := List.lookup_eq_some_iff.mp hlookup
  refine ((he.scopes scope hscope).names name id ?_).resolve_left hname
  rw [hsplit]
  exact List.mem_append_right newer List.mem_cons_self

theorem Steps.modulePath_unit (s : Steps) :
    (s.modulePath env (.root name)).Completes policy (· = .identifier (.root name)) := by
  simp only [Steps.modulePath]
  split
  case h_1 id component hfound =>
    exact completes_pure (congrArg _ (he.lookupByName_unit hname hfound))
  case h_2 =>
    have hroot (root : Identifier) (hfound : env.lookupUnit name = .found root) :
        root = .root name := by
      rw [Env.lookupUnit] at hfound
      split at hfound
      · exact ((he.units _ ‹_›).roots name root hfound).resolve_left hname
      · cases hfound
    split
    case h_1 root hfound => exact completes_pure (congrArg _ (hroot root hfound))
    all_goals exact completes_fail _ _

theorem Steps.identifier_unit (s : Steps) :
    (s.identifier env (.root name)).Completes policy (·.IsUnit policy name) := by
  rw [Steps.identifier]
  split
  case h_1 m hbound => exact absurd (he.lookupById hbound).2 hname
  case h_2 arg hbound => exact absurd (he.lookupById hbound).2 hname
  case h_3 unit hbound =>
    obtain ⟨hunit, hfits⟩ := he.lookupById hbound
    have hid : unit.id = .root name := hfits.resolve_left hname
    exact completes_pure ⟨unit, hunit, congrArg Identifier.name hid, rfl⟩
  case h_4 =>
    exact (completes_fetch he (.root name)).bind fun unit hunit =>
      completes_pure ⟨unit, hunit.stands, hunit.named.resolve_left hname, rfl⟩

theorem followTarget_unit (expand : Nat → Env → ModuleDecl → LookupM Expansion) (budget : Nat) :
    (followTarget expand budget env (.module (.identifier (.root name)))).Completes policy
      (·.IsUnit policy name) := by
  cases budget with
  | zero => exact completes_fail _ _
  | succ budget => exact Steps.identifier_unit he hname _

theorem Lookup.aliasExpansion_unit (fuel : Nat) {path : Path}
    (hpath : path = .root name ∨ path = .ofIdentifier (.root name)) :
    (aliasExpansion fuel env path false).Completes policy (·.IsUnit policy name) := by
  have htarget : (modulePath fuel env path).Completes policy (· = .identifier (.root name)) := by
    rcases hpath with rfl | rfl
    · exact Steps.modulePath_unit he hname (Steps.start fuel env)
    · exact completes_pure rfl
  refine htarget.bind fun target htarget => ?_
  rw [htarget]
  refine Completes.bind (followTarget_unit he hname _ _) fun found hfound => ?_
  cases found <;> exact completes_pure hfound

end Units

end CrossRef
