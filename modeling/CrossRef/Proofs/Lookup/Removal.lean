import CrossRef.Lookup
import CrossRef.Proofs.Signature.Holes

/-! Which member a destructive constraint erases. The fragment designates the last member of its
name, and that one goes, unless it is in an include and another of the name stands in front. -/

namespace CrossRef

namespace Item

variable {name : String} {item : Item}

theorem eq_type_of_declaresType (h : item.declaresType name = true) :
    ∃ t, item = .type t ∧ t.id.name = name := by
  cases item with
  | type t => exact ⟨t, rfl, of_decide_eq_true h⟩
  | _ => cases h

theorem eq_module_of_declaresModule (h : item.declaresModule name = true) :
    ∃ m, item = .module m ∧ m.id.name = name := by
  cases item with
  | module m => exact ⟨m, rfl, of_decide_eq_true h⟩
  | _ => cases h

theorem binds_of_declaresType (item : Item) (h : item.declaresType name = true) :
    item.binds .type name = true := by
  obtain ⟨t, rfl, -⟩ := eq_type_of_declaresType h
  exact h

theorem binds_of_declaresModule (item : Item) (h : item.declaresModule name = true) :
    item.binds .module name = true := by
  obtain ⟨m, rfl, -⟩ := eq_module_of_declaresModule h
  exact h

end Item

namespace Lookup

section Single

variable {f : ResolvedFragment} {name : String} (hf : f.segments = [name]) (fuel : Nat) (env : Env)

include hf

theorem constrain_single {c : Constraint} (hc : c.fragment = .resolved f) (sig : Signature) :
    constrain fuel env c sig = (Steps.start fuel env).constrainMember env c name sig := by
  simp only [constrain, Steps.constrain, hc, Fragment.resolved?, hf, Steps.constrainAt]

variable {sig : Signature} {hole : Hole}

theorem constrain_typeEq {t : TypeDecl} (hmarks : hole.Marks sig .type name (.type t))
    (equation : TypeEquation) :
    constrain fuel env (.typeEq (.resolved f) equation) sig =
      pure (hole.fill [.type { t with equation }]) := by
  have hset : sig.setTypeEquation name equation = some (hole.fill [.type { t with equation }]) :=
    hmarks.updateLast Item.binds_of_declaresType hmarks.binds
      (Signature.stableChange_typeEquation name equation)
  rw [constrain_single hf fuel env rfl]
  simp only [Steps.constrainMember, hset]

theorem constrain_moduleEq {m : Module} (hmarks : hole.Marks sig .module name (.module m))
    (decl : ModuleDecl) :
    constrain fuel env (.moduleEq (.resolved f) decl) sig =
      pure (hole.fill [.module { m with decl }]) := by
  have hset : sig.setModuleDecl name decl = some (hole.fill [.module { m with decl }]) :=
    hmarks.updateLast Item.binds_of_declaresModule hmarks.binds
      (Signature.stableChange_moduleDecl name decl)
  rw [constrain_single hf fuel env rfl]
  simp only [Steps.constrainMember, hset]

variable {loads after : Loads} {out : Signature}

theorem constrain_typeSubst {t : TypeDecl} (hmarks : hole.Marks sig .type name (.type t))
    {equation : TypeEquation}
    (h : constrain fuel env (.typeSubst (.resolved f) equation) sig loads = (.ok out, after)) :
    ∃ manifest, equation.manifest = some manifest ∧
      (∃ (place : Hole) (u : TypeDecl), sig = place.fill [.type u] ∧ u.id.name = name ∧
        out = (place.fill []).substituteType u.id equation.params manifest) ∧
      (out = (hole.fill []).substituteType t.id equation.params manifest ↔
        ∀ item ∈ hole.passed, item.declaresType name = false) := by
  obtain ⟨place, taken, hplace, htaken, hremove, hiff⟩ :=
    hmarks.remove_iff Item.binds_of_declaresType hmarks.binds
  obtain ⟨u, rfl, hu⟩ := Item.eq_type_of_declaresType htaken
  rw [constrain_single hf fuel env rfl] at h
  cases hmanifest : equation.manifest with
  | none =>
    simp only [Steps.constrainMember, hmanifest] at h
    cases h
  | some manifest =>
    simp only [Steps.constrainMember, hmanifest, hremove] at h
    cases h
    refine ⟨manifest, rfl, ⟨place, u, hplace, hu, rfl⟩, ?_⟩
    exact hiff fun item => .unfoldType (item.identifier?.getD t.id) equation.params manifest

theorem constrain_moduleSubst {m : Module} (hmarks : hole.Marks sig .module name (.module m))
    {path : Path}
    (h : constrain fuel env (.moduleSubst (.resolved f) path) sig loads = (.ok out, after)) :
    ∃ target, modulePath fuel env path loads = (.ok target, after) ∧
      (∃ (place : Hole) (n : Module), sig = place.fill [.module n] ∧ n.id.name = name ∧
        out = (place.fill []).reroot n.id target) ∧
      (out = (hole.fill []).reroot m.id target ↔
        ∀ item ∈ hole.passed, item.declaresModule name = false) := by
  obtain ⟨place, taken, hplace, htaken, hremove, hiff⟩ :=
    hmarks.remove_iff Item.binds_of_declaresModule hmarks.binds
  obtain ⟨n, rfl, hn⟩ := Item.eq_module_of_declaresModule htaken
  rw [constrain_single hf fuel env rfl] at h
  obtain ⟨target, middle, htarget, h⟩ := LookupM.bind_eq_ok.mp h
  simp only [hremove] at h
  cases h
  refine ⟨target, htarget, ⟨place, n, hplace, hn, rfl⟩, ?_⟩
  exact hiff fun item => .reroot (item.identifier?.getD m.id) target

end Single

/-- A destructive constraint erases one member of the name that it is given, and rewrites the
references to that one. It is the last one, which an equation would change, if and only if there is
no other in front of the includes around the last. -/
theorem constrain_erases_last_iff (fuel : Nat) (env : Env) (sig : Signature) {f : ResolvedFragment}
    {name : String} (hf : f.segments = [name]) (loads after : Loads) (out : Signature) :
    (∀ t equation, sig.find? .type name = some (.type t) →
      constrain fuel env (.typeSubst (.resolved f) equation) sig loads = (.ok out, after) →
      (∃ hole : Hole, hole.Marks sig .type name (.type t)) ∧
      ∀ hole : Hole, hole.Marks sig .type name (.type t) →
        (∀ other, constrain fuel env (.typeEq (.resolved f) other) sig =
          pure (hole.fill [.type { t with equation := other }])) ∧
        ∃ manifest, equation.manifest = some manifest ∧
          (∃ (place : Hole) (u : TypeDecl), sig = place.fill [.type u] ∧ u.id.name = name ∧
            out = (place.fill []).substituteType u.id equation.params manifest) ∧
          (out = (hole.fill []).substituteType t.id equation.params manifest ↔
            ∀ item ∈ hole.passed, item.declaresType name = false)) ∧
    (∀ m path, sig.find? .module name = some (.module m) →
      constrain fuel env (.moduleSubst (.resolved f) path) sig loads = (.ok out, after) →
      (∃ hole : Hole, hole.Marks sig .module name (.module m)) ∧
      ∀ hole : Hole, hole.Marks sig .module name (.module m) →
        (∀ decl, constrain fuel env (.moduleEq (.resolved f) decl) sig =
          pure (hole.fill [.module { m with decl }])) ∧
        ∃ target, modulePath fuel env path loads = (.ok target, after) ∧
          (∃ (place : Hole) (n : Module), sig = place.fill [.module n] ∧ n.id.name = name ∧
            out = (place.fill []).reroot n.id target) ∧
          (out = (hole.fill []).reroot m.id target ↔
            ∀ item ∈ hole.passed, item.declaresModule name = false)) := by
  constructor
  · intro t equation hfind h
    refine ⟨Signature.exists_marks hfind, fun hole hmarks => ?_⟩
    exact ⟨constrain_typeEq hf fuel env hmarks, constrain_typeSubst hf fuel env hmarks h⟩
  · intro m path hfind h
    refine ⟨Signature.exists_marks hfind, fun hole hmarks => ?_⟩
    exact ⟨constrain_moduleEq hf fuel env hmarks, constrain_moduleSubst hf fuel env hmarks h⟩

def includedType : TypeDecl where
  id := ((Identifier.root "B").child .moduleType "T").child .type "t"
  doc := []
  equation := {}
  representation := none

def includedModule : Module where
  id := ((Identifier.root "B").child .moduleType "T").child .module "M"
  doc := []
  decl := .typed (.signature (.ofItems []))
  hidden := false

def includingHole (name : String) (front back : List Item) (path : Path) : Hole :=
  let owner := (Identifier.root "A").child .moduleType "S"
  let origin := (Identifier.root "B").child .moduleType "T"
  .inside [.type ⟨owner.child .type name, [], {}, none⟩] owner []
    (.typed (.path (.ofIdentifier origin))) none {} (.here front back false [])
    [.value ⟨owner.child .value "x", [], .constr path []⟩] false []

def equalsInt : TypeEquation where
  manifest := some (.constr (.ofIdentifier (.coreType "int")) [])

theorem includingHole_marks_type (name : String) (path : Path) :
    (includingHole name [] [.module includedModule] path).Marks
      ((includingHole name [] [.module includedModule] path).fill [.type includedType])
      .type "t" (.type includedType) where
  fill_eq := rfl
  binds := rfl
  last := List.forall_mem_cons.mpr ⟨rfl, List.forall_mem_singleton.mpr rfl⟩

theorem includingHole_marks_module (name : String) (path : Path) :
    (includingHole name [.type includedType] [] path).Marks
      ((includingHole name [.type includedType] [] path).fill [.module includedModule])
      .module "M" (.module includedModule) where
  fill_eq := rfl
  binds := rfl
  last := List.forall_mem_singleton.mpr rfl

theorem constrain_erases_included :
    let t := includingHole "u" [] [.module includedModule] (.ofIdentifier includedType.id)
    let withoutType := includingHole "u" [] [.module includedModule]
      (.ofIdentifier (.coreType "int"))
    let m := includingHole "u" [.type includedType] []
      (.ofIdentifier (includedModule.id.child .type "s"))
    let withoutModule := includingHole "u" [.type includedType] []
      (.ofIdentifier ((Identifier.root "N").child .type "s"))
    constrain 1 .empty (.typeSubst (.resolved (.type .root "t")) equalsInt)
        (t.fill [.type includedType]) {} = (.ok (withoutType.fill []), {}) ∧
    withoutType.fill [] = (t.fill []).substituteType includedType.id []
      (.constr (.ofIdentifier (.coreType "int")) []) ∧
    constrain 1 .empty (.moduleSubst (.resolved (.module .root "M")) (.ofIdentifier (.root "N")))
        (m.fill [.module includedModule]) {} = (.ok (withoutModule.fill []), {}) ∧
    withoutModule.fill [] = (m.fill []).reroot includedModule.id (.identifier (.root "N")) := by
  intro t withoutType m withoutModule
  refine ⟨rfl, ?_, rfl, ?_⟩
  · obtain ⟨htypes, -⟩ := constrain_erases_last_iff 1 .empty (t.fill [.type includedType])
      (f := .type .root "t") rfl {} {} (withoutType.fill [])
    obtain ⟨-, hmarked⟩ := htypes includedType equalsInt rfl rfl
    obtain ⟨-, manifest, hmanifest, -, hiff⟩ := hmarked t (includingHole_marks_type _ _)
    cases hmanifest
    exact hiff.mpr (List.forall_mem_singleton.mpr rfl)
  · obtain ⟨-, hmodules⟩ := constrain_erases_last_iff 1 .empty (m.fill [.module includedModule])
      (f := .module .root "M") rfl {} {} (withoutModule.fill [])
    obtain ⟨-, hmarked⟩ := hmodules includedModule (.ofIdentifier (.root "N")) rfl rfl
    obtain ⟨-, target, htarget, -, hiff⟩ := hmarked m (includingHole_marks_module _ _)
    cases htarget
    exact hiff.mpr (List.forall_mem_singleton.mpr rfl)

theorem constrain_erases_other :
    let t := includingHole "t" [] [.module includedModule] (.ofIdentifier includedType.id)
    (t.fill [.type includedType]).find? .type "t" = some (.type includedType) ∧
    t.Marks (t.fill [.type includedType]) .type "t" (.type includedType) ∧
    ∃ out, constrain 1 .empty (.typeSubst (.resolved (.type .root "t")) equalsInt)
        (t.fill [.type includedType]) {} = (.ok out, {}) ∧
      out ≠ (t.fill []).substituteType includedType.id []
        (.constr (.ofIdentifier (.coreType "int")) []) := by
  refine ⟨rfl, includingHole_marks_type _ _, _, rfl, fun h => ?_⟩
  have hlength : 2 = 3 := congrArg (·.items.length) h
  cases hlength

end Lookup

end CrossRef
