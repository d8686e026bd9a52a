import CrossRef.Proofs.Lookup.Allowance
import CrossRef.Proofs.Lookup.Erasure
import CrossRef.Proofs.Lookup.Interchange
import CrossRef.Proofs.Lookup.Replay
import CrossRef.Proofs.Signature.Update

/-! Which declaration a fragment designates. A constraint changes that declaration and no other: the
way down to it is the same whether it is only looked for or changed. -/

namespace CrossRef

namespace ResolvedFragment

def along (ns : Namespace) : ResolvedFragment → List String → ResolvedFragment
  | here, [] => here
  | here, [name] => if ns = .module then here.module name else here.type name
  | here, name :: next :: rest => along ns (here.module name) (next :: rest)

theorem segments_along (ns : Namespace) (here : ResolvedFragment) (names : List String) :
    (along ns here names).segments = here.segments ++ names := by
  fun_induction along ns here names with
  | case1 here => rw [List.append_nil]
  | case2 here name => rfl
  | case3 here name => rfl
  | case4 here name next rest ih =>
    rw [ih, segments, List.append_assoc]
    rfl

end ResolvedFragment

def Item.DeclaredIn : Namespace → Item → Prop
  | .module, module _ => True
  | .type, type _ => True
  | _, _ => False

theorem Item.DeclaredIn.eq_module {item : Item} (h : item.DeclaredIn .module) :
    ∃ m, item = .module m := by
  cases item with
  | module m => exact ⟨m, rfl⟩
  | _ => cases h

theorem Item.DeclaredIn.eq_type {item : Item} (h : item.DeclaredIn .type) :
    ∃ t, item = .type t := by
  cases item with
  | type t => exact ⟨t, rfl⟩
  | _ => cases h

/-- The module or type called `name`, as `ns` says. A class in its place hides a type. -/
def Signature.declared? (sig : Signature) (ns : Namespace) (name : String) : Option Item :=
  match ns, sig.find? ns name with
  | .module, some (.module m) => some (.module m)
  | .type, some (.type t) => some (.type t)
  | _, _ => none

theorem Signature.find?_of_declared? {sig : Signature} {ns : Namespace} {name : String}
    {item : Item} (h : sig.declared? ns name = some item) :
    sig.find? ns name = some item ∧ item.DeclaredIn ns := by
  unfold declared? at h
  split at h
  case h_1 m _ hfind =>
    cases h
    exact ⟨hfind, trivial⟩
  case h_2 t _ hfind =>
    cases h
    exact ⟨hfind, trivial⟩
  case h_3 => cases h

namespace Steps

def designated (s : Steps) (ns : Namespace) (fault : ResolveError) :
    Env → Signature → List String → LookupM Item
  | _, _, [] => LookupM.fail fault
  | _, sig, [name] =>
    match sig.declared? ns name with
    | some item => pure item
    | none => LookupM.fail fault
  | env, sig, name :: next :: rest =>
    match sig.module? name with
    | none => LookupM.fail fault
    | some m => do
      let scope := env.openSignature sig
      let inner ← (← s.restart scope m.decl).asSignature
      s.designated ns fault scope inner (next :: rest)

theorem designated_single_ok {s : Steps} {ns : Namespace} {fault : ResolveError} {env : Env}
    {sig : Signature} {name : String} {loads after : Loads} {item : Item}
    (h : s.designated ns fault env sig [name] loads = (.ok item, after)) :
    sig.declared? ns name = some item ∧ after = loads := by
  rw [designated] at h
  cases hitem : sig.declared? ns name with
  | none =>
    rw [hitem] at h
    cases h
  | some found =>
    rw [hitem] at h
    cases h
    exact ⟨rfl, rfl⟩

theorem designated_cons_ok {s : Steps} {ns : Namespace} {fault : ResolveError} {env : Env}
    {sig : Signature} {name next : String} {rest : List String} {loads after : Loads} {item : Item}
    (h : s.designated ns fault env sig (name :: next :: rest) loads = (.ok item, after)) :
    ∃ m found middle inner entered, sig.module? name = some m ∧
      s.restart (env.openSignature sig) m.decl loads = (.ok found, middle) ∧
      found.asSignature middle = (.ok inner, entered) ∧
      s.designated ns fault (env.openSignature sig) inner (next :: rest) entered =
        (.ok item, after) := by
  rw [designated] at h
  cases hm : sig.module? name with
  | none =>
    rw [hm] at h
    cases h
  | some m =>
    simp only [hm] at h
    obtain ⟨found, middle, hfound, h⟩ := LookupM.bind_eq_ok.mp h
    obtain ⟨inner, entered, hinner, h⟩ := LookupM.bind_eq_ok.mp h
    exact ⟨m, found, middle, inner, entered, rfl, hfound, hinner, h⟩

theorem designated_declaredIn {s : Steps} {ns : Namespace} {fault : ResolveError}
    {names : List String} {env : Env} {sig : Signature} {loads after : Loads} {item : Item}
    (h : s.designated ns fault env sig names loads = (.ok item, after)) : item.DeclaredIn ns := by
  induction names generalizing env sig loads with
  | nil => cases h
  | cons name rest ih =>
    cases rest with
    | nil => exact (Signature.find?_of_declared? (designated_single_ok h).1).2
    | cons next rest =>
      obtain ⟨_, _, _, _, _, -, -, -, hrest⟩ := designated_cons_ok h
      exact ih hrest

theorem locate_single (s : Steps) (ns : Namespace) (fault : ResolveError) (env : Env)
    (sig : Signature) (here : ResolvedFragment) (name : String) :
    s.locate ns fault env sig here [name] =
      match sig.declared? ns name with
      | some _ => pure (here.along ns [name])
      | none => LookupM.fail fault := by
  unfold Steps.locate Signature.declared?
  cases ns with
  | module =>
    rcases sig.find? .module name with _ | item
    · rfl
    · cases item <;> rfl
  | type =>
    rcases sig.find? .type name with _ | item
    · rfl
    · cases item <;> rfl
  | _ => rfl

theorem locate_eq (s : Steps) (ns : Namespace) (fault : ResolveError) (names : List String)
    (env : Env) (sig : Signature) (here : ResolvedFragment) :
    s.locate ns fault env sig here names =
      (fun _ => here.along ns names) <$> s.designated ns fault env sig names := by
  induction names generalizing env sig here with
  | nil => rfl
  | cons name rest ih =>
    cases rest with
    | nil =>
      rw [locate_single, designated]
      cases sig.declared? ns name <;> rfl
    | cons next rest =>
      rw [locate, designated]
      cases sig.module? name with
      | none => rfl
      | some m => simp only [map_bind, ih, ResolvedFragment.along]

end Steps

namespace Constraint

def revise : Constraint → Item → Item
  | moduleEq _ decl, .module m => .module { m with decl }
  | typeEq _ equation, .type t => .type { t with equation }
  | _, item => item

end Constraint

namespace Steps

theorem constrainMember_of_declared? {c : Constraint} (hc : ¬ c.IsDestructive) {sig : Signature}
    {name : String} {item : Item} (h : sig.declared? c.space name = some item) :
    ∃ out, (∀ (s : Steps) env, s.constrainMember env c name sig = pure out) ∧
      out.declared? c.space name = some (c.revise item) ∧
      ∀ (s : Steps) env, s.constrainMember env c name out = pure out := by
  cases c with
  | moduleSubst f path => exact absurd trivial hc
  | typeSubst f equation => exact absurd trivial hc
  | moduleEq f decl =>
    have hspace : (Constraint.moduleEq f decl).space = .module := rfl
    rw [hspace] at h ⊢
    obtain ⟨hfind, hitem⟩ := Signature.find?_of_declared? h
    obtain ⟨m, rfl⟩ := hitem.eq_module
    obtain ⟨out, hout, hfound, hagain⟩ :=
      Signature.setModuleDecl_of_module? (Signature.module?_of_find? hfind) decl
    refine ⟨out, fun s env => ?_, ?_, fun s env => ?_⟩
    · simp only [constrainMember, hout]
    · simp only [Signature.declared?, Signature.find?_of_module? hfound, Constraint.revise]
    · simp only [constrainMember, hagain]
  | typeEq f equation =>
    have hspace : (Constraint.typeEq f equation).space = .type := rfl
    rw [hspace] at h ⊢
    obtain ⟨hfind, hitem⟩ := Signature.find?_of_declared? h
    obtain ⟨t, rfl⟩ := hitem.eq_type
    obtain ⟨out, hout, hfound, hagain⟩ := Signature.setTypeEquation_of_find? hfind equation
    refine ⟨out, fun s env => ?_, ?_, fun s env => ?_⟩
    · simp only [constrainMember, hout]
    · simp only [Signature.declared?, hfound, Constraint.revise]
    · simp only [constrainMember, hagain]

/-- In `out` the names lead to `item` through written signatures alone, and there the constraint
changes nothing. -/
structure Reaches (s : Steps) (fault : ResolveError) (c : Constraint) (names : List String)
    (out : Signature) (item : Item) : Prop where
  designated : ∀ env, s.designated c.space fault env out names = pure item
  constrainAt : ∀ env, s.constrainAt c env names out = pure out

theorem reaches_written {fuel : Nat} {env : Env} {fault : ResolveError} {c : Constraint}
    {name next : String} {rest : List String} {out changed : Signature} {m : Module} {item : Item}
    (hmodule : out.module? name = some { m with decl := .typed (.signature changed) })
    (hagain : out.setModuleDecl name (.typed (.signature changed)) = some out)
    (h : (start (fuel + 1) env).Reaches fault c (next :: rest) changed item) :
    (start (fuel + 1) env).Reaches fault c (name :: next :: rest) out item := by
  have hrestart (scope : Env) : (start (fuel + 1) env).restart scope
      (.typed (.signature changed)) = pure (.signature changed) := rfl
  have hreopen (scope : Env) : (start (fuel + 1) env).reopen scope
      (.typed (.signature changed)) = pure (.signature changed) := rfl
  constructor <;> intro e
  · simp only [designated, hmodule, hrestart, pure_bind, Expansion.asSignature, h.designated]
  · simp only [constrainAt, hmodule, hreopen, pure_bind, Expansion.asSignature, h.constrainAt,
      hagain]

theorem constrainAt_of_designated {fuel : Nat} {env : Env} {c : Constraint} (hc : ¬ c.IsDestructive)
    (fault : ResolveError) (names : List String) {e e' : Env} (he : e.Interchangeable e')
    (hoptions : e.options = env.options) {sig : Signature} {loads after : Loads} {item : Item}
    (h : (start fuel env).designated c.space fault e sig names loads = (.ok item, after)) :
    ∃ out, (start fuel env).constrainAt c e' names sig loads = (.ok out, after) ∧
      (start fuel env).Reaches fault c names out (c.revise item) := by
  induction names generalizing e e' sig loads with
  | nil => cases h
  | cons name rest ih =>
    cases rest with
    | nil =>
      obtain ⟨hitem, rfl⟩ := designated_single_ok h
      obtain ⟨out, hout, hfound, hagain⟩ := constrainMember_of_declared? hc hitem
      refine ⟨out, ?_, fun e => ?_, fun e => ?_⟩
      · rw [constrainAt, hout]
        rfl
      · rw [designated, hfound]
      · rw [constrainAt, hagain]
    | cons next rest =>
      obtain ⟨m, found, middle, inner, entered, hm, hfound, hinner, hrest⟩ := designated_cons_ok h
      -- Looking for the declaration starts each expansion afresh; changing it starts only once,
      -- but has spent nothing when it comes to the next module.
      have hlimit : (e.openSignature sig).options.limit = env.options.limit :=
        congrArg ResolverOptions.limit hoptions
      have hreopen : (start fuel env).reopen (e'.openSignature sig) m.decl loads =
          (.ok found, middle) := by
        have hsame := (he.openSignature sig).expandDecl fuel env.options.limit m.decl
        rw [← hfound]
        show expandDecl fuel env.options.limit (e'.openSignature sig) m.decl loads =
          expandDecl fuel (e.openSignature sig).options.limit (e.openSignature sig) m.decl loads
        rw [hlimit, hsame]
      obtain ⟨changed, hchanged, hreaches⟩ := ih (he.openSignature sig) hoptions hrest
      obtain ⟨out, hout, hmodule, hagain⟩ :=
        Signature.setModuleDecl_of_module? hm (.typed (.signature changed))
      refine ⟨out, ?_, ?_⟩
      · simp only [constrainAt, hm]
        apply LookupM.bind_eq_ok.mpr ⟨found, middle, hreopen, ?_⟩
        apply LookupM.bind_eq_ok.mpr ⟨inner, entered, hinner, ?_⟩
        apply LookupM.bind_eq_ok.mpr ⟨changed, after, hchanged, ?_⟩
        rw [hout]
        rfl
      · cases fuel with
        | zero => cases hfound
        | succ fuel => exact reaches_written hmodule hagain hreaches

end Steps

namespace Lookup

def designated (fuel : Nat) (env : Env) (ns : Namespace) (f : Fragment) : LookupM Item :=
  match env.fragmentRoot? with
  | none => LookupM.fail (.unresolvedFragment f.text)
  | some sig =>
    (Steps.start fuel env).designated ns (.unresolvedFragment f.text) env sig f.segments

theorem fragment_eq (fuel : Nat) (env : Env) (ns : Namespace) {f : Fragment}
    (hf : f.resolved? = none) :
    Lookup.fragment fuel env ns f =
      (fun _ => ResolvedFragment.root.along ns f.segments) <$> designated fuel env ns f := by
  simp only [Lookup.fragment, Steps.fragment, hf, designated]
  cases env.fragmentRoot? with
  | none => rfl
  | some sig => exact Steps.locate_eq _ _ _ _ _ _ _

structure Substituted (fuel : Nat) (env : Env) (f : Fragment) (resolved : ResolvedFragment)
    (loads after : Loads) (c : Constraint) (sig out : Signature) (item : Item) : Prop where
  applied : Lookup.constrain fuel env c sig loads = (.ok out, after)
  appliedLater : loads.caching = true → ∀ later, after.Extends later →
    Lookup.constrain fuel env c sig later = (.ok out, later)
  resolvedAgain : ∀ later,
    (Lookup.fragment fuel (env.addFragmentRoot out) c.space f).result? later =
      (.ok (some resolved), later)
  designates : ∀ later,
    designated fuel (env.addFragmentRoot out) c.space f later = (.ok item, later)
  appliedAgain : ∀ later, Lookup.constrain fuel env c out later = (.ok out, later)

section Substitution

variable {fuel : Nat} {env : Env} {sig : Signature} {f : Fragment} {resolved : ResolvedFragment}
  {loads after : Loads} (hf : f.resolved? = none)

include hf

theorem designated_of_fragment {ns : Namespace}
    (h : (Lookup.fragment fuel (env.addFragmentRoot sig) ns f).result? loads =
      (.ok (some resolved), after)) :
    resolved = ResolvedFragment.root.along ns f.segments ∧
      ∃ item, item.DeclaredIn ns ∧
        designated fuel (env.addFragmentRoot sig) ns f loads = (.ok item, after) := by
  rw [LookupM.result?_eq_some, fragment_eq fuel _ ns hf, map_eq_pure_bind] at h
  obtain ⟨item, middle, hitem, hresolved⟩ := LookupM.bind_eq_ok.mp h
  cases hresolved
  exact ⟨rfl, item, Steps.designated_declaredIn hitem, hitem⟩

theorem substituted_of_designated {c : Constraint} (hc : ¬ c.IsDestructive)
    (hresolved : c.fragment = .resolved (ResolvedFragment.root.along c.space f.segments))
    {item : Item}
    (h : designated fuel (env.addFragmentRoot sig) c.space f loads = (.ok item, after)) :
    ∃ out, Substituted fuel env f (ResolvedFragment.root.along c.space f.segments) loads after c sig
      out (c.revise item) := by
  have hoptions : (env.addFragmentRoot sig).options = env.options := rfl
  obtain ⟨out, hout, hreaches⟩ := Steps.constrainAt_of_designated hc _ f.segments
    (env.interchangeable_addFragmentRoot sig) hoptions h
  have hconstrain (sig : Signature) : Lookup.constrain fuel env c sig =
      (Steps.start fuel env).constrainAt c env f.segments sig := by
    simp only [Lookup.constrain, Steps.constrain, hresolved, Fragment.resolved?,
      ResolvedFragment.segments_along]
    rfl
  have happlied : Lookup.constrain fuel env c sig loads = (.ok out, after) := by
    rw [hconstrain, hout]
  have hdesignated : designated fuel (env.addFragmentRoot out) c.space f = pure (c.revise item) :=
    hreaches.designated (env.addFragmentRoot out)
  refine ⟨out, happlied, fun hcaching later hlater => ?_, fun later => ?_, fun later => ?_,
    fun later => ?_⟩
  · have hreplays := (LookupM.replaying_fuel fuel).constrain (e := env) rfl c sig
    have hgoes : ¬ LookupM.Refused (.ok out : Except Halt Signature) := by simp [LookupM.Refused]
    exact LookupM.Replays.again hreplays hcaching happlied hgoes hlater
  · rw [LookupM.result?_eq_some, fragment_eq fuel _ c.space hf, hdesignated]
    rfl
  · rw [hdesignated]
    rfl
  · rw [hconstrain, hreaches.constrainAt]
    rfl

end Substitution

/-- Resolving a fragment and applying an equation for it have the same declaration in mind. -/
theorem substituted_of_fragment (fuel : Nat) (env : Env) (sig : Signature) {f : Fragment}
    (hf : f.resolved? = none) (resolved : ResolvedFragment) (loads after : Loads) :
    ((Lookup.fragment fuel (env.addFragmentRoot sig) .type f).result? loads =
        (.ok (some resolved), after) →
      resolved.segments = f.segments ∧
        ∃ t, designated fuel (env.addFragmentRoot sig) .type f loads = (.ok (.type t), after) ∧
          ∀ equation, ∃ out, Substituted fuel env f resolved loads after
            (.typeEq (.resolved resolved) equation) sig out (.type { t with equation })) ∧
    ((Lookup.fragment fuel (env.addFragmentRoot sig) .module f).result? loads =
        (.ok (some resolved), after) →
      resolved.segments = f.segments ∧
        ∃ m, designated fuel (env.addFragmentRoot sig) .module f loads = (.ok (.module m), after) ∧
          ∀ decl, ∃ out, Substituted fuel env f resolved loads after
            (.moduleEq (.resolved resolved) decl) sig out (.module { m with decl })) := by
  constructor
  · intro h
    obtain ⟨rfl, item, hitem, hdesignated⟩ := designated_of_fragment hf h
    obtain ⟨t, rfl⟩ := hitem.eq_type
    refine ⟨ResolvedFragment.segments_along _ _ _, t, hdesignated, fun equation => ?_⟩
    exact substituted_of_designated hf (c := .typeEq _ equation) id rfl hdesignated
  · intro h
    obtain ⟨rfl, item, hitem, hdesignated⟩ := designated_of_fragment hf h
    obtain ⟨m, rfl⟩ := hitem.eq_module
    refine ⟨ResolvedFragment.segments_along _ _ _, m, hdesignated, fun decl => ?_⟩
    exact substituted_of_designated hf (c := .moduleEq _ decl) id rfl hdesignated

def envWithModuleType : Env :=
  let s := (Identifier.root "A").child .moduleType "S"
  Env.empty.addModuleType
    ⟨s, [], some (.signature (.ofItems [.type ⟨s.child .type "t", [], {}, none⟩]))⟩

def signatureWithModules : Signature :=
  let m := (Identifier.root "A").child .module "M"
  .ofItems [.module ⟨m, [], .typed (.signature (.ofItems [])), false⟩,
    .module ⟨m, [], .typed (.path (.root "S") none), false⟩]

theorem substituted_through_moduleType :
    let resolved := (ResolvedFragment.root.module "M").type "t"
    let t : TypeDecl := ⟨((Identifier.root "A").child .moduleType "S").child .type "t", [],
      { manifest := some (.constr (.ofIdentifier (.coreType "int")) []) }, none⟩
    ∃ out, Substituted 1 envWithModuleType (.dot (.dot .root "M") "t") resolved {} {}
      (.typeEq (.resolved resolved) t.equation) signatureWithModules out (.type t) := by
  intro resolved t
  have htype := (substituted_of_fragment 1 envWithModuleType signatureWithModules
    (f := .dot (.dot .root "M") "t") rfl resolved {} {}).1
  obtain ⟨-, found, hfound, hout⟩ := htype rfl
  cases hfound
  exact hout t.equation

end Lookup

end CrossRef
