import Mathlib.Data.List.Forall2
import CrossRef.Lookup
import CrossRef.Proofs.Env.Reachable

/-! Resolved paths spell the paths they come from. Name by name, a path that is written out leads to
the declaration of that name: in scope first, then in the signature of the module so far. -/

namespace CrossRef

def Identifier.names : Identifier → List String
  | .top _ n => [n]
  | .child p _ n => p.names ++ [n]

theorem Identifier.name_suffix_names (id : Identifier) : [id.name] <:+ id.names := by
  cases id with
  | top k n => exact List.suffix_refl _
  | child p k n => exact List.suffix_append _ _

namespace ResolvedPath

def names : ResolvedPath → List String
  | identifier id => id.names
  | apply functor _ => functor.names
  | dot parent _ name => parent.names ++ [name]

def arguments : ResolvedPath → List ResolvedPath
  | identifier _ => []
  | apply functor argument => functor.arguments ++ argument :: argument.arguments
  | dot parent _ _ => parent.arguments

theorem names_child (path : ResolvedPath) (kind : IdentKind) (name : String) :
    (path.child kind name).names = path.names ++ [name] := by
  cases path <;> rfl

theorem arguments_child (path : ResolvedPath) (kind : IdentKind) (name : String) :
    (path.child kind name).arguments = path.arguments := by
  cases path <;> rfl

end ResolvedPath

namespace Path

def Written : Path → Prop
  | resolved _ => False
  | root _ => True
  | dot parent _ => parent.Written
  | apply functor argument => functor.Written ∧ argument.Written

def segments : Path → List String
  | resolved path => path.names
  | root name => [name]
  | dot parent name => parent.segments ++ [name]
  | apply functor _ => functor.segments

def arguments : Path → List Path
  | resolved _ | root _ => []
  | dot parent _ => parent.arguments
  | apply functor argument => functor.arguments ++ argument :: argument.arguments

end Path

namespace PathKind

def space : PathKind → Namespace
  | module => .module
  | moduleType => .moduleType
  | type => .type
  | classType => .classType

def memberKind (kind : PathKind) (item : Item) : IdentKind :=
  if kind = .module then .module else item.kind

end PathKind

inductive Env.Names (env : Env) : PathKind → String → Identifier → Prop
  | bound {kind : PathKind} {name : String} {id : Identifier} {component : Component} :
      env.lookupByName kind.space name = some (id, component) → id.name = name →
      id.isHidden = false → Names env kind name id
  | unit {name : String} {root : Identifier} :
      env.lookupByName .module name = none → env.lookupUnit name = .found root →
      root.name = name → Names env .module name root
  | predefined {name : String} :
      env.lookupByName .type name = none → name ∈ coreTypes →
      Names env .type name (.coreType name)

/-- `Spells fuel env kind p loads r after`: read as a path to a `kind`, `p` stands for `r`. The state
goes from `loads` to `after` because the signatures on the way may have to be loaded. -/
inductive Spells (fuel : Nat) (env : Env) :
    PathKind → Path → Loads → ResolvedPath → Loads → Prop
  | root {kind : PathKind} {name : String} {id : Identifier} {loads : Loads} :
      env.Names kind name id → Spells fuel env kind (.root name) loads (.identifier id) loads
  | dot {kind : PathKind} {parent : Path} {name : String} {loads middle after : Loads}
      {owner : ResolvedPath} {sig : Signature} {item : Item} :
      Spells fuel env .module parent loads owner middle →
      Lookup.moduleExpansion fuel env owner middle = (.ok (.signature sig), after) →
      sig.find? kind.space name = some item →
      Spells fuel env kind (.dot parent name) loads (owner.child (kind.memberKind item) name) after
  | apply {f a : Path} {loads middle later after : Loads} {functor argument : ResolvedPath}
      {param : FunctorParameter} {body : ModuleTypeExpr} :
      Spells fuel env .module f loads functor middle →
      Spells fuel env .module a middle argument later →
      Lookup.moduleExpansion fuel env functor later = (.ok (.functor param body), after) →
      Spells fuel env .module (.apply f a) loads (.apply functor argument) after

section Spelling

variable {fuel : Nat} {env : Env} {loads after : Loads}

theorem Env.Names.name_eq {kind : PathKind} {name : String} {id : Identifier}
    (h : env.Names kind name id) : id.name = name := by
  cases h with
  | bound _ hname _ => exact hname
  | unit _ _ hname => exact hname
  | predefined _ _ => rfl

theorem Spells.segments_suffix {kind : PathKind} {p : Path} {r : ResolvedPath}
    (h : Spells fuel env kind p loads r after) :
    List.Forall₂ (fun q s => q.segments <:+ s.names) (p :: p.arguments) (r :: r.arguments) := by
  induction h with
  | @root kind name id loads hid =>
    have hsuffix := id.name_suffix_names
    rw [hid.name_eq] at hsuffix
    exact .cons hsuffix .nil
  | @dot kind parent name loads middle after owner sig item _ _ _ ih =>
    obtain ⟨howner, harguments⟩ := List.forall₂_cons.mp ih
    obtain ⟨before, hbefore⟩ := howner
    have hsuffix : (parent.dot name).segments <:+ (owner.child (kind.memberKind item) name).names := by
      rw [ResolvedPath.names_child]
      refine ⟨before, ?_⟩
      rw [Path.segments, ← hbefore, List.append_assoc]
    rw [ResolvedPath.arguments_child]
    exact .cons hsuffix harguments
  | apply _ _ _ ihf iha =>
    obtain ⟨hfunctor, harguments⟩ := List.forall₂_cons.mp ihf
    exact .cons hfunctor (List.rel_append harguments iha)

def Resolver.NamesRoots (r : Resolver) : Prop :=
  ∀ name root, r.lookupUnit name = .found root → root.name = name

theorem Env.lookupUnit_name {env : Env} (h : ∀ r, env.resolver = some r → r.NamesRoots)
    {name : String} {root : Identifier} (hfound : env.lookupUnit name = .found root) :
    root.name = name := by
  unfold Env.lookupUnit at hfound
  cases hresolver : env.resolver with
  | none =>
    rw [hresolver] at hfound
    cases hfound
  | some r =>
    rw [hresolver] at hfound
    exact h r hresolver name root hfound

namespace Steps

theorem signatureOfModule_eq_ok {owner : ResolvedPath} {sig : Signature} :
    (Steps.start fuel env).signatureOfModule env owner loads = (.ok sig, after) ↔
      Lookup.moduleExpansion fuel env owner loads = (.ok (.signature sig), after) := by
  unfold Steps.signatureOfModule Lookup.moduleExpansion
  rw [LookupM.bind_eq_ok]
  constructor
  · rintro ⟨found, middle, hfollow, hsig⟩
    cases found with
    | functor param body => cases hsig
    | signature sig' =>
      cases hsig
      exact hfollow
  · intro hfollow
    exact ⟨.signature sig, after, hfollow, rfl⟩

theorem boundName_eq_ok {ns : Namespace} {name : String} {rest : LookupM ResolvedPath}
    {r : ResolvedPath}
    (h : (match env.lookupByName ns name with
      | some (id, _) => (pure (.identifier id) : LookupM ResolvedPath)
      | none => rest) loads = (.ok r, after)) :
    (∃ id component, env.lookupByName ns name = some (id, component) ∧ r = .identifier id ∧
        after = loads) ∨
      env.lookupByName ns name = none ∧ rest loads = (.ok r, after) := by
  rcases hname : env.lookupByName ns name with _ | ⟨id, component⟩ <;> rw [hname] at h
  · exact .inr ⟨rfl, h⟩
  · cases h
    exact .inl ⟨id, component, rfl, rfl, rfl⟩

theorem path_root_sound (hreach : env.Reachable)
    (hroots : ∀ r, env.resolver = some r → r.NamesRoots) {kind : PathKind} {name : String}
    {r : ResolvedPath}
    (h : (Steps.start fuel env).path env kind (.root name) loads = (.ok r, after)) :
    Spells fuel env kind (.root name) loads r after := by
  have spell {ns : Namespace} (hspace : kind.space = ns) {id : Identifier} {component : Component}
      (hfound : env.lookupByName ns name = some (id, component)) :
      Spells fuel env kind (.root name) loads (.identifier id) loads := by
    obtain ⟨hname, hvisible⟩ := hreach.name_eq hfound
    rw [← hspace] at hfound
    exact .root (.bound hfound hname hvisible)
  cases kind with
  | module =>
    rcases boundName_eq_ok h with ⟨id, component, hfound, rfl, rfl⟩ | ⟨hnone, hrest⟩
    · exact spell rfl hfound
    · cases hunit : env.lookupUnit name with
      | found root =>
        simp only [hunit] at hrest
        cases hrest
        exact .root (.unit hnone hunit (Env.lookupUnit_name hroots hunit))
      | notFound =>
        simp only [hunit] at hrest
        cases hrest
      | forwardReference =>
        simp only [hunit] at hrest
        cases hrest
  | moduleType =>
    rcases boundName_eq_ok h with ⟨id, component, hfound, rfl, rfl⟩ | ⟨-, hrest⟩
    · exact spell rfl hfound
    · cases hrest
  | type =>
    rcases boundName_eq_ok h with ⟨id, component, hfound, rfl, rfl⟩ | ⟨hnone, hrest⟩
    · exact spell rfl hfound
    · by_cases hcore : name ∈ coreTypes
      · rw [if_pos hcore] at hrest
        cases hrest
        exact .root (.predefined hnone hcore)
      · rw [if_neg hcore] at hrest
        cases hrest
  | classType =>
    rcases boundName_eq_ok h with ⟨id, component, hfound, rfl, rfl⟩ | ⟨-, hrest⟩
    · exact spell rfl hfound
    · cases hrest

theorem path_root_complete {kind : PathKind} {name : String} {id : Identifier}
    (h : env.Names kind name id) :
    (Steps.start fuel env).path env kind (.root name) loads = (.ok (.identifier id), loads) := by
  cases h with
  | bound hfound _ _ =>
    cases kind <;> simp only [PathKind.space] at hfound <;>
      simp only [path, modulePath, moduleTypePath, typePath, classTypePath, hfound] <;> rfl
  | unit hnone hunit _ =>
    simp only [path, modulePath, hnone, hunit]
    rfl
  | predefined hnone hcore =>
    simp only [path, typePath, hnone, if_pos hcore]
    rfl

theorem path_dot (s : Steps) (env : Env) (kind : PathKind) (parent : Path) (name : String) :
    s.path env kind (.dot parent name) = (do
      let owner ← s.modulePath env parent
      let sig ← s.signatureOfModule env owner
      match sig.find? kind.space name with
      | some item => pure (owner.child (kind.memberKind item) name)
      | none => LookupM.fail (.notFound kind (parent.dot name).text)) := by
  cases kind <;> rfl

theorem path_dot_eq_ok {kind : PathKind} {parent : Path} {name : String} {r : ResolvedPath} :
    (Steps.start fuel env).path env kind (.dot parent name) loads = (.ok r, after) ↔
      ∃ owner middle sig item,
        (Steps.start fuel env).modulePath env parent loads = (.ok owner, middle) ∧
        Lookup.moduleExpansion fuel env owner middle = (.ok (.signature sig), after) ∧
        sig.find? kind.space name = some item ∧
        r = owner.child (kind.memberKind item) name := by
  rw [path_dot]
  constructor
  · intro h
    obtain ⟨owner, middle, howner, h⟩ := LookupM.bind_eq_ok.mp h
    obtain ⟨sig, last, hsig, h⟩ := LookupM.bind_eq_ok.mp h
    cases hitem : sig.find? kind.space name with
    | none =>
      rw [hitem] at h
      cases h
    | some item =>
      rw [hitem] at h
      cases h
      exact ⟨owner, middle, sig, item, howner, signatureOfModule_eq_ok.mp hsig, hitem, rfl⟩
  · rintro ⟨owner, middle, sig, item, howner, hsig, hitem, rfl⟩
    refine LookupM.bind_eq_ok.mpr ⟨owner, middle, howner, ?_⟩
    refine LookupM.bind_eq_ok.mpr ⟨sig, after, signatureOfModule_eq_ok.mpr hsig, ?_⟩
    rw [hitem]
    rfl

theorem modulePath_apply_eq_ok {f a : Path} {r : ResolvedPath} :
    (Steps.start fuel env).modulePath env (.apply f a) loads = (.ok r, after) ↔
      ∃ functor middle argument later param body,
        (Steps.start fuel env).modulePath env f loads = (.ok functor, middle) ∧
        (Steps.start fuel env).modulePath env a middle = (.ok argument, later) ∧
        Lookup.moduleExpansion fuel env functor later = (.ok (.functor param body), after) ∧
        r = .apply functor argument := by
  constructor
  · intro h
    obtain ⟨functor, middle, hfunctor, h⟩ := LookupM.bind_eq_ok.mp h
    obtain ⟨argument, later, hargument, h⟩ := LookupM.bind_eq_ok.mp h
    obtain ⟨found, last, hfound, h⟩ := LookupM.bind_eq_ok.mp h
    cases found with
    | signature sig => cases h
    | functor param body =>
      cases h
      exact ⟨functor, middle, argument, later, param, body, hfunctor, hargument, hfound, rfl⟩
  · rintro ⟨functor, middle, argument, later, param, body, hfunctor, hargument, hfound, rfl⟩
    refine LookupM.bind_eq_ok.mpr ⟨functor, middle, hfunctor, ?_⟩
    refine LookupM.bind_eq_ok.mpr ⟨argument, later, hargument, ?_⟩
    exact LookupM.bind_eq_ok.mpr ⟨_, after, hfound, rfl⟩

/-- By induction on the path, since what stands before a dot or is applied is again a path to a
module. -/
theorem modulePath_sound (hreach : env.Reachable)
    (hroots : ∀ r, env.resolver = some r → r.NamesRoots) {p : Path} (hp : p.Written)
    {r : ResolvedPath} (h : (Steps.start fuel env).modulePath env p loads = (.ok r, after)) :
    Spells fuel env .module p loads r after := by
  induction p generalizing r loads after with
  | resolved path => cases hp
  | root name => exact path_root_sound hreach hroots h
  | dot parent name ih =>
    have hdot : (Steps.start fuel env).path env .module (.dot parent name) loads =
        (.ok r, after) := h
    obtain ⟨owner, middle, sig, item, howner, hsig, hitem, rfl⟩ := path_dot_eq_ok.mp hdot
    exact .dot (ih hp howner) hsig hitem
  | apply f a ihf iha =>
    obtain ⟨functor, middle, argument, later, param, body, hfunctor, hargument, hfound, rfl⟩ :=
      modulePath_apply_eq_ok.mp h
    exact .apply (ihf hp.1 hfunctor) (iha hp.2 hargument) hfound

theorem path_sound (hreach : env.Reachable)
    (hroots : ∀ r, env.resolver = some r → r.NamesRoots) {kind : PathKind} {p : Path}
    (hp : p.Written) {r : ResolvedPath}
    (h : (Steps.start fuel env).path env kind p loads = (.ok r, after)) :
    Spells fuel env kind p loads r after := by
  cases p with
  | resolved path => cases hp
  | root name => exact path_root_sound hreach hroots h
  | dot parent name =>
    obtain ⟨owner, middle, sig, item, howner, hsig, hitem, rfl⟩ := path_dot_eq_ok.mp h
    have hparent : parent.Written := hp
    exact .dot (modulePath_sound hreach hroots hparent howner) hsig hitem
  | apply f a =>
    cases kind with
    | module => exact modulePath_sound hreach hroots hp h
    | _ => cases h

theorem path_complete {kind : PathKind} {p : Path} {r : ResolvedPath}
    (h : Spells fuel env kind p loads r after) :
    (Steps.start fuel env).path env kind p loads = (.ok r, after) := by
  induction h with
  | root hid => exact path_root_complete hid
  | dot _ hsig hitem ih => exact path_dot_eq_ok.mpr ⟨_, _, _, _, ih, hsig, hitem, rfl⟩
  | apply _ _ hfound ihf iha =>
    exact modulePath_apply_eq_ok.mpr ⟨_, _, _, _, _, _, ihf, iha, hfound, rfl⟩

end Steps

/-- In an environment that was built up by its operations, a written path is resolved to what it
spells and to nothing else, and what it spells ends with the names that are written. -/
theorem path_eq_ok_iff_spells (fuel : Nat) {env : Env} (hreach : env.Reachable)
    (hroots : ∀ r, env.resolver = some r → r.NamesRoots) (kind : PathKind) {p : Path}
    (hp : p.Written) (loads : Loads) (r : ResolvedPath) (after : Loads) :
    (Lookup.path fuel env kind p loads = (.ok r, after) ↔ Spells fuel env kind p loads r after) ∧
      (Spells fuel env kind p loads r after →
        List.Forall₂ (fun q s => q.segments <:+ s.names) (p :: p.arguments)
          (r :: r.arguments)) :=
  ⟨⟨Steps.path_sound hreach hroots hp, Steps.path_complete⟩, Spells.segments_suffix⟩

end Spelling

def Env.withFunctor : Env :=
  let unit := Identifier.root "A"
  let f := unit.child .module "F"
  let result := Signature.ofItems [.type ⟨f.result.child .type "t", [], {}, none⟩]
  let param := FunctorParameter.named (f.child .parameter "Y") (.signature (.ofItems []))
  let catalog : Catalog := { missing := ["U"] }
  ((Env.create catalog.toResolver {}).addModule
      ⟨f, [], .typed (.functor param (.signature result)), false⟩).addModule
    ⟨unit.child .module "X", [], .typed (.signature (.ofItems [])), false⟩

theorem Env.withFunctor_namesRoots (r : Resolver) (h : Env.withFunctor.resolver = some r) :
    r.NamesRoots := by
  intro name root hfound
  cases h
  have hlookup : (if name ∈ ["U"] then UnitLookup.found (.root name) else .notFound) =
      .found root := by
    simpa [Catalog.toResolver, Catalog.lookupUnit, Catalog.unit?] using hfound
  split at hlookup
  · cases hlookup
    rfl
  · cases hlookup

theorem path_spells_projection :
    let unit := Identifier.root "A"
    let applied := ResolvedPath.apply (.identifier (unit.child .module "F"))
      (.identifier (unit.child .module "X"))
    Spells 0 .withFunctor .type (.dot (.apply (.root "F") (.root "X")) "t") {}
        (.dot applied .type "t") {} ∧
      Spells 0 .withFunctor .module (.root "U") {} (.identifier (.root "U")) {} := by
  intro unit applied
  have hreach : Env.withFunctor.Reachable := .addModule _ (.addModule _ (.create _ _))
  have hnames := Env.withFunctor_namesRoots
  have hprojection : (Path.dot (.apply (.root "F") (.root "X")) "t").Written := ⟨trivial, trivial⟩
  have hunit : (Path.root "U").Written := trivial
  exact ⟨(path_eq_ok_iff_spells 0 hreach hnames .type hprojection {} _ {}).1.mp rfl,
    (path_eq_ok_iff_spells 0 hreach hnames .module hunit {} _ {}).1.mp rfl⟩

end CrossRef
