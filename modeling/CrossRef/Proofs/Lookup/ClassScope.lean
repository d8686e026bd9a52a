import CrossRef.Proofs.Env.Opening
import CrossRef.Proofs.Lookup.Application

/-! The scope in which class abbreviations are read. A class type of another module may abbreviate a
name of that module. The name is looked up where the class type is used and not where it is
declared, so that the abbreviation is read as it was meant exactly if the two scopes read the name
alike. -/

namespace CrossRef

structure ClassType.Literal (c : ClassType) (sg : ClassSignature) : Prop where
  expr : c.expr = .signature sg
  stored : ∀ known, c.expansion = some known → known = sg

inductive ResolvedPath.HasMember (name : String) : (owner path : ResolvedPath) → Prop
  | dot (owner : ResolvedPath) (kind : IdentKind) : HasMember name owner (.dot owner kind name)
  | identifier (id : Identifier) (kind : IdentKind) : id.kind.isModuleLike = true →
      HasMember name (.identifier id) (.identifier (id.child kind name))

theorem Env.lookupById_of_lookupByName {env : Env} {ns : Namespace} {name : String}
    {id : Identifier} {component : Component}
    (h : env.lookupByName ns name = some (id, component)) : env.lookupById id = some component := by
  rw [lookupByName] at h
  obtain ⟨found, -, h⟩ := Option.bind_eq_some_iff.mp h
  obtain ⟨bound, hbound, h⟩ := Option.bind_eq_some_iff.mp h
  cases h
  exact hbound

namespace Steps

variable (s : Steps) {env : Env}

theorem classTypePath_of_bound {name : String} {id : Identifier} {component : Component}
    (h : env.lookupByName .classType name = some (id, component)) :
    s.classTypePath env (.root name) = pure (.identifier id) := by
  rw [classTypePath, h]

theorem classComponent_of_bound {id : Identifier} {c : ClassType}
    (h : env.lookupById id = some (.classType c)) :
    s.classComponent env (.identifier id) = pure (.classType c) := by
  simp only [classComponent, h]

theorem classAmong_of_find? {path : ResolvedPath} {name : String} {sig : Signature}
    {c : ClassType} (h : sig.find? .classType name = some (.classType c)) :
    classAmong path name sig = pure (.classType c) := by
  simp only [classAmong, h, Option.bind_some, Component.ofItem?]

end Steps

theorem classTypeSignature_of_bound (fuel budget : Nat) {env : Env} {name : String}
    {id : Identifier} {d : ClassType} {sg : ClassSignature}
    (h : env.lookupByName .classType name = some (id, .classType d)) (hd : d.Literal sg)
    (args : List TypeExpr) :
    classTypeSignature fuel (budget + 1) env (.constr (.root name) args) = pure sg := by
  have hid := Env.lookupById_of_lookupByName h
  simp only [classTypeSignature, Steps.classTypePath_of_bound _ h,
    Steps.classComponent_of_bound _ hid, pure_bind]
  cases hstored : d.expansion with
  | none => rw [hd.expr, classTypeSignature]
  | some known => rw [hd.stored known hstored]

namespace Steps

theorem signatureOfContainer_eq (expand : Nat → Env → ModuleDecl → LookupM Expansion)
    (budget : Nat) (env : Env) {id : Identifier} (h : id.kind.isModuleLike = true) :
    (Steps.within expand (budget + 1)).signatureOfContainer env id =
      (Steps.within expand budget).signatureOfModule env (.identifier id) := by
  have hfollow : (Steps.within expand budget).container env id =
      (Steps.within expand budget).follow env (.module (.identifier id)) := by
    rw [container]
    cases hkind : id.kind <;> rw [hkind] at h <;> first | rfl | cases h
  exact congrArg (· >>= Expansion.asSignature) hfollow

theorem signatureOfModule_of_le {fuel budget more : Nat} (h : budget ≤ more) {env : Env}
    {owner : ResolvedPath} {sig : Signature} {loads after : Loads}
    (hsig : (Steps.within (expandDecl fuel) budget).signatureOfModule env owner loads =
      (.ok sig, after)) :
    (Steps.within (expandDecl fuel) more).signatureOfModule env owner loads = (.ok sig, after) := by
  have steps := keeping_within (keptExpanding_expandDecl (Nat.le_refl fuel)) h
  exact steps.signatureOfModule (.refl env) owner _ _ _ hsig

theorem classComponent_of_member {fuel budget more : Nat} {env : Env} {owner path : ResolvedPath}
    {name : String} {sig : Signature} {c : ClassType} {loads middle : Loads}
    (hmore : budget < more) (hpath : owner.HasMember name path)
    (hbound : ∀ id component, path = .identifier id → env.lookupById id = some component →
      component = .classType c)
    (hsig : (Steps.within (expandDecl fuel) budget).signatureOfModule env owner loads =
      (.ok sig, middle))
    (hc : sig.find? .classType name = some (.classType c)) :
    ∃ start, (start = loads ∨ start = middle) ∧
      (Steps.within (expandDecl fuel) more).classComponent env path loads =
        (.ok (.classType c), start) := by
  cases hpath with
  | dot owner kind =>
    refine ⟨middle, .inr rfl, LookupM.bind_eq_ok.mpr ⟨sig, middle, ?_, ?_⟩⟩
    · exact signatureOfModule_of_le (Nat.le_of_lt hmore) hsig
    · rw [classAmong_of_find? hc, LookupM.pure_apply]
  | identifier id kind hkind =>
    cases hid : env.lookupById (id.child kind name) with
    | some component =>
      obtain rfl := hbound _ component rfl hid
      refine ⟨loads, .inl rfl, ?_⟩
      rw [classComponent_of_bound _ hid, LookupM.pure_apply]
    | none =>
      obtain ⟨rest, rfl⟩ := Nat.exists_eq_succ_of_ne_zero (Nat.ne_zero_of_lt hmore)
      refine ⟨middle, .inr rfl, ?_⟩
      simp only [classComponent, hid, Identifier.parent?]
      refine LookupM.bind_eq_ok.mpr ⟨sig, middle, ?_, ?_⟩
      · rw [signatureOfContainer_eq _ rest env hkind]
        exact signatureOfModule_of_le (Nat.le_of_lt_succ hmore) hsig
      · rw [Identifier.name, classAmong_of_find? hc, LookupM.pure_apply]

end Steps

theorem classTypeSignature_of_component {fuel budget : Nat} {env : Env} {path : ResolvedPath}
    {c : ClassType} {loads middle : Loads} (hopen : c.expansion = none)
    (hc : (Steps.within (expandDecl fuel) budget).classComponent env path loads =
      (.ok (.classType c), middle)) (args : List TypeExpr) :
    classTypeSignature fuel (budget + 1) env (.constr (.resolved path) args) loads =
      classTypeSignature fuel budget env c.expr middle := by
  have hpath : (Steps.within (expandDecl fuel) budget).classTypePath env (.resolved path) =
      pure path := rfl
  simp only [classTypeSignature, hpath, pure_bind, LookupM.bind_apply, hc, hopen]

theorem LookupM.result?_congr {α : Type} {x y : LookupM α} {loads start : Loads}
    (h : x loads = y start) : x.result? loads = y.result? start := by
  simp only [LookupM.result?, LookupM.bind_apply, LookupM.attempt, h]

namespace Lookup

/-- A class type of another module stands for a name. It is read as what the name stands for where
the class type is used. With the signature of that module opened, the name stands for `sg`. -/
theorem classSignatureOf_member_iff (fuel : Nat) {env : Env} {owner path : ResolvedPath}
    {name abbreviated : String} {sig : Signature} {c d user : ClassType}
    {args userArgs : List TypeExpr} {sg : ClassSignature} {budget : Nat} {loads middle : Loads}
    (hbudget : budget + 2 ≤ env.options.limit)
    (hsig : (Steps.within (expandDecl fuel) budget).signatureOfModule env owner loads =
      (.ok sig, middle))
    (hpath : owner.HasMember name path)
    (hbound : ∀ id component, path = .identifier id → env.lookupById id = some component →
      component = .classType c)
    (hc : sig.find? .classType name = some (.classType c)) (hopen : c.expansion = none)
    (hexpr : c.expr = .constr (.root abbreviated) args)
    (hd : sig.find? .classType abbreviated = some (.classType d)) (hsg : d.Literal sg)
    (huser : user.expr = .constr (.resolved path) userArgs) :
    let read := fun scope => classTypeSignature fuel (env.options.limit - 1) scope c.expr
    (∃ start, (start = loads ∨ start = middle) ∧
      classSignatureOf fuel env (.classType user) loads = (read env).result? start ∧
      ∀ after, classSignatureOf fuel env (.classType user) loads = (.ok (some sg), after) ↔
        read env start = (.ok sg, after)) ∧
    (Shown abbreviated →
      (∀ other ∈ sig.members, other.identifier? = some d.id → other = .classType d) →
      read (env.openSignature sig) = pure sg) := by
  intro read
  obtain ⟨rest, hlimit⟩ := Nat.exists_eq_add_of_le' (Nat.le_of_add_left_le hbudget)
  have hread : read = fun scope => classTypeSignature fuel (rest + 1) scope c.expr := by
    simp only [read, hlimit, Nat.add_succ_sub_one]
  constructor
  · have hmore : budget < rest + 1 := by omega
    obtain ⟨start, hstart, hfound⟩ := Steps.classComponent_of_member hmore hpath hbound hsig hc
    have hreach := classTypeSignature_of_component hopen hfound userArgs
    have hanswer : classSignatureOf fuel env (.classType user) loads =
        (read env).result? start := by
      rw [classSignatureOf, classSignature, huser, hlimit, hread]
      exact LookupM.result?_congr hreach
    refine ⟨start, hstart, hanswer, fun after => ?_⟩
    rw [hanswer, LookupM.result?_eq_some]
  · intro hshown honly
    have hname := env.lookupByName_openSignature hshown hd rfl rfl honly
    rw [hread, hexpr]
    exact classTypeSignature_of_bound fuel rest hname hsg args

def classWithMethod (parent : Identifier) (name : String) : ClassType :=
  let n := parent.child .classType "n"
  let method : Method :=
    ⟨n.child .method name, [], false, false, .constr (.ofIdentifier (.coreType "int")) []⟩
  ⟨n, [], false, [], .signature ⟨none, [.method method]⟩, none⟩

def classAbbreviation (parent : Identifier) (path : Path) : ClassType :=
  ⟨parent.child .classType "c", [], false, [], .constr path [], none⟩

def signatureWithClasses (parent : Identifier) : Signature :=
  .ofItems [.classType (classWithMethod parent "inner"),
    .classType (classAbbreviation parent (.root "n"))]

def envWithClasses : Env :=
  let m := (Identifier.root "A").child .module "M"
  Env.empty.addModule ⟨m, [], .typed (.signature (signatureWithClasses m)), false⟩

def classOutside : ClassType :=
  let unit := Identifier.root "A"
  classAbbreviation unit (.ofIdentifier ((unit.child .module "M").child .classType "c"))

theorem classSignatureOf_member_unbound :
    let m := (Identifier.root "A").child .module "M"
    let scope := envWithClasses.openSignature (signatureWithClasses m)
    classSignatureOf 0 envWithClasses (.classType classOutside) {} = (.ok none, {}) ∧
      ∃ sg, (classWithMethod m "inner").Literal sg ∧
        classTypeSignature 0 63 scope (.constr (.root "n") []) = pure sg := by
  intro m scope
  have hsig : (Steps.within (expandDecl 0) 1).signatureOfModule envWithClasses (.identifier m) {} =
      (.ok (signatureWithClasses m), {}) := rfl
  have hbound : ∀ id component,
      ResolvedPath.identifier (m.child .classType "c") = .identifier id →
        envWithClasses.lookupById id = some component →
          component = .classType (classAbbreviation m (.root "n")) := by
    rintro id component ⟨⟩ ⟨⟩
  have honly : ∀ other ∈ (signatureWithClasses m).members,
      other.identifier? = some (m.child .classType "n") →
        other = .classType (classWithMethod m "inner") := by
    simp [signatureWithClasses, Signature.ofItems, Signature.members, membersOfItems, Item.members,
      Item.identifier?, classAbbreviation]
  have hliteral : ∃ sg, (classWithMethod m "inner").Literal sg := ⟨_, rfl, by rintro _ ⟨⟩⟩
  obtain ⟨sg, hsg⟩ := hliteral
  obtain ⟨⟨start, hstart, hanswer, -⟩, hscope⟩ :=
    classSignatureOf_member_iff 0 (by decide) hsig (.identifier m .classType rfl) hbound rfl rfl rfl
      rfl hsg (show classOutside.expr = _ from rfl)
  obtain rfl : start = {} := hstart.elim id id
  refine ⟨?_, sg, hsg, hscope (by decide) honly⟩
  rw [hanswer]
  rfl

/-- Where another `n` is in scope, `A.c` gets the method of that and not the one it was meant to
have. -/
theorem classSignatureOf_member_misread :
    let m := (Identifier.root "A").child .module "M"
    let env := envWithClasses.addItem (.classType (classWithMethod (.root "A") "outer"))
    let sig := signatureWithClasses m
    ∃ inner outer, (classWithMethod m "inner").Literal inner ∧
      (classWithMethod (.root "A") "outer").Literal outer ∧ inner ≠ outer ∧
      sig.find? .classType "n" = some (.classType (classWithMethod m "inner")) ∧
      moduleExpansion 0 env (.identifier m) {} = (.ok (.signature sig), {}) ∧
      classSignatureOf 0 env (.classType classOutside) {} = (.ok (some outer), {}) := by
  intro m env sig
  refine ⟨_, _, ⟨rfl, by rintro _ ⟨⟩⟩, ⟨rfl, by rintro _ ⟨⟩⟩, ?_, rfl, rfl, rfl⟩
  simp [m]

end Lookup

end CrossRef
