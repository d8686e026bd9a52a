import CrossRef.Proofs.Env.Opening
import CrossRef.Proofs.Env.Reachable

/-! Identifiers whose kind is that of what they are bound to. A declaration then cannot take the
place of another one with the same identifier in some spaces and not in the others, so a name is
found in an opened signature exactly as the signature itself is searched for it. -/

namespace CrossRef

def Component.kind : Component → IdentKind
  | module _ => .module
  | moduleType _ => .moduleType
  | parameter _ => .parameter
  | unit _ => .root
  | type _ => .type
  | value _ | external _ => .value
  | classDecl _ => .classDecl
  | classType _ => .classType

theorem Component.namespaces_of_kind {c c' : Component} (h : c.kind = c'.kind) :
    c.namespaces = c'.namespaces := by
  cases c <;> cases c' <;> first | rfl | cases h

def Signature.WellKinded (sig : Signature) : Prop :=
  ∀ item ∈ sig.members, ∀ id component,
    item.identifier? = some id → Component.ofItem? item = some component → id.kind = component.kind

def Env.WellKinded (env : Env) : Prop :=
  ∀ id component, (id, component) ∈ env.elements → id.kind = component.kind

theorem Item.binds_iff {item : Item} {ns : Namespace} {name : String} :
    item.binds ns name = true ↔
      ∃ id component, item.identifier? = some id ∧ Component.ofItem? item = some component ∧
        ns ∈ component.namespaces ∧ id.name = name := by
  rw [Item.binds, Bool.and_eq_true, decide_eq_true_eq, Option.any_eq_true]
  constructor
  · rintro ⟨hns, id, hid, hname⟩
    cases hitem : Component.ofItem? item with
    | none =>
      rw [Item.namespaces_of_no_component hitem] at hns
      exact absurd hns List.not_mem_nil
    | some component =>
      rw [Item.namespaces_of_component hitem] at hns
      exact ⟨id, component, hid, rfl, hns, of_decide_eq_true hname⟩
  · rintro ⟨id, component, hid, hitem, hns, hname⟩
    rw [Item.namespaces_of_component hitem]
    exact ⟨hns, id, hid, decide_eq_true hname⟩

theorem Signature.WellKinded.binds {sig : Signature} (h : sig.WellKinded) {item : Item}
    {id : Identifier} {component : Component} {ns : Namespace} (hitem : item ∈ sig.members)
    (hdeclares : item.declares id = true) (hkind : id.kind = component.kind)
    (hns : ns ∈ component.namespaces) : item.binds ns id.name = true := by
  obtain ⟨hid, found, hfound⟩ := Item.declares_iff.mp hdeclares
  have hsame : component.kind = found.kind := hkind.symm.trans (h item hitem id found hid hfound)
  rw [Component.namespaces_of_kind hsame] at hns
  exact Item.binds_iff.mpr ⟨id, found, hid, hfound, hns, rfl⟩

namespace Env

variable {env : Env} {sig : Signature} {ns : Namespace} {name : String}

theorem lookupByName_openSignature_found (hsig : sig.WellKinded) (hshown : Shown name) {item : Item}
    (hfind : sig.find? ns name = some item) :
    ∃ id component, item.identifier? = some id ∧ Component.ofItem? item = some component ∧
      (env.openSignature sig).lookupByName ns name = some (id, component) := by
  have hbinds := Signature.binds_of_find? hfind
  have hitem : item ∈ sig.members := List.mem_reverse.mp (List.mem_of_find?_eq_some hfind)
  obtain ⟨id, component, hid, hcomponent, hns, rfl⟩ := Item.binds_iff.mp hbinds
  have hkind := hsig item hitem id component hid hcomponent
  -- A later member with this identifier would have been found under the name instead.
  have hlast : sig.declaring? id = some item := by
    refine find?_eq_some_of_imp hfind (Item.declares_iff.mpr ⟨hid, component, hcomponent⟩) ?_
    intro other hother hdeclares
    exact hsig.binds (List.mem_reverse.mp hother) hdeclares hkind hns
  exact ⟨id, component, hid, hcomponent,
    env.lookupByName_openSignature_of_last hshown hfind hcomponent hid hlast⟩

theorem lookupByName_openSignature_missing (hreach : env.Reachable) (henv : env.WellKinded)
    (hsig : sig.WellKinded) (hshown : Shown name) (hfind : sig.find? ns name = none) :
    (env.openSignature sig).lookupByName ns name = env.lookupByName ns name := by
  have hnames : (env.openSignature sig).names.lookup (ns, name) = env.names.lookup (ns, name) := by
    show ((Scope.bindMembers {} sig).names ++ env.names).lookup (ns, name) = _
    rw [List.lookup_append, Scope.lookup_names_bindMembers {} sig hshown, hfind]
    rfl
  rw [lookupByName_eq, lookupByName_eq, hnames]
  cases hid : env.names.lookup (ns, name) with
  | none => rfl
  | some id =>
    obtain ⟨component, hcomponent, hns⟩ := hreach.declared hid
    obtain ⟨s, hs, hmem⟩ := mem_names_of_lookup hid
    obtain ⟨rfl, -⟩ := hreach.namesMatch s hs ns name id hmem
    -- Were the identifier bound again by a member, that member would have the name as well.
    have hnone : sig.declaring? id = none := by
      refine List.find?_eq_none.mpr fun item hitem hdeclares => ?_
      have hbinds := hsig.binds (List.mem_reverse.mp hitem) hdeclares
        (henv id component hcomponent) hns
      exact List.find?_eq_none.mp hfind item hitem hbinds
    rw [Option.bind_some, Option.bind_some, ← lookupById_eq, ← lookupById_eq,
      lookupById_openSignature, hnone]

theorem Reachable.lookupByName_hidden (hreach : env.Reachable) (hhidden : ¬ Shown name) :
    env.lookupByName ns name = none := by
  cases hfound : env.lookupByName ns name with
  | none => rfl
  | some found =>
    obtain ⟨rfl, hshown⟩ := hreach.name_eq hfound
    exact absurd (of_decide_eq_false hshown) hhidden

theorem lookupById_openSignature_member (env : Env) {item : Item} (hitem : item ∈ sig.members)
    {component : Component} (hcomponent : Component.ofItem? item = some component) :
    ∃ id last found, item.identifier? = some id ∧ sig.declaring? id = some last ∧
      Component.ofItem? last = some found ∧
      (env.openSignature sig).lookupById id = some found := by
  obtain ⟨id, hid⟩ : ∃ id, item.identifier? = some id := by
    cases item <;> first | exact ⟨_, rfl⟩ | cases hcomponent
  have hdeclares := Item.declares_iff.mpr ⟨hid, component, hcomponent⟩
  cases hlast : sig.declaring? id with
  | none => exact absurd hdeclares (List.find?_eq_none.mp hlast item (List.mem_reverse.mpr hitem))
  | some last =>
    obtain ⟨-, found, hfound⟩ := Item.declares_iff.mp (Signature.declares_of_declaring? hlast)
    refine ⟨id, last, found, hid, hlast, hfound, ?_⟩
    rw [lookupById_openSignature, hlast]
    exact hfound

/-- Looking a name up in an opened signature is searching the signature for it, and then the
environment that it was opened in. Names in braces are not found, but their declarations are. -/
theorem lookup_after_openSignature (hreach : env.Reachable) (henv : env.WellKinded)
    (hsig : sig.WellKinded) (ns : Namespace) (name : String) :
    (Shown name →
      (∀ item, sig.find? ns name = some item →
        ∃ id component, item.identifier? = some id ∧ Component.ofItem? item = some component ∧
          (env.openSignature sig).lookupByName ns name = some (id, component)) ∧
      (sig.find? ns name = none →
        (env.openSignature sig).lookupByName ns name = env.lookupByName ns name)) ∧
    (¬ Shown name →
      env.lookupByName ns name = none ∧ (env.openSignature sig).lookupByName ns name = none) ∧
    ∀ item ∈ sig.members, ∀ component, Component.ofItem? item = some component →
      ∃ id last found, item.identifier? = some id ∧ sig.declaring? id = some last ∧
        Component.ofItem? last = some found ∧
        (env.openSignature sig).lookupById id = some found := by
  refine ⟨fun hshown => ⟨fun item hfind => ?_, fun hfind => ?_⟩, fun hhidden => ⟨?_, ?_⟩, ?_⟩
  · exact lookupByName_openSignature_found hsig hshown hfind
  · exact lookupByName_openSignature_missing hreach henv hsig hshown hfind
  · exact hreach.lookupByName_hidden hhidden
  · exact (Reachable.openSignature sig hreach).lookupByName_hidden hhidden
  · intro item hitem component hcomponent
    exact env.lookupById_openSignature_member hitem hcomponent

end Env

def TypeDecl.abstractIn (parent : Identifier) (name : String) : TypeDecl :=
  ⟨parent.child .type name, [], {}, none⟩

def Signature.hidingType : Signature :=
  let s := (Identifier.root "A").child .moduleType "S"
  let content := Signature.ofItems [.type (.abstractIn s "\x7bt\x7d")]
  .ofItems [.included ⟨s, [], .aliasOf (.root "C"), none, { types := ["t"] }, content⟩,
    .type (.abstractIn s "t")]

theorem Env.lookup_after_openSignature_hidingType :
    let a := Identifier.root "A"
    let s := a.child .moduleType "S"
    let env := (Env.empty.addItem (.type (.abstractIn a "t"))).addItem (.type (.abstractIn a "u"))
    let opened := env.openSignature .hidingType
    opened.lookupByName .type "t" = some (s.child .type "t", .type (.abstractIn s "t")) ∧
      opened.lookupByName .type "u" = env.lookupByName .type "u" ∧
      opened.lookupByName .type "\x7bt\x7d" = none ∧
      (opened.lookupById (s.child .type "\x7bt\x7d")).isSome := by
  intro a s env opened
  have hreach : env.Reachable := .addItem _ (.addItem _ .empty)
  have henv : env.WellKinded := by
    intro id component hmem
    have helements : env.elements = [(a.child .type "u", .type (.abstractIn a "u")),
        (a.child .type "t", .type (.abstractIn a "t"))] := rfl
    rw [helements, List.mem_cons, List.mem_singleton] at hmem
    rcases hmem with hmem | hmem <;> cases hmem <;> rfl
  have hsig : Signature.hidingType.WellKinded := by
    intro item hitem id component hid hcomponent
    have hmembers : Signature.hidingType.members =
        [.type (.abstractIn s "\x7bt\x7d"), .type (.abstractIn s "t")] := rfl
    rw [hmembers, List.mem_cons, List.mem_singleton] at hitem
    rcases hitem with rfl | rfl <;> cases hid <;> cases hcomponent <;> rfl
  have looked (name : String) := Env.lookup_after_openSignature hreach henv hsig .type name
  refine ⟨?_, ?_, ?_, ?_⟩
  · obtain ⟨id, component, hid, hcomponent, hfound⟩ := ((looked "t").1 (by decide)).1 _ rfl
    cases hid
    cases hcomponent
    exact hfound
  · exact ((looked "u").1 (by decide)).2 rfl
  · exact ((looked "\x7bt\x7d").2.1 (by decide)).2
  · have hitem : Item.type (.abstractIn s "\x7bt\x7d") ∈ Signature.hidingType.members :=
      List.mem_cons_self
    obtain ⟨id, last, found, hid, -, -, hfound⟩ := (looked "t").2.2 _ hitem _ rfl
    cases hid
    exact Option.isSome_of_eq_some hfound

end CrossRef
