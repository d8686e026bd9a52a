import CrossRef.Env

/-! What a signature binds when it is opened. Its members are bound one after the other, so that a
name stands for the last member that has it. -/

namespace CrossRef

theorem Item.namespaces_of_component {item : Item} {component : Component}
    (h : Component.ofItem? item = some component) : item.namespaces = component.namespaces := by
  cases item <;> cases h <;> rfl

theorem Item.namespaces_of_no_component {item : Item} (h : Component.ofItem? item = none) :
    item.namespaces = [] := by
  cases item <;> first | rfl | cases h

def Item.declares (item : Item) (id : Identifier) : Bool :=
  item.identifier? = some id && (Component.ofItem? item).isSome

theorem Item.declares_iff {item : Item} {id : Identifier} :
    item.declares id = true ↔
      item.identifier? = some id ∧ ∃ component, Component.ofItem? item = some component := by
  rw [Item.declares, Bool.and_eq_true, decide_eq_true_eq, Option.isSome_iff_exists]

def Signature.declaring? (sig : Signature) (id : Identifier) : Option Item :=
  sig.members.reverse.find? (·.declares id)

theorem Signature.declares_of_declaring? {sig : Signature} {id : Identifier} {item : Item}
    (h : sig.declaring? id = some item) : item.declares id = true :=
  List.find?_some (p := fun item : Item => item.declares id) h

theorem Signature.binds_of_find? {sig : Signature} {ns : Namespace} {name : String} {item : Item}
    (h : sig.find? ns name = some item) : item.binds ns name = true :=
  List.find?_some (p := fun item : Item => item.binds ns name) h

def Shown (name : String) : Prop := name.toList.head? ≠ some '\x7b'

instance (name : String) : Decidable (Shown name) := inferInstanceAs (Decidable (_ ≠ _))

theorem isHidden_of_shown {id : Identifier} (h : Shown id.name) : id.isHidden = false :=
  decide_eq_false h

theorem lookup_cons_ite {β γ : Type} [BEq β] [LawfulBEq β] [DecidableEq β] (key key' : β)
    (value : γ) (table : List (β × γ)) :
    ((key', value) :: table).lookup key = if key = key' then some value else table.lookup key := by
  by_cases hkey : key = key'
  · simp [hkey]
  · simp only [List.lookup_cons, beq_false_of_ne hkey, if_neg hkey]

namespace Scope

theorem lookup_foldl_namespaces (id : Identifier) (ns : Namespace) (name : String)
    (spaces : List Namespace) (names : List ((Namespace × String) × Identifier)) :
    (spaces.foldl (fun names space => ((space, id.name), id) :: names) names).lookup (ns, name) =
      if ns ∈ spaces ∧ id.name = name then some id else names.lookup (ns, name) := by
  induction spaces generalizing names with
  | nil => simp
  | cons space spaces ih =>
    rw [List.foldl_cons, ih, lookup_cons_ite]
    by_cases hname : id.name = name
    · by_cases hns : ns = space <;> simp [hns, hname]
    · have hkey : (ns, name) ≠ (space, id.name) := fun h => hname (congrArg Prod.snd h).symm
      simp [hname, hkey]

variable (s : Scope)

theorem lookup_names_bind (id : Identifier) (component : Component) {ns : Namespace}
    {name : String} (hshown : Shown name) :
    (s.bind id component).names.lookup (ns, name) =
      if ns ∈ component.namespaces ∧ id.name = name then some id
      else s.names.lookup (ns, name) := by
  by_cases hid : id.isHidden = true
  · have hname : id.name ≠ name := by
      rintro rfl
      rw [isHidden_of_shown hshown] at hid
      cases hid
    simp only [Scope.bind, hid, if_true, hname, and_false, if_false]
  · simp only [Scope.bind, hid]
    exact lookup_foldl_namespaces id ns name component.namespaces s.names

theorem lookup_names_bindItem (item : Item) {ns : Namespace} {name : String}
    (hshown : Shown name) :
    (s.bindItem item).names.lookup (ns, name) =
      if item.binds ns name then item.identifier? else s.names.lookup (ns, name) := by
  cases hitem : Component.ofItem? item with
  | none =>
    simp [bindItem, hitem, Item.binds, Item.namespaces_of_no_component hitem]
  | some component =>
    cases hid : item.identifier? with
    | none => simp [bindItem, hid, Item.binds]
    | some id =>
      have hspaces := Item.namespaces_of_component hitem
      simp [bindItem, hid, hitem, lookup_names_bind s id component hshown, Item.binds, hspaces]

theorem lookup_elements_bindItem (item : Item) (id : Identifier) :
    (s.bindItem item).elements.lookup id =
      if item.declares id then Component.ofItem? item else s.elements.lookup id := by
  cases hitem : Component.ofItem? item with
  | none => simp [bindItem, hitem, Item.declares]
  | some component =>
    cases hid : item.identifier? with
    | none => simp [bindItem, hid, Item.declares]
    | some other =>
      by_cases hsame : other = id
      · simp [bindItem, hid, hitem, Scope.bind, hsame, Item.declares]
      · simp [bindItem, hid, hitem, Scope.bind, lookup_cons_ite, hsame, Ne.symm hsame,
          Item.declares]

theorem lookup_names_bindMembers (sig : Signature) {ns : Namespace} {name : String}
    (hshown : Shown name) :
    (s.bindMembers sig).names.lookup (ns, name) =
      match sig.find? ns name with
      | some item => item.identifier?
      | none => s.names.lookup (ns, name) := by
  rw [bindMembers, Signature.find?, List.foldl_eq_foldr_reverse]
  -- From the end of the list the first member that binds the name decides.
  induction sig.members.reverse with
  | nil => rfl
  | cons item items ih =>
    rw [List.foldr_cons, lookup_names_bindItem _ item hshown, List.find?_cons, ih]
    cases item.binds ns name <;> rfl

theorem lookup_elements_bindMembers (sig : Signature) (id : Identifier) :
    (s.bindMembers sig).elements.lookup id =
      match sig.declaring? id with
      | some item => Component.ofItem? item
      | none => s.elements.lookup id := by
  rw [bindMembers, Signature.declaring?, List.foldl_eq_foldr_reverse]
  induction sig.members.reverse with
  | nil => rfl
  | cons item items ih =>
    rw [List.foldr_cons, lookup_elements_bindItem, List.find?_cons, ih]
    cases item.declares id <;> rfl

end Scope

theorem find?_eq_some_of_imp {α : Type} {p q : α → Bool} {l : List α} {a : α}
    (hfind : l.find? p = some a) (ha : q a = true) (himp : ∀ b ∈ l, q b = true → p b = true) :
    l.find? q = some a := by
  obtain ⟨-, before, after, rfl, hbefore⟩ := List.find?_eq_some_iff_append.mp hfind
  refine List.find?_eq_some_iff_append.mpr ⟨ha, before, after, rfl, fun b hb => ?_⟩
  have hrejected := hbefore b hb
  have haccepted := himp b (List.mem_append_left _ hb)
  cases hq : q b with
  | false => rfl
  | true =>
    rw [haccepted hq] at hrejected
    cases hrejected

namespace Env

theorem lookupById_openSignature (env : Env) (sig : Signature) (id : Identifier) :
    (env.openSignature sig).lookupById id =
      match sig.declaring? id with
      | some item => Component.ofItem? item
      | none => env.lookupById id := by
  rw [lookupById, openSignature, push, List.findSome?_cons, Scope.lookup_elements_bindMembers]
  cases hdeclaring : sig.declaring? id with
  | none => rfl
  | some item =>
    have hdeclares := Signature.declares_of_declaring? hdeclaring
    obtain ⟨-, component, hcomponent⟩ := Item.declares_iff.mp hdeclares
    simp only [hcomponent]

theorem lookupByName_openSignature_of_last (env : Env) {sig : Signature} {ns : Namespace}
    {name : String} {item : Item} {id : Identifier} {component : Component} (hshown : Shown name)
    (hfind : sig.find? ns name = some item) (hcomponent : Component.ofItem? item = some component)
    (hid : item.identifier? = some id) (hlast : sig.declaring? id = some item) :
    (env.openSignature sig).lookupByName ns name = some (id, component) := by
  have hname : (Scope.bindMembers {} sig).names.lookup (ns, name) = some id := by
    rw [Scope.lookup_names_bindMembers {} sig hshown, hfind]
    exact hid
  have helement : (env.openSignature sig).lookupById id = some component := by
    rw [lookupById_openSignature, hlast]
    exact hcomponent
  rw [lookupByName, openSignature, push, List.findSome?_cons, hname]
  show (do
    let component ← (env.openSignature sig).lookupById id
    return (id, component)) = some (id, component)
  rw [helement]
  rfl

theorem lookupByName_openSignature (env : Env) {sig : Signature} {ns : Namespace}
    {name : String} {item : Item} {id : Identifier} {component : Component} (hshown : Shown name)
    (hfind : sig.find? ns name = some item) (hcomponent : Component.ofItem? item = some component)
    (hid : item.identifier? = some id)
    (honly : ∀ other ∈ sig.members, other.identifier? = some id → other = item) :
    (env.openSignature sig).lookupByName ns name = some (id, component) := by
  have hlast : sig.declaring? id = some item := by
    refine find?_eq_some_of_imp hfind (Item.declares_iff.mpr ⟨hid, component, hcomponent⟩) ?_
    intro other hother hdeclares
    rw [honly other (List.mem_reverse.mp hother) (Item.declares_iff.mp hdeclares).1]
    exact Signature.binds_of_find? hfind
  exact env.lookupByName_openSignature_of_last hshown hfind hcomponent hid hlast

end Env

end CrossRef
