import CrossRef.Env

/-! The bindings of an environment, whatever layers they stand in. Lookups see all scopes as one
table with the newest binding first. -/

namespace CrossRef

theorem findSome?_lookup {α β γ : Type} [BEq β] (table : α → List (β × γ)) (key : β)
    (layers : List α) :
    layers.findSome? (fun layer => (table layer).lookup key) =
      (layers.flatMap table).lookup key := by
  induction layers with
  | nil => rfl
  | cons layer layers ih =>
    rw [List.findSome?_cons, List.flatMap_cons, List.lookup_append, ih]
    cases (table layer).lookup key <;> rfl

theorem Item.included_or_plain (item : Item) :
    (∃ i, item = .included i) ∨ ∀ i, item ≠ .included i := by
  cases item with
  | included i => exact .inl ⟨i, rfl⟩
  | _ => exact .inr (by simp)

theorem Item.members_of_not_included {item : Item} (h : ∀ i, item ≠ .included i) :
    item.members = [item] := by
  cases item with
  | included i => exact absurd rfl (h i)
  | _ => simp only [Item.members]

namespace Scope

structure Over (filled s full : Scope) : Prop where
  names : full.names = filled.names ++ s.names
  elements : full.elements = filled.elements ++ s.elements

theorem Over.bind {filled s full : Scope} (h : filled.Over s full) (id : Identifier)
    (component : Component) : (filled.bind id component).Over s (full.bind id component) where
  names := by
    simp only [Scope.bind]
    split
    · exact h.names
    · cases component <;> simp [Component.namespaces, h.names]
  elements := by simp [Scope.bind, h.elements]

theorem Over.bindItem {filled s full : Scope} (h : filled.Over s full) (item : Item) :
    (filled.bindItem item).Over s (full.bindItem item) := by
  rw [Scope.bindItem, Scope.bindItem]
  split
  · exact h.bind _ _
  · exact h

theorem over_foldl {filled s full : Scope} (h : filled.Over s full) (items : List Item) :
    (items.foldl Scope.bindItem filled).Over s (items.foldl Scope.bindItem full) := by
  induction items generalizing filled full with
  | nil => exact h
  | cons item items ih => exact ih (h.bindItem item)

end Scope

namespace Env

def names (env : Env) : List ((Namespace × String) × Identifier) := env.scopes.flatMap (·.names)

def elements (env : Env) : List (Identifier × Component) := env.scopes.flatMap (·.elements)

theorem lookupById_eq (env : Env) (id : Identifier) :
    env.lookupById id = env.elements.lookup id :=
  findSome?_lookup Scope.elements id env.scopes

theorem lookupByName_eq (env : Env) (ns : Namespace) (name : String) :
    env.lookupByName ns name =
      (env.names.lookup (ns, name)).bind fun id => (env.elements.lookup id).map (id, ·) := by
  rw [lookupByName, findSome?_lookup Scope.names (ns, name) env.scopes]
  simp only [lookupById_eq, Option.bind_eq_bind, Option.map_eq_bind]
  rfl

/-- The same bindings in the same order. How they are divided into scopes is left open. -/
structure SameBindings (e e' : Env) : Prop where
  names : e.names = e'.names
  elements : e.elements = e'.elements

namespace SameBindings

variable {e e' e'' : Env}

theorem refl (e : Env) : e.SameBindings e := ⟨rfl, rfl⟩

theorem symm (h : e.SameBindings e') : e'.SameBindings e := ⟨h.names.symm, h.elements.symm⟩

theorem trans (h : e.SameBindings e') (h' : e'.SameBindings e'') : e.SameBindings e'' :=
  ⟨h.names.trans h'.names, h.elements.trans h'.elements⟩

theorem push (h : e.SameBindings e') (s : Scope) : (e.push s).SameBindings (e'.push s) where
  names := congrArg (s.names ++ ·) h.names
  elements := congrArg (s.elements ++ ·) h.elements

theorem lookupById (h : e.SameBindings e') (id : Identifier) :
    e.lookupById id = e'.lookupById id := by
  rw [lookupById_eq, lookupById_eq, h.elements]

theorem lookupByName (h : e.SameBindings e') (ns : Namespace) (name : String) :
    e.lookupByName ns name = e'.lookupByName ns name := by
  rw [lookupByName_eq, lookupByName_eq, h.names, h.elements]

end SameBindings

theorem sameBindings_push {filled s full : Scope} (h : filled.Over s full) (env : Env) :
    (env.push full).SameBindings ((env.push s).push filled) where
  names := by
    show full.names ++ env.names = filled.names ++ (s.names ++ env.names)
    rw [h.names, List.append_assoc]
  elements := by
    show full.elements ++ env.elements = filled.elements ++ (s.elements ++ env.elements)
    rw [h.elements, List.append_assoc]

def openItems (env : Env) (items : List Item) : Env := env.openSignature (.ofItems items)

theorem openSignature_eq (env : Env) (sig : Signature) :
    env.openSignature sig = env.openItems sig.items := by
  obtain ⟨items, compiled, doc⟩ := sig
  rfl

theorem sameBindings_openItems_nil (env : Env) : (env.openItems []).SameBindings env := ⟨rfl, rfl⟩

theorem openItems_cons (env : Env) (item : Item) (items : List Item) :
    (env.openItems (item :: items)).SameBindings ((env.openItems [item]).openItems items) := by
  have hfirst : (Signature.ofItems [item]).members = item.members := by
    simp only [Signature.ofItems, Signature.members, membersOfItems, List.append_nil]
  have hall : (Signature.ofItems (item :: items)).members =
      item.members ++ (Signature.ofItems items).members := by
    simp only [Signature.ofItems, Signature.members, membersOfItems]
  simp only [openItems, openSignature, Scope.bindMembers, hfirst, hall, List.foldl_append]
  -- The other members go on filling the scope of the first item where now they have one of their own.
  exact sameBindings_push (Scope.over_foldl ⟨rfl, rfl⟩ _) env

theorem openItems_single (env : Env) {item : Item} (h : item.members = [item]) :
    (env.openItems [item]).SameBindings (env.addItem item) := by
  have hmembers : (Signature.ofItems [item]).members = [item] := by
    simp only [Signature.ofItems, Signature.members, membersOfItems, List.append_nil, h]
  simp only [openItems, openSignature, Scope.bindMembers, hmembers, List.foldl_cons,
    List.foldl_nil, Scope.bindItem, addItem]
  split
  · exact .refl _
  · exact sameBindings_openItems_nil env

theorem openItems_included (env : Env) (i : Include) :
    env.openItems [.included i] = env.openSignature i.content := by
  obtain ⟨parent, doc, decl, strengthened, shadowed, content⟩ := i
  simp only [openItems, openSignature, Scope.bindMembers, Signature.ofItems, Signature.members,
    membersOfItems, Item.members, Include.members, List.append_nil]

end Env

end CrossRef
