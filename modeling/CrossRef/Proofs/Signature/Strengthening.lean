import CrossRef.Proofs.Path.Chain
import CrossRef.Proofs.Signature.Ownership
import CrossRef.Signature.Member

/-! What strengthening changes. It reaches the types of a signature through the content of includes
and through visible modules with a written signature, and gives those that are abstract a manifest.
Nothing is abstract for a second strengthening, and nothing else is touched by the first. -/

namespace CrossRef

def Item.isClosed : Item → Bool
  | .type _ | .included _ => false
  | .module ⟨id, _, .typed (.signature _), _⟩ => id.isHidden
  | _ => true

mutual

def Signature.reachedTypes : Signature → List (List Accessor × TypeDecl)
  | ⟨items, _, _⟩ => reachedTypesOfItems items

def reachedTypesOfItems : List Item → List (List Accessor × TypeDecl)
  | [] => []
  | item :: items => item.reachedTypes ++ reachedTypesOfItems items

def Item.reachedTypes : Item → List (List Accessor × TypeDecl)
  | .type t => [([], t)]
  | .module ⟨id, _, .typed (.signature sig), _⟩ =>
    if id.isHidden then []
    else sig.reachedTypes.map fun (chain, t) => ((.module, id.name) :: chain, t)
  | .included ⟨_, _, _, _, _, content⟩ => content.reachedTypes
  | _ => []

end

mutual

def Signature.mapReached (f : List Accessor → TypeDecl → TypeDecl) : Signature → Signature
  | ⟨items, compiled, doc⟩ => ⟨mapReachedItems f items, compiled, doc⟩

def mapReachedItems (f : List Accessor → TypeDecl → TypeDecl) : List Item → List Item
  | [] => []
  | item :: items => item.mapReached f :: mapReachedItems f items

def Item.mapReached (f : List Accessor → TypeDecl → TypeDecl) : Item → Item
  | .type t => .type (f [] t)
  | .module ⟨id, doc, .typed (.signature sig), hidden⟩ =>
    if id.isHidden then .module ⟨id, doc, .typed (.signature sig), hidden⟩
    else
      let inner := sig.mapReached fun chain => f ((.module, id.name) :: chain)
      .module ⟨id, doc, .typed (.signature inner), hidden⟩
  | .included ⟨parent, doc, decl, strengthened, shadowed, content⟩ =>
    .included ⟨parent, doc, decl, strengthened, shadowed, content.mapReached f⟩
  | item => item

end

theorem membersOfItems_eq (items : List Item) :
    membersOfItems items = items.flatMap (·.members) := by
  induction items with
  | nil => rw [membersOfItems, List.flatMap_nil]
  | cons item items ih => rw [membersOfItems, List.flatMap_cons, ih]

theorem reachedTypesOfItems_eq (items : List Item) :
    reachedTypesOfItems items = items.flatMap (·.reachedTypes) := by
  induction items with
  | nil => rw [reachedTypesOfItems, List.flatMap_nil]
  | cons item items ih => rw [reachedTypesOfItems, List.flatMap_cons, ih]

theorem mapReachedItems_eq (f : List Accessor → TypeDecl → TypeDecl) (items : List Item) :
    mapReachedItems f items = items.map (·.mapReached f) := by
  induction items with
  | nil => rw [mapReachedItems, List.map_nil]
  | cons item items ih => rw [mapReachedItems, List.map_cons, ih]

section Closed

variable {item : Item} (h : item.isClosed = true)

include h

theorem Item.reachedTypes_of_isClosed : item.reachedTypes = [] := by
  unfold Item.reachedTypes
  split
  · cases h
  · exact if_pos h
  · cases h
  · rfl

theorem Item.mapReached_of_isClosed (f : List Accessor → TypeDecl → TypeDecl) :
    item.mapReached f = item := by
  unfold Item.mapReached
  split
  · cases h
  · exact if_pos h
  · cases h
  · rfl

theorem Item.strengthen_of_isClosed (path : ResolvedPath) : item.strengthen path = item := by
  unfold Item.strengthen
  split
  · cases h
  · exact if_pos h
  · cases h
  · rfl

end Closed

structure ReachClosed (P : Signature → Prop) (Q : Item → Prop) : Prop where
  signature : ∀ items compiled doc, (∀ item ∈ items, Q item) → P ⟨items, compiled, doc⟩
  type : ∀ t, Q (.type t)
  module : ∀ id doc sig hidden, id.isHidden = false → P sig →
    Q (.module ⟨id, doc, .typed (.signature sig), hidden⟩)
  included : ∀ parent doc decl strengthened shadowed content, P content →
    Q (.included ⟨parent, doc, decl, strengthened, shadowed, content⟩)
  closed : ∀ item : Item, item.isClosed = true → Q item

namespace ReachClosed

variable {P : Signature → Prop} {Q : Item → Prop}

mutual

theorem all_signatures (h : ReachClosed P Q) : ∀ sig : Signature, P sig
  | ⟨items, compiled, doc⟩ => h.signature items compiled doc (h.all_members items)

theorem all_members (h : ReachClosed P Q) : ∀ items : List Item, ∀ item ∈ items, Q item
  | [] => fun _ hmem => absurd hmem List.not_mem_nil
  | item :: items => List.forall_mem_cons.mpr ⟨h.all_items item, h.all_members items⟩

theorem all_items (h : ReachClosed P Q) : ∀ item : Item, Q item
  | .type t => h.type t
  | .module ⟨id, doc, .typed (.signature sig), hidden⟩ => by
    cases hid : id.isHidden with
    | true => exact h.closed _ hid
    | false => exact h.module id doc sig hidden hid (h.all_signatures sig)
  | .included ⟨parent, doc, decl, strengthened, shadowed, content⟩ =>
    h.included parent doc decl strengthened shadowed content (h.all_signatures content)
  | .module ⟨_, _, .typed (.path _ _), _⟩ | .module ⟨_, _, .typed (.functor _ _), _⟩
  | .module ⟨_, _, .typed (.constrained _ _ _), _⟩ | .module ⟨_, _, .typed (.typeOf _ _), _⟩
  | .module ⟨_, _, .aliasOf _ _, _⟩ | .moduleType _ | .opened _ _ | .moduleSubstitution _
  | .typeSubstitution _ | .value _ | .external _ | .classDecl _ | .classType _ | .extension _
  | .exception _ | .comment _ => h.closed _ rfl

end

end ReachClosed

section Laws

variable (f g : List Accessor → TypeDecl → TypeDecl)

theorem Signature.mapReached_mapReached (sig : Signature) :
    (sig.mapReached f).mapReached g = sig.mapReached fun chain t => g chain (f chain t) := by
  have h : ReachClosed
      (fun sig => ∀ f g, (sig.mapReached f).mapReached g =
        sig.mapReached fun chain t => g chain (f chain t))
      (fun item => ∀ f g, (item.mapReached f).mapReached g =
        item.mapReached fun chain t => g chain (f chain t)) := by
    constructor
    case signature =>
      intro items compiled doc ih f g
      simp only [mapReached, mapReachedItems_eq, List.map_map]
      congr 1
      exact List.map_congr_left fun item hitem => ih item hitem f g
    case type =>
      intro t f g
      simp only [Item.mapReached]
    case module =>
      intro id doc sig hidden hid ih f g
      simp only [Item.mapReached, hid, Bool.false_eq_true, if_false, ih]
    case included =>
      intro parent doc decl strengthened shadowed content ih f g
      simp only [Item.mapReached, ih]
    case closed =>
      intro item hclosed f g
      simp only [Item.mapReached_of_isClosed hclosed]
  exact h.all_signatures sig f g

theorem Signature.reachedTypes_mapReached (sig : Signature) :
    (sig.mapReached f).reachedTypes =
      sig.reachedTypes.map fun (chain, t) => (chain, f chain t) := by
  have h : ReachClosed
      (fun sig => ∀ f, (sig.mapReached f).reachedTypes =
        sig.reachedTypes.map fun (chain, t) => (chain, f chain t))
      (fun item => ∀ f, (item.mapReached f).reachedTypes =
        item.reachedTypes.map fun (chain, t) => (chain, f chain t)) := by
    constructor
    case signature =>
      intro items compiled doc ih f
      simp only [mapReached, reachedTypes, mapReachedItems_eq, reachedTypesOfItems_eq,
        List.flatMap_map, List.map_flatMap]
      exact List.flatMap_congr fun item hitem => ih item hitem f
    case type =>
      intro t f
      simp only [Item.mapReached, Item.reachedTypes, List.map_cons, List.map_nil]
    case module =>
      intro id doc sig hidden hid ih f
      simp only [Item.mapReached, Item.reachedTypes, hid, Bool.false_eq_true, if_false, ih,
        List.map_map]
      rfl
    case included =>
      intro parent doc decl strengthened shadowed content ih f
      simp only [Item.mapReached, Item.reachedTypes, ih]
    case closed =>
      intro item hclosed f
      rw [Item.mapReached_of_isClosed hclosed, Item.reachedTypes_of_isClosed hclosed, List.map_nil]
  exact h.all_signatures sig f

theorem Signature.members_mapReached (sig : Signature) :
    (sig.mapReached f).members = sig.members.map (·.mapReached f) := by
  have h : ReachClosed
      (fun sig => ∀ f, (sig.mapReached f).members = sig.members.map (·.mapReached f))
      (fun item => ∀ f, (item.mapReached f).members = item.members.map (·.mapReached f)) := by
    constructor
    case signature =>
      intro items compiled doc ih f
      simp only [mapReached, members, mapReachedItems_eq, membersOfItems_eq, List.flatMap_map,
        List.map_flatMap]
      exact List.flatMap_congr fun item hitem => ih item hitem f
    case type =>
      intro t f
      simp only [Item.mapReached, Item.members, List.map_cons, List.map_nil]
    case module =>
      intro id doc sig hidden hid ih f
      simp only [Item.mapReached, Item.members, hid, Bool.false_eq_true, if_false, List.map_cons,
        List.map_nil]
    case included =>
      intro parent doc decl strengthened shadowed content ih f
      simp only [Item.mapReached, Item.members, Include.members, ih]
    case closed =>
      intro item hclosed f
      have hplain : item.members = [item] := by
        apply Item.members_of_not_included
        rintro i rfl
        cases hclosed
      rw [Item.mapReached_of_isClosed hclosed, hplain, List.map_singleton,
        Item.mapReached_of_isClosed hclosed]
  exact h.all_signatures sig f

variable {f} (hf : ∀ chain t, (f chain t).id = t.id)

include hf

theorem Item.identifier?_mapReached (item : Item) :
    (item.mapReached f).identifier? = item.identifier? := by
  unfold Item.mapReached
  split
  · exact congrArg some (hf [] _)
  · split <;> rfl
  · rfl
  · rfl

theorem Item.binds_mapReached (ns : Namespace) (name : String) (item : Item) :
    (item.mapReached f).binds ns name = item.binds ns name := by
  have hspaces : (item.mapReached f).namespaces = item.namespaces := by
    unfold Item.mapReached
    split
    · rfl
    · split <;> rfl
    · rfl
    · rfl
  rw [Item.binds, Item.binds, hspaces, Item.identifier?_mapReached hf]

theorem Signature.find?_mapReached (sig : Signature) (ns : Namespace) (name : String) :
    (sig.mapReached f).find? ns name = (sig.find? ns name).map (·.mapReached f) := by
  rw [find?, find?, members_mapReached, ← List.map_reverse, List.find?_map]
  congr 2
  funext item
  exact Item.binds_mapReached hf ns name item

end Laws

/-- The type as it is known to be that of its name in the module that the chain leads to from
`root`: where it is abstract, and its name not in braces, it is equal to that type. -/
def TypeDecl.ofMember (root : ResolvedPath) (chain : List Accessor) (t : TypeDecl) : TypeDecl :=
  match t.equation.manifest, t.id.isHidden with
  | none, false =>
    let target := root.extend (chain ++ [(.type, t.id.name)])
    let args := t.equation.params.map fun p => if p = "_" then .any else .var p
    { t with equation := { t.equation with manifest := some (.constr (.resolved target) args) } }
  | _, _ => t

theorem TypeDecl.strengthen_extend (root : ResolvedPath) (chain : List Accessor) (t : TypeDecl) :
    t.strengthen (root.extend chain) = t.ofMember root chain := by
  unfold TypeDecl.strengthen TypeDecl.ofMember TypeDecl.selfReference
  rw [ResolvedPath.extend_concat]
  cases t.equation.manifest <;> cases t.id.isHidden <;> rfl

theorem TypeDecl.ofMember_id (root : ResolvedPath) (chain : List Accessor) (t : TypeDecl) :
    (t.ofMember root chain).id = t.id := by
  unfold TypeDecl.ofMember
  split <;> rfl

theorem TypeDecl.ofMember_ofMember (root root' : ResolvedPath) (chain : List Accessor)
    (t : TypeDecl) : (t.ofMember root chain).ofMember root' chain = t.ofMember root chain := by
  obtain ⟨id, doc, ⟨params, isPrivate, manifest, constraints⟩, representation⟩ := t
  cases hhidden : id.isHidden with
  | true => cases manifest <;> simp only [TypeDecl.ofMember, hhidden]
  | false => cases manifest <;> simp only [TypeDecl.ofMember, hhidden]

theorem Signature.strengthen_eq_mapReached (path : ResolvedPath) (sig : Signature) :
    sig.strengthen path = sig.mapReached fun chain t => t.ofMember path chain := by
  have h : ReachClosed
      (fun sig => ∀ path, sig.strengthen path =
        sig.mapReached fun chain t => t.ofMember path chain)
      (fun item => ∀ path, item.strengthen path =
        item.mapReached fun chain t => t.ofMember path chain) := by
    constructor
    case signature =>
      intro items compiled doc ih path
      simp only [strengthen, mapReached, strengthenItems_eq_map, mapReachedItems_eq]
      congr 1
      exact List.map_congr_left fun item hitem => ih item hitem path
    case type =>
      intro t path
      simp only [Item.strengthen, Item.mapReached]
      exact congrArg Item.type (t.strengthen_extend path [])
    case module =>
      intro id doc sig hidden hid ih path
      simp only [Item.strengthen, Item.mapReached, hid, Bool.false_eq_true, if_false, ih]
      rfl
    case included =>
      intro parent doc decl strengthened shadowed content ih path
      simp only [Item.strengthen, Item.mapReached, ih]
    case closed =>
      intro item hclosed path
      rw [Item.strengthen_of_isClosed hclosed, Item.mapReached_of_isClosed hclosed]
  exact h.all_signatures sig path

def Signature.withoutManifests (sig : Signature) : Signature :=
  sig.mapReached fun _ t => { t with equation := { t.equation with manifest := none } }

/-- Strengthening a second time changes nothing. The first time everything but the manifests of the
types that are reached stays as it is, and of these types the visible ones without a manifest become
equal to the types of their names in the module. So each name finds the same declaration as
before. -/
theorem Signature.strengthen_gives_manifests (path path' : ResolvedPath) (sig : Signature) :
    (sig.strengthen path).strengthen path' = sig.strengthen path ∧
      (sig.strengthen path).withoutManifests = sig.withoutManifests ∧
      (sig.strengthen path).reachedTypes =
        sig.reachedTypes.map (fun (chain, t) => (chain, t.ofMember path chain)) ∧
      ∀ ns name, ((sig.strengthen path).find? ns name).map Item.identifier? =
        (sig.find? ns name).map Item.identifier? := by
  simp only [strengthen_eq_mapReached, withoutManifests]
  refine ⟨?_, ?_, reachedTypes_mapReached _ sig, fun ns name => ?_⟩
  · rw [mapReached_mapReached]
    congr 1
    funext chain t
    exact t.ofMember_ofMember path path' chain
  · rw [mapReached_mapReached]
    congr 1
    funext chain t
    unfold TypeDecl.ofMember
    split <;> rfl
  · have hids := TypeDecl.ofMember_id path
    rw [find?_mapReached hids, Option.map_map]
    congr 1
    funext item
    exact Item.identifier?_mapReached hids item

end CrossRef
