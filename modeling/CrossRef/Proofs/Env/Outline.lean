import CrossRef.Env

/-! What lookups see of an environment. They never look into a type, a value or an external, so
environments that differ only there give the same answers. -/

namespace CrossRef

namespace Component

def opened? : Component → Option Component
  | type _ | value _ | external _ => none
  | component => some component

def unit? : Component → Option CompilationUnit
  | unit u => some u
  | _ => none

end Component

/-- A scope with the declarations left out that lookups do not look into. -/
structure ScopeOutline where
  names : List ((Namespace × String) × Identifier)
  elements : List (Identifier × Option Component)
  fragmentRoot : Option Signature

def Scope.outline (s : Scope) : ScopeOutline where
  names := s.names
  elements := s.elements.map fun (id, component) => (id, component.opened?)
  fragmentRoot := s.fragmentRoot

theorem lookup_map_snd {α β γ : Type} [BEq α] (f : β → γ) (key : α) (entries : List (α × β)) :
    (entries.map fun (k, b) => (k, f b)).lookup key = (entries.lookup key).map f := by
  induction entries with
  | nil => rfl
  | cons entry entries ih =>
    obtain ⟨k, b⟩ := entry
    simp only [List.map_cons, List.lookup_cons]
    cases key == k with
    | true => rfl
    | false => exact ih

namespace Env

structure Alike (e e' : Env) : Prop where
  resolver : e.resolver = e'.resolver
  scopes : e.scopes.map Scope.outline = e'.scopes.map Scope.outline

theorem Alike.refl (e : Env) : e.Alike e := ⟨rfl, rfl⟩

theorem Alike.push {e e' : Env} (h : e.Alike e') {s s' : Scope} (hs : s.outline = s'.outline) :
    (e.push s).Alike (e'.push s') := by
  refine ⟨h.resolver, ?_⟩
  show s.outline :: e.scopes.map _ = s'.outline :: e'.scopes.map _
  rw [hs, h.scopes]

theorem map_lookupById (e : Env) (id : Identifier) :
    (e.lookupById id).map Component.opened? =
      (e.scopes.map Scope.outline).findSome? (·.elements.lookup id) := by
  rw [lookupById, List.map_findSome?, List.findSome?_map]
  congr 1
  funext s
  exact (lookup_map_snd Component.opened? id s.elements).symm

theorem Alike.lookupById {e e' : Env} (h : e.Alike e') (id : Identifier) :
    (e.lookupById id).map Component.opened? = (e'.lookupById id).map Component.opened? := by
  rw [map_lookupById, map_lookupById, h.scopes]

theorem Alike.nameTable {e e' : Env} (h : e.Alike e') (ns : Namespace) (name : String) :
    e.scopes.findSome? (·.names.lookup (ns, name)) =
      e'.scopes.findSome? (·.names.lookup (ns, name)) := by
  have outlined (scopes : List Scope) : scopes.findSome? (·.names.lookup (ns, name)) =
      (scopes.map Scope.outline).findSome? (·.names.lookup (ns, name)) := by
    rw [List.findSome?_map]
    rfl
  rw [outlined, outlined, h.scopes]

theorem Alike.fragmentRoot? {e e' : Env} (h : e.Alike e') :
    e.fragmentRoot? = e'.fragmentRoot? := by
  have outlined (scopes : List Scope) : scopes.findSome? (·.fragmentRoot) =
      (scopes.map Scope.outline).findSome? (·.fragmentRoot) := by
    rw [List.findSome?_map]
    rfl
  rw [Env.fragmentRoot?, Env.fragmentRoot?, outlined, outlined, h.scopes]

/-- The same answer to every question that lookups ask, apart from the one for the fragment root. -/
structure SameAnswers (e e' : Env) : Prop where
  resolver : e.resolver = e'.resolver
  nameTable : ∀ ns name, e.scopes.findSome? (·.names.lookup (ns, name)) =
    e'.scopes.findSome? (·.names.lookup (ns, name))
  lookupById : ∀ id,
    (e.lookupById id).map Component.opened? = (e'.lookupById id).map Component.opened?

theorem Alike.sameAnswers {e e' : Env} (h : e.Alike e') : e.SameAnswers e' :=
  ⟨h.resolver, h.nameTable, h.lookupById⟩

def boundId? (env : Env) (ns : Namespace) (name : String) : Option Identifier :=
  (env.lookupByName ns name).map (·.1)

namespace SameAnswers

variable {e e' : Env} (h : e.SameAnswers e')

theorem refl (e : Env) : e.SameAnswers e := ⟨rfl, fun _ _ => rfl, fun _ => rfl⟩

include h

theorem lookupOpened (id : Identifier) :
    (e.lookupById id).bind Component.opened? = (e'.lookupById id).bind Component.opened? := by
  have joined (o : Option Component) :
      o.bind Component.opened? = (o.map Component.opened?).join := by cases o <;> rfl
  rw [joined, joined, h.lookupById]

theorem boundId? (ns : Namespace) (name : String) : e.boundId? ns name = e'.boundId? ns name := by
  simp only [Env.boundId?, lookupByName, h.nameTable, Option.bind_eq_bind, Option.map_bind]
  congr 1
  funext id
  have hid := h.lookupById id
  simp only [Function.comp_apply]
  rcases h₁ : e.lookupById id with _ | c <;> rcases h₂ : e'.lookupById id with _ | c' <;>
    rw [h₁, h₂] at hid
  · cases hid
  · cases hid
  · rfl

theorem lookupUnit (name : String) : e.lookupUnit name = e'.lookupUnit name := by
  rw [Env.lookupUnit, Env.lookupUnit, h.resolver]

end SameAnswers

def knownUnit? (env : Env) (root : Identifier) (loads : Loads) : Option CompilationUnit :=
  (((env.lookupById root).bind Component.opened?).bind Component.unit?).or (loads.unit? root)

theorem unit_eq {env : Env} {r : Resolver} (hr : env.resolver = some r) (root : Identifier)
    (loads : Loads) :
    env.unit root loads =
      match env.knownUnit? root loads with
      | some unit => (.ok unit, loads)
      | none => loads.request r root := by
  rw [Env.unit, Env.knownUnit?, hr]
  rcases env.lookupById root with _ | component
  · cases loads.unit? root <;> rfl
  · cases component <;> rfl

theorem alike_addItem_type (e : Env) {t t' : TypeDecl} (h : t.id = t'.id) :
    (e.addItem (.type t)).Alike (e.addItem (.type t')) := by
  refine (Alike.refl e).push ?_
  simp only [Scope.outline, Scope.bind, h, Component.namespaces, Component.opened?]
  rfl

end Env

end CrossRef
