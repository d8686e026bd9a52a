import CrossRef.Proofs.Env.Reachable
import CrossRef.Proofs.Lookup.Correspondence
import CrossRef.Proofs.Signature.Orderly

/-! Lookups come to an end. Whatever a lookup follows costs it a unit of its allowance, and the one
way around that is a fragment of several names. Among orderly declarations there are none, so that a
lookup ends however these refer to each other, and what it finds is orderly too. -/

namespace CrossRef

/-- A unit whose name has a number includes no units but those with smaller ones, and what it
declares it declares as its own. -/
structure CompilationUnit.Stands (policy : Policy) (unit : CompilationUnit) : Prop where
  content : unit.content.signature.Orderly (policy.under unit.name) false
  owner : ∀ owner, unit.content.signature.parent? = some owner → policy.Clear owner.name →
    policy.Clear unit.name
  root : policy.Clear unit.name ∨ unit.id = .root unit.name

structure CompilationUnit.LoadedFor (policy : Policy) (root : Identifier) (unit : CompilationUnit) :
    Prop where
  stands : unit.Stands policy
  named : policy.Clear root.name ∨ unit.name = root.name

structure Resolver.Orderly (policy : Policy) (r : Resolver) : Prop where
  roots : ∀ name root, r.lookupUnit name = .found root → policy.Clear name ∨ root = .root name
  units : ∀ earlier root unit, r.loadUnit earlier root = .ok unit → unit.LoadedFor policy root

def Loads.Orderly (policy : Policy) (loads : Loads) : Prop :=
  ∀ root unit, loads.unit? root = some unit → unit.LoadedFor policy root

def Component.Orderly (policy : Policy) : Component → Prop
  | module m => m.Orderly policy false
  | moduleType m => m.Orderly policy false
  | parameter arg => arg.expr.Orderly policy false
  | unit u => u.Stands policy
  | _ => True

/-- Nothing but a unit is bound to the name of a unit with a number. -/
def Component.Fits (policy : Policy) (id : Identifier) : Component → Prop
  | module _ | parameter _ => policy.Clear id.name
  | unit u => policy.Clear id.name ∨ u.id = id
  | _ => True

structure Scope.Orderly (policy : Policy) (s : Scope) : Prop where
  names : ∀ name id, ((Namespace.module, name), id) ∈ s.names → policy.Clear name ∨ id = .root name
  elements : ∀ entry ∈ s.elements, entry.2.Orderly policy ∧ entry.2.Fits policy entry.1
  fragmentRoot : ∀ sig, s.fragmentRoot = some sig → sig.Orderly policy false

structure Env.Orderly (policy : Policy) (env : Env) : Prop where
  units : ∀ r, env.resolver = some r → r.Orderly policy
  scopes : ∀ s ∈ env.scopes, s.Orderly policy

def Expansion.Orderly (policy : Policy) : Expansion → Prop
  | signature sig => sig.Orderly policy false
  | functor param body => param.Orderly policy false ∧ body.Orderly policy false

section Surroundings

variable {policy : Policy}

theorem Loads.orderly_empty : ({} : Loads).Orderly policy := by
  intro root unit h
  cases h

theorem Loads.Orderly.request {loads : Loads} (h : loads.Orderly policy) {r : Resolver}
    (hr : r.Orderly policy) (root : Identifier) :
    (loads.request r root).2.Orderly policy ∧
      ∀ unit, (loads.request r root).1 = .ok unit → unit.LoadedFor policy root := by
  rw [Loads.request]
  cases hload : r.loadUnit loads.requests root with
  | error error =>
    refine ⟨h, ?_⟩
    rintro unit ⟨⟩
  | ok loaded =>
    have hloaded := hr.units _ _ _ hload
    refine ⟨fun other unit hunit => ?_, ?_⟩
    · simp only [Loads.unit?] at hunit
      split at hunit
      · rw [List.lookup_cons] at hunit
        split at hunit
        case h_1 hsame =>
          cases hunit
          rw [eq_of_beq hsame]
          exact hloaded
        case h_2 => exact h other unit hunit
      · exact h other unit hunit
    · rintro unit ⟨⟩
      exact hloaded

theorem CompilationUnit.Stands.orderly {unit : CompilationUnit} (h : unit.Stands policy) :
    unit.content.signature.Orderly policy false := h.content.widen (policy.under_within unit.name)

theorem Module.Orderly.clear {m : Module} (h : m.Orderly policy false) :
    policy.Clear m.id.name := by
  obtain ⟨id, doc, decl, hidden⟩ := m
  rw [Orderly] at h
  exact h.1

theorem Component.orderly_ofItem? {item : Item} {marked : Bool}
    (h : item.Orderly policy false marked) {component : Component}
    (hcomponent : ofItem? item = some component) : component.Orderly policy := by
  cases item with
  | module m =>
    cases hcomponent
    rwa [Item.Orderly] at h
  | moduleType m =>
    cases hcomponent
    rwa [Item.Orderly] at h
  | type t | value v | external e | classDecl c | classType c =>
    cases hcomponent
    exact trivial
  | _ => cases hcomponent

theorem Component.fits_ofItem? {item : Item} {marked : Bool}
    (h : item.Orderly policy false marked) {id : Identifier} (hid : item.identifier? = some id)
    {component : Component} (hcomponent : ofItem? item = some component) :
    component.Fits policy id := by
  cases item with
  | module m =>
    cases hcomponent
    cases hid
    rw [Item.Orderly] at h
    exact h.clear
  | moduleType m | type t | value v | external e | classDecl c | classType c =>
    cases hcomponent
    exact trivial
  | _ => cases hcomponent

theorem Component.Fits.root {component : Component} {id : Identifier}
    (h : component.Fits policy id) (horderly : component.Orderly policy)
    (hmodule : .module ∈ component.namespaces) : policy.Clear id.name ∨ id = .root id.name := by
  cases component with
  | module m | parameter arg => exact .inl h
  | unit u =>
    rcases h with hclear | rfl
    · exact .inl hclear
    · exact horderly.root
  | moduleType m | type t | value v | external e | classDecl c | classType c =>
    simp [namespaces] at hmodule

namespace Scope

theorem orderly_unbound {s : Scope} (hnames : s.names = []) (helements : s.elements = [])
    (hroot : ∀ sig, s.fragmentRoot = some sig → sig.Orderly policy false) : s.Orderly policy where
  names := by simp [hnames]
  elements := by simp [helements]
  fragmentRoot := hroot

theorem orderly_empty : ({} : Scope).Orderly policy :=
  orderly_unbound rfl rfl (by rintro _ ⟨⟩)

theorem Orderly.bind {s : Scope} (h : s.Orderly policy) (id : Identifier) {component : Component}
    (hcomponent : component.Orderly policy) (hfits : component.Fits policy id) :
    (s.bind id component).Orderly policy where
  names := by
    intro name other hmem
    rcases mem_names_bind hmem with hold | ⟨-, hmodule, rfl, rfl⟩
    · exact h.names name other hold
    · exact hfits.root hcomponent hmodule
  elements := by
    intro entry hentry
    rcases List.mem_cons.mp hentry with rfl | hentry
    · exact ⟨hcomponent, hfits⟩
    · exact h.elements entry hentry
  fragmentRoot := h.fragmentRoot

theorem Orderly.bindItem {s : Scope} (h : s.Orderly policy) {item : Item} {marked : Bool}
    (hitem : item.Orderly policy false marked) : (s.bindItem item).Orderly policy := by
  rw [Scope.bindItem]
  split
  case h_1 id component hid hcomponent =>
    exact h.bind id (Component.orderly_ofItem? hitem hcomponent)
      (Component.fits_ofItem? hitem hid hcomponent)
  case h_2 => exact h

theorem Orderly.bindMembers {s : Scope} (h : s.Orderly policy) {sig : Signature}
    (hsig : sig.Orderly policy false) : (s.bindMembers sig).Orderly policy := by
  rw [Scope.bindMembers]
  have hmembers := hsig.members
  generalize sig.members = members at hmembers
  induction members generalizing s with
  | nil => exact h
  | cons item items ih =>
    rw [List.forall_mem_cons] at hmembers
    exact ih (h.bindItem hmembers.1) hmembers.2

end Scope

namespace Env

theorem orderly_empty : Env.empty.Orderly policy where
  units := by
    rintro _ ⟨⟩
  scopes := by
    rintro _ ⟨⟩

theorem orderly_create {r : Resolver} (h : r.Orderly policy) (options : ResolverOptions) :
    (create r options).Orderly policy where
  units := by
    rintro _ ⟨⟩
    exact h
  scopes := by
    rintro _ ⟨⟩

namespace Orderly

variable {env : Env} (h : env.Orderly policy)

include h

theorem push {s : Scope} (hs : s.Orderly policy) : (env.push s).Orderly policy where
  units := h.units
  scopes := by
    intro scope hscope
    rcases List.mem_cons.mp hscope with rfl | hscope
    · exact hs
    · exact h.scopes scope hscope

theorem bind (id : Identifier) {component : Component} (hcomponent : component.Orderly policy)
    (hfits : component.Fits policy id) : (env.push (Scope.bind {} id component)).Orderly policy :=
  h.push (Scope.orderly_empty.bind id hcomponent hfits)

theorem openSignature {sig : Signature} (hsig : sig.Orderly policy false) :
    (env.openSignature sig).Orderly policy :=
  h.push (Scope.orderly_empty.bindMembers hsig)

theorem openUnit {unit : CompilationUnit} (hunit : unit.Stands policy) :
    (env.openUnit unit).Orderly policy :=
  h.push ((Scope.orderly_empty.bindMembers hunit.orderly).bind unit.id hunit (.inr rfl))

theorem addParameter {param : FunctorParameter} (hparam : param.Orderly policy false) :
    (env.addParameter param).Orderly policy := by
  cases param with
  | unit => exact h
  | named id expr =>
    rw [FunctorParameter.Orderly] at hparam
    exact h.bind id hparam.2 hparam.1

theorem addFragmentRoot {sig : Signature} (hsig : sig.Orderly policy false) :
    (env.addFragmentRoot sig).Orderly policy := by
  refine h.push (Scope.orderly_unbound rfl rfl ?_)
  rintro _ ⟨⟩
  exact hsig

theorem addDocs (docs : Docs) : (env.addDocs docs).Orderly policy := by
  rw [Env.addDocs]
  split
  · exact h
  · exact h.push (Scope.orderly_unbound rfl rfl (by rintro _ ⟨⟩))

theorem addItem {item : Item} {marked : Bool} (hitem : item.Orderly policy false marked) :
    (env.addItem item).Orderly policy := by
  rw [Env.addItem]
  split
  case h_1 id component hid hcomponent =>
    exact h.bind id (Component.orderly_ofItem? hitem hcomponent)
      (Component.fits_ofItem? hitem hid hcomponent)
  case h_2 => exact h

theorem lookupById {id : Identifier} {component : Component}
    (hid : env.lookupById id = some component) :
    component.Orderly policy ∧ component.Fits policy id := by
  rw [Env.lookupById] at hid
  obtain ⟨scope, hscope, hid⟩ := List.exists_of_findSome?_eq_some hid
  obtain ⟨newer, older, hsplit, -⟩ := List.lookup_eq_some_iff.mp hid
  refine (h.scopes scope hscope).elements (id, component) ?_
  rw [hsplit]
  exact List.mem_append_right newer List.mem_cons_self

theorem fragmentRoot? {sig : Signature} (hroot : env.fragmentRoot? = some sig) :
    sig.Orderly policy false := by
  rw [Env.fragmentRoot?] at hroot
  obtain ⟨scope, hscope, hroot⟩ := List.exists_of_findSome?_eq_some hroot
  exact (h.scopes scope hscope).fragmentRoot sig hroot

theorem unit {loads : Loads} (hloads : loads.Orderly policy) (root : Identifier) :
    (env.unit root loads).2.Orderly policy ∧
      ∀ unit, (env.unit root loads).1 = .ok unit → unit.LoadedFor policy root := by
  rw [Env.unit]
  split
  case h_1 unit hbound =>
    refine ⟨hloads, ?_⟩
    rintro _ ⟨⟩
    obtain ⟨hunit, hfits⟩ := h.lookupById hbound
    exact ⟨hunit, hfits.imp_right fun hid => by rw [CompilationUnit.name, hid]⟩
  case h_2 =>
    split
    · refine ⟨hloads, ?_⟩
      rintro _ ⟨⟩
      exact hloads root _ ‹_›
    · split
      · exact hloads.request (h.units _ ‹_›) root
      · refine ⟨hloads, ?_⟩
        rintro _ ⟨⟩

end Orderly

end Env

theorem Constraint.Orderly.short {own : Bool} {c : Constraint} (h : c.Orderly policy own) :
    c.fragment.Short := by
  cases c with
  | moduleEq f decl =>
    rw [Orderly] at h
    exact h.1
  | moduleSubst f path | typeEq f eq | typeSubst f eq => rwa [Orderly] at h

theorem Constraint.Orderly.withFragment {own : Bool} {c : Constraint} (h : c.Orderly policy own)
    {f : Fragment} (hf : f.Short) : (c.withFragment f).Orderly policy own := by
  cases c with
  | moduleEq _ decl =>
    rw [Orderly] at h
    rw [Constraint.withFragment, Orderly]
    exact ⟨hf, h.2⟩
  | moduleSubst _ path | typeEq _ eq | typeSubst _ eq => rwa [Constraint.withFragment, Orderly]

theorem Fragment.eq_resolved {f : Fragment} {resolved : ResolvedFragment}
    (h : f.resolved? = some resolved) : f = .resolved resolved := by
  cases f with
  | resolved other =>
    cases h
    rfl
  | _ => cases h

theorem StoredExpansion.Orderly.toModuleTypeExpr :
    ∀ {expansion : StoredExpansion}, expansion.Orderly policy false →
      expansion.toModuleTypeExpr.Orderly policy false
  | .signature sig, h => by
    rw [StoredExpansion.Orderly] at h
    rw [StoredExpansion.toModuleTypeExpr, ModuleTypeExpr.Orderly]
    exact h
  | .functor param body, h => by
    rw [StoredExpansion.Orderly] at h
    rw [StoredExpansion.toModuleTypeExpr, ModuleTypeExpr.Orderly]
    exact ⟨h.1, h.2.toModuleTypeExpr⟩

theorem StoredExpansion.Orderly.toExpansion {expansion : StoredExpansion}
    (h : expansion.Orderly policy false) : expansion.toExpansion.Orderly policy := by
  cases expansion with
  | signature sig => rwa [Orderly] at h
  | functor param body =>
    rw [Orderly] at h
    exact ⟨h.1, h.2.toModuleTypeExpr⟩

theorem Expansion.Orderly.reroot {expansion : Expansion} (h : expansion.Orderly policy)
    (source : Identifier) (target : ResolvedPath) :
    (expansion.reroot source target).Orderly policy := by
  cases expansion with
  | signature sig => exact Signature.Orderly.mapLeaves (LeafMap.keeps_reroot source target) h
  | functor param body =>
    exact ⟨h.1.mapLeaves (LeafMap.keeps_reroot source target),
      h.2.mapLeaves (LeafMap.keeps_reroot source target)⟩

end Surroundings

/-- With orderly units loaded, the lookup ends and has loaded none but orderly ones. It fails or it
has a result as `post` says; it does not lack fuel. -/
def LookupM.Completes {α : Type} (policy : Policy) (x : LookupM α) (post : α → Prop) : Prop :=
  ∀ loads : Loads, loads.Orderly policy →
    (x loads).2.Orderly policy ∧
      match (x loads).1 with
      | .ok a => post a
      | .error (.fault _) => True
      | .error .outOfFuel => False

namespace LookupM

variable {policy : Policy} {α β : Type}

theorem completes_pure {a : α} {post : α → Prop} (h : post a) :
    (pure a : LookupM α).Completes policy post :=
  fun _ hloads => ⟨hloads, h⟩

theorem completes_fail (error : ResolveError) (post : α → Prop) :
    (fail error : LookupM α).Completes policy post :=
  fun _ hloads => ⟨hloads, trivial⟩

theorem Completes.bind {x : LookupM α} {f : α → LookupM β} {middle : α → Prop} {post : β → Prop}
    (hx : x.Completes policy middle) (hf : ∀ a, middle a → (f a).Completes policy post) :
    (x >>= f).Completes policy post := by
  intro loads hloads
  obtain ⟨hafter, hx⟩ := hx loads hloads
  rw [bind_apply]
  rcases hrun : x loads with ⟨(error | _) | a, after⟩ <;> rw [hrun] at hafter hx
  · exact ⟨hafter, trivial⟩
  · exact hx.elim
  · exact hf a hx after hafter

theorem Completes.map {x : LookupM α} {middle : α → Prop} {post : β → Prop} {f : α → β}
    (hx : x.Completes policy middle) (hf : ∀ a, middle a → post (f a)) :
    (f <$> x).Completes policy post := by
  rw [map_eq_pure_bind]
  exact hx.bind fun a ha => completes_pure (hf a ha)

theorem Completes.orFail {x : LookupM α} {post : α → Prop} (hx : x.Completes policy post)
    (error : ResolveError) : (x.orFail error).Completes policy post := by
  intro loads hloads
  obtain ⟨hafter, hx⟩ := hx loads hloads
  rw [orFail_apply]
  rcases hrun : x loads with ⟨(cause | _) | a, after⟩ <;> rw [hrun] at hafter hx
  · cases cause <;> exact ⟨hafter, trivial⟩
  · exact hx.elim
  · exact ⟨hafter, hx⟩

theorem Completes.mono {x : LookupM α} {post weaker : α → Prop}
    (hx : x.Completes policy post) (h : ∀ a, post a → weaker a) : x.Completes policy weaker := by
  intro loads hloads
  obtain ⟨hafter, hx⟩ := hx loads hloads
  refine ⟨hafter, ?_⟩
  rcases hrun : (x loads).1 with (error | _) | a <;> rw [hrun] at hx
  · trivial
  · exact hx
  · exact h a hx

theorem Completes.and {x : LookupM α} {post extra : α → Prop} (hx : x.Completes policy post)
    (h : ∀ loads after a, x loads = (.ok a, after) → extra a) :
    x.Completes policy fun a => post a ∧ extra a := by
  intro loads hloads
  obtain ⟨hafter, hx⟩ := hx loads hloads
  refine ⟨hafter, ?_⟩
  rcases hrun : x loads with ⟨(error | _) | a, after⟩ <;> rw [hrun] at hx
  · trivial
  · exact hx
  · exact ⟨hx, h loads after a hrun⟩

theorem completes_asSignature {expansion : Expansion} (h : expansion.Orderly policy) :
    expansion.asSignature.Completes policy (·.Orderly policy false) := by
  cases expansion with
  | signature sig => exact completes_pure h
  | functor param body => exact completes_fail _ _

theorem completes_fetch {env : Env} (h : env.Orderly policy) (root : Identifier) :
    (env.fetch root).Completes policy (·.LoadedFor policy root) := by
  intro loads hloads
  obtain ⟨hafter, hunit⟩ := h.unit hloads root
  rw [Env.fetch]
  rcases hrun : env.unit root loads with ⟨error | unit, after⟩ <;> rw [hrun] at hafter hunit
  · exact ⟨hafter, trivial⟩
  · exact ⟨hafter, hunit unit rfl⟩

theorem completes_boundName (env : Env) (ns : Namespace) (name : String) {x : LookupM ResolvedPath}
    (hx : x.Completes policy fun _ => True) :
    LookupM.Completes policy
      (match env.lookupByName ns name with
        | some (id, _) => pure (.identifier id)
        | none => x) fun _ => True := by
  split
  · exact completes_pure trivial
  · exact hx

end LookupM

open LookupM

def Steps.Settle (policy : Policy) (s : Steps) : Prop :=
  ∀ env target, env.Orderly policy → (s.follow env target).Completes policy (·.Orderly policy)

namespace Steps.Settle

variable {policy : Policy} {s : Steps} {env : Env} (h : s.Settle policy) (he : env.Orderly policy)

include h he

theorem signatureOfModule (path : ResolvedPath) :
    (s.signatureOfModule env path).Completes policy (·.Orderly policy false) :=
  (h env _ he).bind fun _ => completes_asSignature

theorem signatureOfContainer (id : Identifier) :
    (s.signatureOfContainer env id).Completes policy (·.Orderly policy false) :=
  (h env _ he).bind fun _ => completes_asSignature

theorem modulePath (path : Path) : (s.modulePath env path).Completes policy fun _ => True := by
  induction path with
  | resolved path => exact completes_pure trivial
  | root name =>
    simp only [Steps.modulePath]
    refine completes_boundName env .module name ?_
    cases env.lookupUnit name with
    | found root => exact completes_pure trivial
    | notFound => exact completes_fail _ _
    | forwardReference => exact completes_fail _ _
  | dot parent name ih =>
    simp only [Steps.modulePath]
    refine ih.bind fun owner _ => (h.signatureOfModule he owner).bind fun sig _ => ?_
    cases sig.find? .module name with
    | none => exact completes_fail _ _
    | some item => exact completes_pure trivial
  | apply f a ihf iha =>
    simp only [Steps.modulePath]
    refine ihf.bind fun functor _ => iha.bind fun argument _ => ?_
    refine (h env _ he).bind fun found _ => ?_
    cases found with
    | signature sig => exact completes_fail _ _
    | functor param body => exact completes_pure trivial

theorem memberPath (kind : PathKind) (ns : Namespace) (path : Path) :
    (s.memberPath env kind ns path).Completes policy fun _ => True := by
  cases path with
  | resolved path => exact completes_pure trivial
  | root name => exact completes_fail _ _
  | dot parent name =>
    simp only [Steps.memberPath]
    refine (h.modulePath he parent).bind fun owner _ =>
      (h.signatureOfModule he owner).bind fun sig _ => ?_
    cases sig.find? ns name with
    | none => exact completes_fail _ _
    | some item => exact completes_pure trivial
  | apply f a => exact completes_fail _ _

theorem moduleTypePath (path : Path) :
    (s.moduleTypePath env path).Completes policy fun _ => True := by
  cases path with
  | root name => exact completes_boundName env .moduleType name (completes_fail _ _)
  | resolved path => exact h.memberPath he .moduleType .moduleType (.resolved path)
  | dot parent name => exact h.memberPath he .moduleType .moduleType (.dot parent name)
  | apply f a => exact h.memberPath he .moduleType .moduleType (.apply f a)

theorem typePath (path : Path) : (s.typePath env path).Completes policy fun _ => True := by
  cases path with
  | root name =>
    refine completes_boundName env .type name ?_
    split
    · exact completes_pure trivial
    · exact completes_fail _ _
  | resolved path => exact h.memberPath he .type .type (.resolved path)
  | dot parent name => exact h.memberPath he .type .type (.dot parent name)
  | apply f a => exact h.memberPath he .type .type (.apply f a)

theorem classTypePath (path : Path) :
    (s.classTypePath env path).Completes policy fun _ => True := by
  cases path with
  | root name => exact completes_boundName env .classType name (completes_fail _ _)
  | resolved path => exact h.memberPath he .classType .classType (.resolved path)
  | dot parent name => exact h.memberPath he .classType .classType (.dot parent name)
  | apply f a => exact h.memberPath he .classType .classType (.apply f a)

theorem path (kind : PathKind) (path : Path) :
    (s.path env kind path).Completes policy fun _ => True := by
  cases kind with
  | module => exact h.modulePath he path
  | moduleType => exact h.moduleTypePath he path
  | type => exact h.typePath he path
  | classType => exact h.classTypePath he path

omit h he in
theorem fragment (ns : Namespace) {f : Fragment} (hf : f.Short) :
    (s.fragment env ns f).Completes policy fun resolved => (Fragment.resolved resolved).Short := by
  cases hresolved : f.resolved? with
  | some resolved =>
    simp only [Steps.fragment, hresolved]
    rw [Fragment.eq_resolved hresolved] at hf
    exact completes_pure hf
  | none =>
    simp only [Steps.fragment, hresolved]
    cases env.fragmentRoot? with
    | none => exact completes_fail _ _
    | some sig =>
      rw [Fragment.Short] at hf
      rcases hsegments : f.segments with _ | ⟨name, _ | ⟨next, rest⟩⟩
      · exact completes_fail _ _
      · simp only [Steps.locate]
        split
        · exact completes_pure (Nat.le_refl 1)
        · exact completes_pure (Nat.le_refl 1)
        · exact completes_fail _ _
      · simp [hsegments] at hf

omit h he in
theorem resolveFragment {c : Constraint} (hc : c.Orderly policy false) :
    (s.resolveFragment env c).Completes policy (·.Orderly policy false) := by
  rw [Steps.resolveFragment_eq]
  refine ((fragment c.space hc.short).orFail _).bind fun resolved hresolved => ?_
  exact completes_pure (hc.withFragment hresolved)

theorem constrainMember {c : Constraint} (hc : c.Orderly policy false) (name : String)
    {sig : Signature} (hsig : sig.Orderly policy false) :
    (s.constrainMember env c name sig).Completes policy (·.Orderly policy false) := by
  cases c with
  | moduleEq f decl =>
    rw [Constraint.Orderly] at hc
    simp only [Steps.constrainMember]
    split
    · exact completes_pure (hsig.setModuleDecl hc.2 ‹_›)
    · exact completes_fail _ _
  | moduleSubst f path =>
    simp only [Steps.constrainMember]
    refine (h.modulePath he path).bind fun target _ => ?_
    split
    · exact completes_pure ((hsig.remove ‹_›).mapLeaves (LeafMap.keeps_reroot _ _))
    · exact completes_fail _ _
  | typeEq f eq =>
    simp only [Steps.constrainMember]
    split
    · exact completes_pure (hsig.setTypeEquation ‹_›)
    · exact completes_fail _ _
  | typeSubst f eq =>
    simp only [Steps.constrainMember]
    split
    · exact completes_fail _ _
    · split
      · exact completes_pure ((hsig.remove ‹_›).mapLeaves (LeafMap.keeps_unfoldType _ _ _))
      · exact completes_fail _ _

theorem constrain {c : Constraint} (hc : c.Orderly policy false) {sig : Signature}
    (hsig : sig.Orderly policy false) :
    (s.constrain env c sig).Completes policy (·.Orderly policy false) := by
  simp only [Steps.constrain]
  split
  case h_1 resolved hresolved =>
    have hshort := hc.short
    rw [Fragment.eq_resolved hresolved, Fragment.Short, Fragment.segments] at hshort
    rcases hsegments : resolved.segments with _ | ⟨name, _ | ⟨next, rest⟩⟩
    · exact completes_fail _ _
    · exact h.constrainMember he hc name hsig
    · simp [hsegments] at hshort
  case h_2 => exact completes_fail _ _

theorem constrainAll {cs : List Constraint} (hcs : OrderlyConstraints policy false cs)
    {sig : Signature} (hsig : sig.Orderly policy false) :
    (s.constrainAll env cs sig).Completes policy (·.Orderly policy false) := by
  induction cs generalizing sig with
  | nil => exact completes_pure hsig
  | cons c cs ih =>
    rw [OrderlyConstraints] at hcs
    refine (resolveFragment hcs.1).bind fun resolved hresolved => ?_
    exact (h.constrain he hresolved hsig).bind fun _ => ih hcs.2

theorem signatureExpr :
    ∀ {expr : SignatureExpr}, expr.Orderly policy false →
      (s.signatureExpr env expr).Completes policy (·.Orderly policy false)
  | .path path, _ => by
    refine (h.moduleTypePath he path).bind fun target _ => ?_
    exact (h env _ he).bind fun _ => completes_asSignature
  | .signature sig, hexpr => by
    rw [SignatureExpr.Orderly] at hexpr
    exact completes_pure hexpr
  | .constrained cs base, hexpr => by
    rw [SignatureExpr.Orderly] at hexpr
    rw [Steps.signatureExpr]
    exact (signatureExpr hexpr.2).bind fun _ => h.constrainAll he hexpr.1
  | .typeOf origin, _ =>
    (h.modulePath he origin.path).bind fun _ _ => h.signatureOfModule he _

theorem moduleTypeExpr {expr : ModuleTypeExpr} (hexpr : expr.Orderly policy false) :
    (s.moduleTypeExpr env expr).Completes policy (·.Orderly policy) := by
  have stored {expansion : StoredExpansion}
      (hexpansion : OrderlyExpansion policy false (some expansion)) :
      expansion.toExpansion.Orderly policy := by
    rw [OrderlyExpansion] at hexpansion
    exact hexpansion.toExpansion
  cases expr with
  | path path expansion =>
    rw [ModuleTypeExpr.Orderly] at hexpr
    cases expansion with
    | some expansion => exact completes_pure (stored hexpr)
    | none =>
      simp only [Steps.moduleTypeExpr]
      exact (h.moduleTypePath he path).bind fun target _ => h env _ he
  | signature sig =>
    rw [ModuleTypeExpr.Orderly] at hexpr
    exact completes_pure hexpr
  | functor param body =>
    rw [ModuleTypeExpr.Orderly] at hexpr
    exact completes_pure hexpr
  | constrained cs base expansion =>
    rw [ModuleTypeExpr.Orderly, Bool.false_and] at hexpr
    cases expansion with
    | some expansion => exact completes_pure (stored hexpr.2.2)
    | none =>
      have hconstrained : (SignatureExpr.constrained cs base).Orderly policy false := by
        rw [SignatureExpr.Orderly]
        exact ⟨hexpr.1, hexpr.2.1⟩
      simp only [Steps.moduleTypeExpr]
      exact (h.signatureExpr he hconstrained).map fun _ hsig => hsig
  | typeOf origin expansion =>
    rw [ModuleTypeExpr.Orderly] at hexpr
    cases expansion with
    | some expansion => exact completes_pure (stored hexpr)
    | none =>
      have horigin : (SignatureExpr.typeOf origin).Orderly policy false := by
        rw [SignatureExpr.Orderly]
        trivial
      simp only [Steps.moduleTypeExpr]
      exact (h.signatureExpr he horigin).map fun _ hsig => hsig

theorem moduleDecl {decl : ModuleDecl} (hdecl : decl.Orderly policy false) :
    (s.moduleDecl env decl).Completes policy (·.Orderly policy) := by
  cases decl with
  | aliasOf path expansion =>
    cases expansion with
    | some expansion =>
      rw [ModuleDecl.Orderly, OrderlyExpansion] at hdecl
      exact completes_pure hdecl.toExpansion
    | none => exact h env _ he
  | typed expr =>
    rw [ModuleDecl.Orderly] at hdecl
    exact h.moduleTypeExpr he hdecl

theorem moduleType {m : ModuleType} (hm : m.Orderly policy false) :
    (s.moduleType env m).Completes policy (·.Orderly policy) := by
  obtain ⟨id, doc, _ | expr⟩ := m
  · exact completes_fail _ _
  · rw [ModuleType.Orderly] at hm
    exact h.moduleTypeExpr he hm

theorem functorResult {param : FunctorParameter} {body : ModuleTypeExpr}
    (hfunctor : (Expansion.functor param body).Orderly policy) :
    (s.functorResult env param body).Completes policy (·.Orderly policy) :=
  h.moduleTypeExpr (he.addParameter hfunctor.1) hfunctor.2

theorem memberModule {sig : Signature} (hsig : sig.Orderly policy false) (name : String) :
    (s.memberModule env sig name).Completes policy (·.Orderly policy) := by
  simp only [Steps.memberModule]
  split
  · exact h.moduleDecl (he.openSignature hsig) (hsig.module? ‹_›)
  · exact completes_fail _ _

theorem outerIdentifier (id : Identifier) :
    (s.outerIdentifier env id).Completes policy (·.Orderly policy) := by
  simp only [Steps.outerIdentifier]
  split
  · exact (completes_fetch he id).bind fun unit hunit => completes_pure hunit.stands.orderly
  · exact (h.signatureOfContainer he _).bind fun sig hsig => h.memberModule he hsig _
  · refine (h env _ he).bind fun found hfound => ?_
    split
    · split
      · have hparam := hfound.1
        rw [FunctorParameter.Orderly] at hparam
        exact h.moduleTypeExpr he hparam.2
      · exact completes_fail _ _
    · exact completes_fail _ _
  · exact completes_fail _ _
  · exact completes_fail _ _
  · exact completes_fail _ _

theorem identifier (id : Identifier) :
    (s.identifier env id).Completes policy (·.Orderly policy) := by
  simp only [Steps.identifier]
  split
  case h_1 m hbound =>
    have hm : m.Orderly policy false := (he.lookupById hbound).1
    exact h.moduleDecl he hm.decl
  case h_2 arg hbound => exact h.moduleTypeExpr he (he.lookupById hbound).1
  case h_3 unit hbound =>
    have hunit : unit.Stands policy := (he.lookupById hbound).1
    exact completes_pure hunit.orderly
  case h_4 => exact h.outerIdentifier he id

theorem module (path : ResolvedPath) :
    (s.module env path).Completes policy (·.Orderly policy) := by
  cases path with
  | identifier id => exact h.identifier he id
  | apply functor argument =>
    simp only [Steps.module]
    refine (h env _ he).bind fun found hfound => ?_
    cases found with
    | signature sig => exact completes_fail _ _
    | functor param body =>
      refine (h.functorResult he hfound).bind fun result hresult => ?_
      cases param with
      | unit => exact completes_pure hresult
      | named id expr => exact completes_pure (hresult.reroot id argument)
  | dot parent kind name =>
    exact (h.signatureOfModule he parent).bind fun sig hsig => h.memberModule he hsig name

omit h in
theorem moduleTypeAmong (path : ResolvedPath) (name : String) {sig : Signature}
    (hsig : sig.Orderly policy false) :
    (Steps.moduleTypeAmong env path name sig).Completes policy fun found =>
      found.1.Orderly policy false ∧ found.2.Orderly policy := by
  rw [Steps.moduleTypeAmong]
  split
  · exact completes_pure ⟨hsig.moduleType? ‹_›, he.openSignature hsig⟩
  · exact completes_fail _ _

theorem findModuleType (path : ResolvedPath) :
    (s.findModuleType env path).Completes policy fun found =>
      found.1.Orderly policy false ∧ found.2.Orderly policy := by
  cases path with
  | identifier id =>
    rw [Steps.findModuleType]
    split
    case h_1 m hbound => exact completes_pure ⟨(he.lookupById hbound).1, he⟩
    case h_2 => exact (h.signatureOfContainer he _).bind fun _ => moduleTypeAmong he _ _
    case h_3 => exact completes_fail _ _
  | dot parent kind name =>
    exact (h.signatureOfModule he parent).bind fun _ => moduleTypeAmong he _ name
  | apply functor argument => exact completes_fail _ _

theorem container (id : Identifier) :
    (s.container env id).Completes policy (·.Orderly policy) := by
  simp only [Steps.container]
  split
  · exact h env _ he
  · exact h env _ he
  · exact h env _ he
  · exact h env _ he
  · refine (h env _ he).bind fun found hfound => ?_
    cases found with
    | signature sig => exact completes_fail _ _
    | functor param body => exact h.functorResult he hfound
  · exact completes_fail _ _

theorem step (target : Target) : (s.step env target).Completes policy (·.Orderly policy) := by
  cases target with
  | module path => exact h.module he path
  | moduleType path =>
    exact (h.findModuleType he path).bind fun found hfound => h.moduleType hfound.2 hfound.1
  | container id => exact h.container he id
  | aliased path => exact (h.modulePath he path).bind fun target _ => h env _ he

omit h he in
theorem classAmong (path : ResolvedPath) (name : String) (sig : Signature) :
    (Steps.classAmong path name sig).Completes policy fun _ => True := by
  rw [Steps.classAmong]
  split
  · exact completes_pure trivial
  · exact completes_fail _ _

theorem classComponent (path : ResolvedPath) :
    (s.classComponent env path).Completes policy fun _ => True := by
  cases path with
  | identifier id =>
    rw [Steps.classComponent]
    split
    · exact completes_pure trivial
    · exact completes_pure trivial
    · exact (h.signatureOfContainer he _).bind fun _ _ => classAmong _ _ _
    · exact completes_fail _ _
  | dot parent kind name =>
    exact (h.signatureOfModule he parent).bind fun _ _ => classAmong _ name _
  | apply functor argument => exact completes_fail _ _

end Steps.Settle

section Allowance

variable {policy : Policy}

theorem followTarget_completes (expand : Nat → Env → ModuleDecl → LookupM Expansion) (budget : Nat)
    {env : Env} (target : Target) (he : env.Orderly policy) :
    (followTarget expand budget env target).Completes policy (·.Orderly policy) := by
  induction budget generalizing env target with
  | zero => exact completes_fail _ _
  | succ budget ih =>
    have hsettle : (Steps.ofFollow expand budget (followTarget expand budget)).Settle policy :=
      fun env target he => ih target he
    exact hsettle.step he target

theorem Steps.settle_within (expand : Nat → Env → ModuleDecl → LookupM Expansion) (budget : Nat) :
    (Steps.within expand budget).Settle policy :=
  fun _ target he => followTarget_completes expand budget target he

theorem Steps.settle_start (fuel : Nat) (env : Env) : (Steps.start fuel env).Settle policy :=
  settle_within _ _

theorem expandDecl_completes (fuel budget : Nat) {env : Env} (he : env.Orderly policy)
    {decl : ModuleDecl} (hdecl : decl.Orderly policy false) :
    (expandDecl (fuel + 1) budget env decl).Completes policy (·.Orderly policy) :=
  (Steps.settle_within (expandDecl fuel) budget).moduleDecl he hdecl

theorem locate_completes {s : Steps}
    (hrestart : ∀ {env : Env} {decl : ModuleDecl}, env.Orderly policy →
      decl.Orderly policy false → (s.restart env decl).Completes policy (·.Orderly policy))
    (ns : Namespace) (fault : ResolveError) (names : List String) {env : Env}
    (he : env.Orderly policy) {sig : Signature} (hsig : sig.Orderly policy false)
    (here : ResolvedFragment) :
    (s.locate ns fault env sig here names).Completes policy fun _ => True := by
  induction names generalizing env sig here with
  | nil => exact completes_fail _ _
  | cons name rest ih =>
    cases rest with
    | nil =>
      simp only [Steps.locate]
      split
      · exact completes_pure trivial
      · exact completes_pure trivial
      · exact completes_fail _ _
    | cons next rest =>
      simp only [Steps.locate]
      split
      · exact completes_fail _ _
      · have hscope := he.openSignature hsig
        refine (hrestart hscope (hsig.module? ‹_›)).bind fun found hfound => ?_
        refine (completes_asSignature hfound).bind fun inner hinner => ?_
        exact ih hscope hinner _

theorem classTypeSignature_completes (fuel budget : Nat) {env : Env} (he : env.Orderly policy)
    (expr : ClassTypeExpr) :
    (classTypeSignature fuel budget env expr).Completes policy fun _ => True := by
  induction budget generalizing expr with
  | zero =>
    cases expr with
    | signature sig => exact completes_pure trivial
    | constr path args => exact completes_fail _ _
  | succ budget ih =>
    cases expr with
    | signature sig => exact completes_pure trivial
    | constr path args =>
      have steps : (Steps.within (expandDecl fuel) budget).Settle policy :=
        Steps.settle_within _ _
      rw [classTypeSignature]
      refine (steps.classTypePath he path).bind fun target _ => ?_
      refine (steps.classComponent he target).bind fun component _ => ?_
      split
      · split
        · exact completes_pure trivial
        · exact ih _
      · split
        · exact completes_pure trivial
        · exact ih _
      · exact completes_fail _ _

end Allowance

namespace Lookup

variable {policy : Policy} (fuel : Nat) {env : Env} (he : env.Orderly policy)

include he

theorem path_completes (kind : PathKind) (p : Path) :
    (path fuel env kind p).Completes policy fun _ => True :=
  (Steps.settle_start fuel env).path he kind p

theorem moduleTypeExpansion_completes (p : ResolvedPath) :
    (moduleTypeExpansion fuel env p).Completes policy (·.Orderly policy) :=
  Steps.settle_start fuel env env _ he

theorem signatureExpr_completes {expr : SignatureExpr} (hexpr : expr.Orderly policy false) :
    (signatureExpr fuel env expr).Completes policy (·.Orderly policy false) :=
  (Steps.settle_start fuel env).signatureExpr he hexpr

theorem constrain_completes {c : Constraint} (hc : c.Orderly policy false) {sig : Signature}
    (hsig : sig.Orderly policy false) :
    (constrain fuel env c sig).Completes policy (·.Orderly policy false) :=
  (Steps.settle_start fuel env).constrain he hc hsig

theorem classSignature_completes (expr : ClassTypeExpr) :
    (classSignature fuel env expr).Completes policy fun _ => True :=
  classTypeSignature_completes fuel _ he expr

theorem aliasExpansion_completes (p : Path) :
    (aliasExpansion fuel env p false).Completes policy (·.Orderly policy) := by
  refine (path_completes fuel he .module p).bind fun target _ => ?_
  refine Completes.bind (Steps.settle_start fuel env env _ he) fun found hfound => ?_
  cases found <;> exact completes_pure hfound

theorem fragment_completes (ns : Namespace) (f : Fragment) :
    (fragment (fuel + 1) env ns f).Completes policy fun _ => True := by
  simp only [fragment, Steps.fragment]
  split
  · exact completes_pure trivial
  · split
    · exact completes_fail _ _
    · refine locate_completes (fun he hdecl => ?_) ns _ _ he (he.fragmentRoot? ‹_›) _
      exact expandDecl_completes fuel _ he hdecl

end Lookup

end CrossRef
