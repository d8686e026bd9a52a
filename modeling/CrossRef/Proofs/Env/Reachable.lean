import CrossRef.Proofs.Env.Bindings

/-! Environments as they are built, by adding bindings to one that has none. What their name tables
say of a name is what the declarations found under it say of themselves. -/

namespace CrossRef

namespace Scope

theorem bindMembers_keeps {P : Scope → Prop}
    (hbind : ∀ {s : Scope} (id : Identifier) (component : Component), P s → P (s.bind id component))
    {s : Scope} (h : P s) (sig : Signature) : P (s.bindMembers sig) := by
  unfold Scope.bindMembers
  induction sig.members generalizing s with
  | nil => exact h
  | cons item items ih =>
    apply ih
    unfold Scope.bindItem
    split
    · exact hbind _ _ h
    · exact h

def NamesMatch (s : Scope) : Prop :=
  ∀ ns name id, ((ns, name), id) ∈ s.names → id.name = name ∧ id.isHidden = false

def NamesDeclared (s : Scope) : Prop :=
  ∀ ns name id, ((ns, name), id) ∈ s.names →
    ∃ component, (id, component) ∈ s.elements ∧ ns ∈ component.namespaces

theorem mem_foldl_names {id : Identifier} {entry : (Namespace × String) × Identifier}
    (spaces : List Namespace) (names : List ((Namespace × String) × Identifier))
    (h : entry ∈ spaces.foldl (fun names ns => ((ns, id.name), id) :: names) names) :
    entry ∈ names ∨ entry.1.1 ∈ spaces ∧ entry.1.2 = id.name ∧ entry.2 = id := by
  induction spaces generalizing names with
  | nil => exact .inl h
  | cons ns spaces ih =>
    have hstep := ih _ h
    simp only [List.mem_cons] at hstep
    rcases hstep with (hnew | hold) | ⟨hlater, hentry⟩
    · subst hnew
      exact .inr ⟨List.mem_cons_self, rfl, rfl⟩
    · exact .inl hold
    · exact .inr ⟨List.mem_cons_of_mem ns hlater, hentry⟩

theorem mem_names_bind {s : Scope} {id other : Identifier} {component : Component}
    {ns : Namespace} {name : String} (h : ((ns, name), other) ∈ (s.bind id component).names) :
    ((ns, name), other) ∈ s.names ∨
      id.isHidden = false ∧ ns ∈ component.namespaces ∧ name = id.name ∧ other = id := by
  unfold Scope.bind at h
  by_cases hhidden : id.isHidden = true
  · simp only [hhidden, if_true] at h
    exact .inl h
  · simp only [hhidden, Bool.false_eq_true, if_false] at h
    exact (mem_foldl_names _ _ h).imp_right fun hnew => ⟨by simpa using hhidden, hnew⟩

theorem NamesMatch.bind {s : Scope} (h : s.NamesMatch) (id : Identifier) (component : Component) :
    (s.bind id component).NamesMatch := by
  intro ns name other hmem
  rcases mem_names_bind hmem with hold | ⟨hshown, -, rfl, rfl⟩
  · exact h ns name other hold
  · exact ⟨rfl, hshown⟩

theorem NamesDeclared.bind {s : Scope} (h : s.NamesDeclared) (id : Identifier)
    (component : Component) : (s.bind id component).NamesDeclared := by
  intro ns name other hmem
  rcases mem_names_bind hmem with hold | ⟨-, hns, -, rfl⟩
  · obtain ⟨declared, hdeclared, hspace⟩ := h ns name other hold
    exact ⟨declared, List.mem_cons_of_mem _ hdeclared, hspace⟩
  · exact ⟨component, List.mem_cons_self, hns⟩

end Scope

namespace Env

/-- The environments that come about by adding to one without bindings. -/
inductive Reachable : Env → Prop
  | empty : Reachable .empty
  | create (resolver : Resolver) (options : ResolverOptions) : Reachable (.create resolver options)
  | addItem {env : Env} (item : Item) : Reachable env → Reachable (env.addItem item)
  | addModule {env : Env} (m : Module) : Reachable env → Reachable (env.addModule m)
  | addModuleType {env : Env} (m : ModuleType) : Reachable env → Reachable (env.addModuleType m)
  | addArgument {env : Env} (arg : FunctorArgument) : Reachable env → Reachable (env.addArgument arg)
  | addFragmentRoot {env : Env} (sig : Signature) :
      Reachable env → Reachable (env.addFragmentRoot sig)
  | addDocs {env : Env} (docs : Docs) : Reachable env → Reachable (env.addDocs docs)
  | openSignature {env : Env} (sig : Signature) : Reachable env → Reachable (env.openSignature sig)
  | openUnit {env : Env} (unit : CompilationUnit) : Reachable env → Reachable (env.openUnit unit)

theorem Reachable.forall_scopes {P : Scope → Prop}
    (hfresh : ∀ s : Scope, s.names = [] → P s)
    (hbind : ∀ {s : Scope} (id : Identifier) (component : Component), P s → P (s.bind id component))
    {env : Env} (h : env.Reachable) : ∀ s ∈ env.scopes, P s := by
  have push {env : Env} {new : Scope} (hnew : P new) (h : ∀ s ∈ env.scopes, P s) :
      ∀ s ∈ (env.push new).scopes, P s := List.forall_mem_cons.mpr ⟨hnew, h⟩
  have fresh : P {} := hfresh {} rfl
  induction h with
  | empty => exact fun _ hmem => absurd hmem List.not_mem_nil
  | create resolver options => exact fun _ hmem => absurd hmem List.not_mem_nil
  | addItem item _ ih =>
    unfold Env.addItem
    split
    · exact push (hbind _ _ fresh) ih
    · exact ih
  | addModule m _ ih => exact push (hbind _ _ fresh) ih
  | addModuleType m _ ih => exact push (hbind _ _ fresh) ih
  | addArgument arg _ ih => exact push (hbind _ _ fresh) ih
  | addFragmentRoot sig _ ih => exact push (hfresh _ rfl) ih
  | addDocs docs _ ih =>
    unfold Env.addDocs
    split
    · exact ih
    · exact push (hfresh _ rfl) ih
  | openSignature sig _ ih => exact push (Scope.bindMembers_keeps hbind fresh sig) ih
  | openUnit unit _ ih =>
    exact push (hbind _ _ (Scope.bindMembers_keeps hbind fresh _)) ih

def NamesMatch (env : Env) : Prop := ∀ s ∈ env.scopes, s.NamesMatch

theorem Reachable.namesMatch {env : Env} (h : env.Reachable) : env.NamesMatch := by
  refine h.forall_scopes (fun s hs ns name id hmem => ?_) fun id component hs => hs.bind id component
  rw [hs] at hmem
  exact absurd hmem List.not_mem_nil

theorem Reachable.namesDeclared {env : Env} (h : env.Reachable) :
    ∀ s ∈ env.scopes, s.NamesDeclared := by
  refine h.forall_scopes (fun s hs ns name id hmem => ?_) fun id component hs => hs.bind id component
  rw [hs] at hmem
  exact absurd hmem List.not_mem_nil

theorem mem_names_of_lookup {env : Env} {ns : Namespace} {name : String} {id : Identifier}
    (h : env.names.lookup (ns, name) = some id) : ∃ s ∈ env.scopes, ((ns, name), id) ∈ s.names := by
  obtain ⟨before, after, hnames, -⟩ := List.lookup_eq_some_iff.mp h
  have hmem : ((ns, name), id) ∈ env.names := by
    rw [hnames]
    exact List.mem_append_right _ List.mem_cons_self
  exact List.mem_flatMap.mp hmem

theorem Reachable.name_eq {env : Env} (h : env.Reachable) {ns : Namespace} {name : String}
    {id : Identifier} {component : Component}
    (hfound : env.lookupByName ns name = some (id, component)) :
    id.name = name ∧ id.isHidden = false := by
  rw [lookupByName_eq] at hfound
  obtain ⟨bound, hbound, hrest⟩ := Option.bind_eq_some_iff.mp hfound
  obtain ⟨found, -, hpair⟩ := Option.map_eq_some_iff.mp hrest
  obtain rfl : bound = id := congrArg Prod.fst hpair
  obtain ⟨s, hs, hmem⟩ := mem_names_of_lookup hbound
  exact h.namesMatch s hs ns name bound hmem

theorem Reachable.declared {env : Env} (h : env.Reachable) {ns : Namespace} {name : String}
    {id : Identifier} (hid : env.names.lookup (ns, name) = some id) :
    ∃ component, (id, component) ∈ env.elements ∧ ns ∈ component.namespaces := by
  obtain ⟨s, hs, hmem⟩ := mem_names_of_lookup hid
  obtain ⟨component, hcomponent, hns⟩ := h.namesDeclared s hs ns name id hmem
  exact ⟨component, List.mem_flatMap.mpr ⟨s, hs, hcomponent⟩, hns⟩

theorem Reachable.lookup_names {env : Env} (h : env.Reachable) (ns : Namespace) (name : String) :
    env.names.lookup (ns, name) = (env.lookupByName ns name).map (·.1) := by
  rw [lookupByName_eq]
  cases hid : env.names.lookup (ns, name) with
  | none => rfl
  | some id =>
    obtain ⟨component, hcomponent, -⟩ := h.declared hid
    cases hfound : env.elements.lookup id with
    | none =>
      have hmissing := List.lookup_eq_none_iff.mp hfound (id, component) hcomponent
      simp at hmissing
    | some found =>
      rw [Option.bind_some, hfound]
      rfl

end Env

end CrossRef
