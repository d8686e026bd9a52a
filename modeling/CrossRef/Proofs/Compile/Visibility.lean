import CrossRef.Proofs.Compile.Postcondition
import CrossRef.Proofs.Env.Bindings

/-! What the items of a signature see of each other is what others see of the signature. The pass
binds the items one by one; whoever opens the compiled signature binds them all at once. -/

namespace CrossRef

open PassM

theorem Include.pass_outcome (fuel : Nat) (env : Env) (i : Include) :
    (i.pass (.start fuel) env).Yields fun out =>
      out.1.content.compiled = true ∧ out.2 = env.openSignature out.1.content ∨
        out.1.content.compiled = false ∧ out.1.content = i.content ∧ out.2 = env := by
  obtain ⟨parent, doc, decl, strengthened, shadowed, content⟩ := i
  rw [Include.pass]
  refine (yields_true _).bind fun decl' _ => (yields_true _).bind fun strengthened' _ => ?_
  rw [Pass.expandInclude]
  split
  case isTrue hmarked => exact ensures_pure (.inl ⟨hmarked, rfl⟩)
  case isFalse hopen =>
    refine (yields_true _).bind fun outcome _ => ?_
    cases outcome with
    | error error =>
      refine (ensures_file _).bind fun _ _ => ensures_pure (.inr ⟨?_, rfl, rfl⟩)
      simpa using hopen
    | ok sig =>
      refine (Signature.yields_compiled fuel env _).bind fun content' hcontent => ?_
      exact ensures_pure (.inl ⟨hcontent, rfl⟩)

namespace Item

def EmptyIfFailed (item : Item) : Prop :=
  ∀ i, item = .included i → i.content.compiled = false → i.content.items = []

theorem visible_of_addItem {α : Type} (env : Env) (x : PassM α) (f : α → Item)
    (hf : ∀ a i, f a ≠ .included i) :
    (x >>= fun a => pure (f a, env.addItem (f a))).Yields fun out =>
      out.1.EmptyIfFailed → out.2.SameBindings (env.openItems [out.1]) := by
  refine (yields_true x).bind fun a _ => ensures_pure fun _ => ?_
  exact (env.openItems_single (members_of_not_included (hf a))).symm

theorem pass_visible (fuel : Nat) (env : Env) {item : Item}
    (hopen : ∀ doc content, item ≠ .opened doc content) :
    (item.pass (.start fuel) env).Yields fun out =>
      out.1.EmptyIfFailed → out.2.SameBindings (env.openItems [out.1]) := by
  cases item with
  | module m =>
    rw [Item.pass]
    exact visible_of_addItem env _ .module (by simp)
  | moduleSubstitution m =>
    rw [Item.pass]
    exact visible_of_addItem env _ (fun manifest => .moduleSubstitution { m with manifest }) (by simp)
  | moduleType m =>
    rw [Item.pass]
    exact visible_of_addItem env _ .moduleType (by simp)
  | type t =>
    rw [Item.pass]
    exact visible_of_addItem env _ .type (by simp)
  | typeSubstitution t =>
    rw [Item.pass]
    exact visible_of_addItem env _ .typeSubstitution (by simp)
  | value v =>
    rw [Item.pass]
    exact visible_of_addItem env _ .value (by simp)
  | external e =>
    rw [Item.pass]
    exact visible_of_addItem env _ .external (by simp)
  | classDecl c =>
    rw [Item.pass]
    exact visible_of_addItem env _ .classDecl (by simp)
  | classType c =>
    rw [Item.pass]
    exact visible_of_addItem env _ .classType (by simp)
  | extension e =>
    rw [Item.pass]
    exact visible_of_addItem env _ .extension (by simp)
  | exception e =>
    rw [Item.pass]
    exact visible_of_addItem env _ .exception (by simp)
  | included i =>
    rw [Item.pass]
    refine (i.pass_outcome fuel env).bind fun out hout => ensures_pure fun hfailed => ?_
    rw [Env.openItems_included]
    -- Later items see nothing of an include that failed; others see its content, which is empty then.
    rcases hout with ⟨-, hnext⟩ | ⟨hmark, -, hnext⟩
    · rw [hnext]
      exact .refl _
    · rw [hnext, Env.openSignature_eq, hfailed out.1 rfl hmark]
      exact env.sameBindings_openItems_nil.symm
  | opened doc content => exact absurd rfl (hopen doc content)
  | comment text =>
    rw [Item.pass]
    have hplain : (Item.comment text).members = [.comment text] := members_of_not_included (by simp)
    exact ensures_pure fun _ => (env.openItems_single hplain).symm

end Item

theorem compileItems_sameBindings (fuel : Nat) (env : Env) {items : List Item}
    (hopen : ∀ item ∈ items, ∀ doc content, item ≠ .opened doc content) :
    (compileItems fuel env items).Yields fun out =>
      (∀ item ∈ out.1, item.EmptyIfFailed) → out.2.SameBindings (env.openItems out.1) := by
  rw [compileItems]
  induction items generalizing env with
  | nil =>
    rw [passItems]
    exact ensures_pure fun _ => env.sameBindings_openItems_nil.symm
  | cons item items ih =>
    rw [List.forall_mem_cons] at hopen
    rw [passItems]
    refine (Item.pass_visible fuel env hopen.1).bind fun first hfirst => ?_
    refine (ih first.2 hopen.2).bind fun rest hrest => ensures_pure fun hfailed => ?_
    rw [List.forall_mem_cons] at hfailed
    have hlast := (hrest hfailed.2).trans ((hfirst hfailed.1).push _)
    exact hlast.trans (env.openItems_cons first.1 rest.1).symm

/-- The environment after the last item and the one in which the compiled signature is opened answer
every question alike. An include that is not marked afterwards is one whose expansion failed. -/
theorem lookup_after_compileItems {fuel : Nat} {env last : Env} {items out : List Item}
    {loads after : Loads} {reports : List Report}
    (hopen : ∀ item ∈ items, ∀ doc content, item ≠ .opened doc content)
    (hrun : (compileItems fuel env items).run loads = (.ok ((out, last), reports), after))
    (hfailed : ∀ i, .included i ∈ out → i.content.compiled = false → i.content.items = [])
    (compiled : Bool) (doc : Docs) :
    (∀ ns name, last.lookupByName ns name =
        (env.openSignature ⟨out, compiled, doc⟩).lookupByName ns name) ∧
      ∀ id, last.lookupById id = (env.openSignature ⟨out, compiled, doc⟩).lookupById id := by
  have hempty : ∀ item ∈ out, item.EmptyIfFailed := by
    rintro _ hitem i rfl
    exact hfailed i hitem
  have hbindings := compileItems_sameBindings fuel env hopen loads trivial _ _ _ hrun
  have hlast := hbindings.2 hempty
  rw [Env.openSignature_eq]
  exact ⟨hlast.lookupByName, hlast.lookupById⟩

def Item.aroundFailedInclude (path : Path) : List Item :=
  [.type ⟨(Identifier.root "A").child .type "t", [], {}, none⟩,
    .included ⟨.root "A", [], .aliasOf (.root "Gone"), none, {}, .ofItems []⟩,
    .value ⟨(Identifier.root "A").child .value "x", [], .constr path []⟩]

theorem lookup_after_failedInclude :
    ∃ out last reports,
      (compileItems 0 .empty (Item.aroundFailedInclude (.root "t"))).run {} =
        (.ok ((out, last), reports), {}) ∧
      (∀ ns name, last.lookupByName ns name =
        (Env.empty.openSignature ⟨out, true, []⟩).lookupByName ns name) ∧
      ∀ id, last.lookupById id = (Env.empty.openSignature ⟨out, true, []⟩).lookupById id := by
  obtain ⟨last, reports, hrun⟩ : ∃ last reports,
      (compileItems 0 .empty (Item.aroundFailedInclude (.root "t"))).run {} =
        (.ok ((Item.aroundFailedInclude (.ofIdentifier ((Identifier.root "A").child .type "t")),
          last), reports), {}) := ⟨_, _, rfl⟩
  refine ⟨_, last, reports, hrun, lookup_after_compileItems ?_ hrun ?_ true []⟩
  · simp [Item.aroundFailedInclude]
  · simp [Item.aroundFailedInclude, Signature.ofItems]

end CrossRef
