import CrossRef.Proofs.Compile.Refinement
import CrossRef.Proofs.Compile.Reporting
import CrossRef.Proofs.Signature.Ownership

/-! Includes are spliced all or nothing. An include that cannot be expanded keeps what it had, adds
nothing to the environment and is reported once; any other is compiled in its new place, and is in
scope from there on. -/

namespace CrossRef

open PassM

namespace Include

def expandReport (i : Include) (error : ResolveError) : Report where
  construct := .includeItem
  subject := i.decl.text
  phase := .expand
  parent := some i.parent
  error := some error

end Include

namespace Pass

theorem strengthening_silent (p : Pass) (env : Env) (path : Option Path) :
    (p.strengthening env path).Silent := by
  cases path with
  | none => exact files_pure rfl
  | some path =>
    rw [strengthening, map_eq_pure_bind]
    exact (resolve_silent p.fuel env .module path).bind_pure fun _ _ h => h

theorem expandInclude_cases {p : Pass} {env next : Env} {written : String} {i o : Include}
    {loads after : Loads} {reports : List Report}
    (h : (p.expandInclude env written i).run loads = (.ok ((o, next), reports), after)) :
    (i.content.compiled = true ∧ o = i ∧ next = env.openSignature i.content ∧ reports = []) ∨
    (i.content.compiled = false ∧ ∃ error,
      p.includedSignature env i.decl loads = (.error (.fault error), after) ∧
      error.fetch? = none ∧ o = i ∧ next = env ∧
      reports =
        [{ construct := .includeItem, subject := written, phase := .expand,
           parent := some i.parent, error := some error }]) ∨
    (i.content.compiled = false ∧ ∃ sig expanded content,
      p.includedSignature env i.decl loads = (.ok sig, expanded) ∧
      (p.splice env (includeContent env i sig)).run expanded = (.ok (content, reports), after) ∧
      o = { i with content } ∧ next = env.openSignature content) := by
  unfold expandInclude at h
  split at h
  case isTrue hmarked =>
    cases h
    exact .inl ⟨hmarked, rfl, rfl, rfl⟩
  case isFalse hopen =>
    have hunmarked : i.content.compiled = false := Bool.eq_false_iff.mpr hopen
    right
    rcases run_attempt_bind_eq_ok.mp h with ⟨sig, expanded, hsig, hrest⟩ |
      ⟨error, middle, hsoft, herror, hrest⟩
    · obtain ⟨content, filed, last, more, hsplice, hpure, rfl⟩ := run_bind_eq_ok.mp hrest
      cases hpure
      rw [List.append_nil]
      exact .inr ⟨hunmarked, sig, expanded, content, hsig, hsplice, rfl, rfl⟩
    · cases hrest
      exact .inl ⟨hunmarked, error, herror, hsoft, rfl, rfl, rfl⟩

theorem includeContent_belongsTo {owner : Identifier} {sig : Signature}
    (h : sig.BelongsTo owner) (env : Env) (i : Include) :
    (includeContent env i sig).BelongsTo i.parent := by
  have hmoved := h.reparent i.parent i.shadowed
  unfold includeContent
  dsimp only
  split
  case h_1 path _ => exact hmoved.strengthen path
  case h_2 => exact hmoved

end Pass

theorem Signature.compile_belongsTo (fuel : Nat) (env : Env) {sig : Signature} {owner : Identifier}
    (h : sig.BelongsTo owner) : (sig.compile fuel env).Yields fun out => out.BelongsTo owner := by
  cases fuel with
  | zero => exact ensures_abort _ _
  | succ fuel =>
    rw [Signature.compile]
    exact (Signature.pass_refines (Pass.start_splicesCompiled fuel) sig env).mono fun out hout =>
      hout.belongsTo h

/-- The three ways in which an include is compiled: it is in scope with the content it came with, or
it keeps that content out of scope and is reported, or it is in scope with a new content whose
members are members of its parent. -/
theorem Include.pass_spliced_or_kept {fuel : Nat} {env next : Env} {i o : Include}
    {loads after : Loads} {reports : List Report}
    (hrun : (i.pass (.start fuel) env).run loads = (.ok ((o, next), reports), after)) :
    o.parent = i.parent ∧ o.doc = i.doc ∧ o.shadowed = i.shadowed ∧
      ∃ declared middle later,
        (i.decl.pass (.start fuel) env i.parent).run loads = (.ok (o.decl, declared), middle) ∧
        ((Pass.start fuel).strengthening env i.strengthened).run middle =
          (.ok (o.strengthened, []), later) ∧
        ((i.content.compiled = true ∧
            o.content = i.content ∧ next = env.openSignature i.content ∧ reports = declared) ∨
          (i.content.compiled = false ∧ ∃ error,
            (Pass.start fuel).includedSignature env o.decl later = (.error (.fault error), after) ∧
            error.fetch? = none ∧
            o.content = i.content ∧ next = env ∧ reports = declared ++ [i.expandReport error]) ∨
          (i.content.compiled = false ∧ ∃ sig expanded filed,
            (Pass.start fuel).includedSignature env o.decl later = (.ok sig, expanded) ∧
            ((Pass.includeContent env o sig).compile fuel env).run expanded =
              (.ok (o.content, filed), after) ∧
            o.content.compiled = true ∧ next = env.openSignature o.content ∧
            reports = declared ++ filed ∧
            ∀ owner, sig.BelongsTo owner → o.content.BelongsTo i.parent)) := by
  obtain ⟨parent, doc, decl, strengthened, shadowed, content⟩ := i
  rw [Include.pass] at hrun
  obtain ⟨decl', declared, middle, rest, hdecl, hrest, rfl⟩ := run_bind_eq_ok.mp hrun
  obtain ⟨strengthened', unfiled, later, filed, hstrong, hexpand, rfl⟩ := run_bind_eq_ok.mp hrest
  obtain rfl : unfiled = [] :=
    (Pass.start fuel).strengthening_silent env strengthened middle _ _ later hstrong
  rw [List.nil_append]
  rcases Pass.expandInclude_cases hexpand with
    ⟨hmarked, rfl, rfl, rfl⟩ |
    ⟨hopen, error, herror, hsoft, rfl, rfl, rfl⟩ |
    ⟨hopen, sig, expanded, content', hsig, hsplice, rfl, rfl⟩
  · refine ⟨rfl, rfl, rfl, declared, middle, _, hdecl, hstrong, .inl ?_⟩
    exact ⟨hmarked, rfl, rfl, List.append_nil declared⟩
  · refine ⟨rfl, rfl, rfl, declared, middle, later, hdecl, hstrong, .inr (.inl ⟨hopen, ?_⟩)⟩
    exact ⟨error, herror, hsoft, rfl, rfl, rfl⟩
  · refine ⟨rfl, rfl, rfl, declared, middle, later, hdecl, hstrong, .inr (.inr ⟨hopen, ?_⟩)⟩
    have hmarked := Signature.yields_compiled fuel env _ expanded trivial _ _ _ hsplice
    refine ⟨sig, expanded, filed, hsig, hsplice, hmarked.2, rfl, rfl, fun owner howner => ?_⟩
    have hplaced := Pass.includeContent_belongsTo howner env
      ⟨parent, doc, decl', strengthened', shadowed, content⟩
    exact (Signature.compile_belongsTo fuel env hplaced expanded trivial _ _ _ hsplice).2

def Module.withAbstractType : Module :=
  ⟨.root "M", [], .typed (.signature (.ofItems [.type ⟨(Identifier.root "M").child .type "t", [],
    {}, none⟩])), false⟩

def Include.ofModule (path : Path) (content : Signature) : Include :=
  ⟨.root "A", [], .aliasOf path, none, {}, content⟩

theorem Include.pass_splices_module :
    let env := Env.empty.addModule .withAbstractType
    let t : TypeDecl := ⟨(Identifier.root "A").child .type "t", [],
      { manifest := some (.constr (.ofIdentifier ((Identifier.root "M").child .type "t")) []) }, none⟩
    let o := Include.ofModule (.ofIdentifier (.root "M")) ⟨[.type t], true, []⟩
    ((Include.ofModule (.root "M") (.ofItems [])).pass (.start 1) env).run {} =
        (.ok ((o, env.openSignature o.content), []), {}) ∧
      o.content.BelongsTo (.root "A") := by
  intro env t o
  have hrun : ((Include.ofModule (.root "M") (.ofItems [])).pass (.start 1) env).run {} =
      (.ok ((o, env.openSignature o.content), []), {}) := rfl
  refine ⟨hrun, ?_⟩
  obtain ⟨-, -, -, declared, middle, later, hdecl, hstrong, hcases⟩ :=
    Include.pass_spliced_or_kept hrun
  cases hdecl
  cases hstrong
  rcases hcases with ⟨hmarked, -⟩ | ⟨-, error, herror, -⟩ | ⟨-, sig, _, _, hsig, -, -, -, -, howned⟩
  · cases hmarked
  · cases herror
  · cases hsig
    apply howned (.root "M")
    simp [Signature.BelongsTo, Item.BelongsTo, Item.identifier?, Signature.ofItems, Identifier.parent?]

end CrossRef
