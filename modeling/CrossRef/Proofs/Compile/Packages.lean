import CrossRef.Proofs.Compile.Constraining

/-! What the types of a declaration report. Only packages do: one that has no signature is reported
once and its fragments stay as they are, and in one that has a signature each fragment that names no
type of it is reported. A lookup that the pass has made can be made again at its end, so each report
is justified by what the lookups say there. -/

namespace CrossRef

open PassM

inductive PackageSite where
  | moduleType (path : Path)
  | fragment (path : Path) (f : Fragment)

mutual

/-- The places of the packages in a type, in the order in which they stand. Those in the types that
the constraints of a package give come right after the fragment of the constraint. -/
def TypeExpr.packageSites : TypeExpr → List PackageSite
  | .var _ | .any => []
  | .arrow _ arg ret => arg.packageSites ++ ret.packageSites
  | .tuple types => packageSitesOfTypes types
  | .constr _ args => packageSitesOfTypes args
  | .variant _ elements => packageSitesOfElements elements
  | .object fields _ => packageSitesOfFields fields
  | .classRef _ args => packageSitesOfTypes args
  | .poly _ body => body.packageSites
  | .package path constraints => .moduleType path :: packageSitesOfConstraints path constraints

def packageSitesOfTypes : List TypeExpr → List PackageSite
  | [] => []
  | t :: ts => t.packageSites ++ packageSitesOfTypes ts

def packageSitesOfElements : List VariantElement → List PackageSite
  | [] => []
  | .type t :: es => t.packageSites ++ packageSitesOfElements es
  | .constructor _ _ args :: es => packageSitesOfTypes args ++ packageSitesOfElements es

def packageSitesOfFields : List ObjectField → List PackageSite
  | [] => []
  | .method _ t :: fs => t.packageSites ++ packageSitesOfFields fs
  | .inherit t :: fs => t.packageSites ++ packageSitesOfFields fs

def packageSitesOfConstraints (path : Path) : List PackageConstraint → List PackageSite
  | [] => []
  | ⟨f, t⟩ :: cs => .fragment path f :: (t.packageSites ++ packageSitesOfConstraints path cs)

end

section Settling

variable (fuel : Nat) (env : Env) (loads : Loads)

inductive Path.LeftAs (kind : PathKind) : Path → Path → Prop
  | kept (p : ResolvedPath) : LeftAs kind (.resolved p) (.resolved p)
  | found {path : Path} {p : ResolvedPath} : path.isResolved = false →
      Lookup.path fuel env kind path loads = (.ok p, loads) → LeftAs kind path (.resolved p)
  | missing {path : Path} {error : ResolveError} : path.isResolved = false →
      error.fetch? = none →
      Lookup.path fuel env kind path loads = (.error (.fault error), loads) →
      LeftAs kind path path

/-- The signature of a package by the path of its module type, or why it has none: the path is not
resolved, the module type does not expand, or it expands to a functor. -/
inductive Path.PackageSignature : Path → Except ResolveError Signature → Prop
  | signature {p : ResolvedPath} {sig : Signature} :
      Lookup.moduleTypeExpansion fuel env p loads = (.ok (.signature sig), loads) →
      PackageSignature (.resolved p) (.ok sig)
  | functor {p : ResolvedPath} {param : FunctorParameter} {body : ModuleTypeExpr} :
      Lookup.moduleTypeExpansion fuel env p loads = (.ok (.functor param body), loads) →
      PackageSignature (.resolved p) (.error .unexpectedFunctor)
  | unexpanded {p : ResolvedPath} {error : ResolveError} : error.fetch? = none →
      Lookup.moduleTypeExpansion fuel env p loads = (.error (.fault error), loads) →
      PackageSignature (.resolved p) (.error error)
  | unresolved {path : Path} : path.isResolved = false →
      PackageSignature path (.error (.unresolvedPath path.text))

structure PackageRoot (path left : Path) (outcome : Except ResolveError Signature) : Prop where
  path : path.LeftAs fuel env loads .moduleType left
  signature : left.PackageSignature fuel env loads outcome

inductive PackageSite.Settled (parent : Identifier) :
    PackageSite → PackageSite → Option Report → Prop
  | signature {path left : Path} {sig : Signature} :
      PackageRoot fuel env loads path left (.ok sig) →
      Settled parent (.moduleType path) (.moduleType left) none
  | noSignature {path left : Path} {error : ResolveError} :
      PackageRoot fuel env loads path left (.error error) →
      Settled parent (.moduleType path) (.moduleType left)
        (some { construct := .package, subject := left.text, phase := .lookup,
                parent := some parent, error := some error })
  | found {path left : Path} {sig : Signature} {f : Fragment} {resolved : ResolvedFragment} :
      PackageRoot fuel env loads path left (.ok sig) →
      Lookup.fragment fuel (env.addFragmentRoot sig) .type f loads = (.ok resolved, loads) →
      Settled parent (.fragment path f) (.fragment left (.resolved resolved)) none
  | missing {path left : Path} {sig : Signature} {f : Fragment} {error : ResolveError} :
      PackageRoot fuel env loads path left (.ok sig) → f.isResolved = false →
      error.fetch? = none →
      Lookup.fragment fuel (env.addFragmentRoot sig) .type f loads =
        (.error (.fault error), loads) →
      Settled parent (.fragment path f) (.fragment left f)
        (some { construct := .typeFragment, subject := f.text, phase := .resolve,
                parent := some parent })
  | skipped {path left : Path} {error : ResolveError} {f : Fragment} :
      PackageRoot fuel env loads path left (.error error) →
      Settled parent (.fragment path f) (.fragment left f) none

inductive PackagesAccounted (parent : Identifier) :
    List PackageSite → List PackageSite → List Report → Prop
  | nil : PackagesAccounted parent [] [] []
  | cons {site site' : PackageSite} {report : Option Report} {sites sites' : List PackageSite}
      {reports : List Report} : site.Settled fuel env loads parent site' report →
      PackagesAccounted parent sites sites' reports →
      PackagesAccounted parent (site :: sites) (site' :: sites') (report.toList ++ reports)

end Settling

section Unique

variable {fuel : Nat} {env : Env} {loads : Loads} {parent : Identifier}

theorem Path.LeftAs.unique {kind : PathKind} {path left left' : Path}
    (h : path.LeftAs fuel env loads kind left) (h' : path.LeftAs fuel env loads kind left') :
    left' = left := by
  cases h <;> cases h' <;> grind [Path.isResolved]

theorem Path.PackageSignature.unique {path : Path}
    {outcome outcome' : Except ResolveError Signature}
    (h : path.PackageSignature fuel env loads outcome)
    (h' : path.PackageSignature fuel env loads outcome') : outcome' = outcome := by
  cases h <;> cases h' <;> grind [Path.isResolved]

theorem PackageRoot.unique {path left left' : Path}
    {outcome outcome' : Except ResolveError Signature}
    (h : PackageRoot fuel env loads path left outcome)
    (h' : PackageRoot fuel env loads path left' outcome') : left' = left ∧ outcome' = outcome := by
  obtain rfl := h.path.unique h'.path
  exact ⟨rfl, h.signature.unique h'.signature⟩

theorem PackageSite.Settled.unique {site left left' : PackageSite} {report report' : Option Report}
    (h : site.Settled fuel env loads parent left report)
    (h' : site.Settled fuel env loads parent left' report') : left' = left ∧ report' = report := by
  -- Two rules for one place need two outcomes of one lookup.
  cases h <;> cases h' <;> grind [PackageRoot.unique]

end Unique

namespace PackagesAccounted

variable {fuel : Nat} {env : Env} {loads : Loads} {parent : Identifier}
  {sites left left' more moreLeft : List PackageSite} {reports reports' filed : List Report}

theorem append (h : PackagesAccounted fuel env loads parent sites left reports)
    (h' : PackagesAccounted fuel env loads parent more moreLeft filed) :
    PackagesAccounted fuel env loads parent (sites ++ more) (left ++ moreLeft)
      (reports ++ filed) := by
  induction h with
  | nil => exact h'
  | cons hsite _ ih =>
    rw [List.append_assoc]
    exact .cons hsite ih

theorem parent_eq (h : PackagesAccounted fuel env loads parent sites left reports) :
    ∀ report ∈ reports, report.parent = some parent := by
  induction h with
  | nil => simp
  | cons hsite _ ih =>
    intro report hreport
    rcases List.mem_append.mp hreport with hown | hrest
    · cases hsite with
      | signature | found | skipped => cases hown
      | noSignature | missing => rw [List.mem_singleton.mp hown]
    · exact ih report hrest

theorem unique (h : PackagesAccounted fuel env loads parent sites left reports)
    (h' : PackagesAccounted fuel env loads parent sites left' reports') :
    left' = left ∧ reports' = reports := by
  induction h generalizing left' reports' with
  | nil =>
    cases h'
    exact ⟨rfl, rfl⟩
  | cons hsite _ ih =>
    cases h' with
    | cons hsite' hrest =>
      obtain ⟨rfl, rfl⟩ := hsite.unique hsite'
      obtain ⟨rfl, rfl⟩ := ih hrest
      exact ⟨rfl, rfl⟩

end PackagesAccounted

namespace PassM

variable {α β : Type}

/-- The computation keeps the units it loads, and each result and the reports filed on the way meet
`Q` by what is loaded at the end or at any later time. -/
def FilesForGood (x : PassM α) (Q : Loads → α → List Report → Prop) : Prop :=
  ∀ loads, loads.caching = true → ∀ a reports after, x.run loads = (.ok (a, reports), after) →
    loads.Extends after ∧ ∀ later, after.Extends later → Q later a reports

theorem filesForGood_pure {a : α} {Q : Loads → α → List Report → Prop}
    (h : ∀ later, Q later a []) : (pure a : PassM α).FilesForGood Q := by
  intro loads hcaching b reports after hrun
  cases hrun
  exact ⟨.refl hcaching, fun later _ => h later⟩

theorem FilesForGood.bind {x : PassM α} {f : α → PassM β} {P : Loads → α → List Report → Prop}
    {Q : Loads → β → List Report → Prop} (hx : x.FilesForGood P)
    (hf : ∀ a filed, (f a).FilesForGood fun later b more =>
      P later a filed → Q later b (filed ++ more)) :
    (x >>= f).FilesForGood Q := by
  intro loads hcaching b reports after hrun
  obtain ⟨a, filed, middle, more, hxrun, hfrun, rfl⟩ := run_bind_eq_ok.mp hrun
  obtain ⟨hmiddle, ha⟩ := hx loads hcaching a filed middle hxrun
  obtain ⟨hafter, hb⟩ := hf a filed middle hmiddle.caching b more after hfrun
  refine ⟨hmiddle.trans hafter, fun later hlater => ?_⟩
  exact hb later hlater (ha later (hafter.trans hlater))

theorem FilesForGood.bind_pure {x : PassM α} {f : α → β} {P : Loads → α → List Report → Prop}
    {Q : Loads → β → List Report → Prop} (hx : x.FilesForGood P)
    (hf : ∀ later a reports, P later a reports → Q later (f a) reports) :
    (x >>= fun a => pure (f a)).FilesForGood Q := by
  refine hx.bind fun a filed => filesForGood_pure fun later ha => ?_
  rw [List.append_nil]
  exact hf later a filed ha

theorem FilesForGood.attempt {x : LookupM α} {f : Except ResolveError α → PassM β}
    {Q : Loads → β → List Report → Prop} (hx : x.Replays)
    (hok : ∀ a, (f (.ok a)).FilesForGood fun later b reports =>
      x later = (.ok a, later) → Q later b reports)
    (herror : ∀ error, error.fetch? = none →
      (f (.error error)).FilesForGood fun later b reports =>
        x later = (.error (.fault error), later) → Q later b reports) :
    (attempt x >>= f).FilesForGood Q := by
  intro loads hcaching b reports after hrun
  rcases run_attempt_bind_eq_ok.mp hrun with
    ⟨a, middle, hlookup, hfrun⟩ | ⟨error, middle, hsoft, hlookup, hfrun⟩
  · have hmiddle := hx.extends hcaching hlookup
    obtain ⟨hafter, hb⟩ := hok a middle hmiddle.caching b reports after hfrun
    refine ⟨hmiddle.trans hafter, fun later hlater => hb later hlater ?_⟩
    exact hx.again hcaching hlookup not_false (hafter.trans hlater)
  · have hmiddle := hx.extends hcaching hlookup
    obtain ⟨hafter, hb⟩ := herror error hsoft middle hmiddle.caching b reports after hfrun
    refine ⟨hmiddle.trans hafter, fun later hlater => hb later hlater ?_⟩
    exact hx.again hcaching hlookup (LookupM.not_refused_of_soft hsoft) (hafter.trans hlater)

theorem FilesForGood.file {report : Report} {a : α} {Q : Loads → α → List Report → Prop}
    (h : ∀ later, Q later a [report]) : (file report >>= fun _ => pure a).FilesForGood Q := by
  intro loads hcaching b reports after hrun
  cases hrun
  exact ⟨.refl hcaching, fun later _ => h later⟩

end PassM

section Lookups

variable (fuel : Nat) (env : Env)

theorem Pass.resolve_leaves (kind : PathKind) (path : Path) :
    (Pass.resolve fuel env kind path).FilesForGood fun later left reports =>
      reports = [] ∧ path.LeftAs fuel env later kind left := by
  cases hpath : path.isResolved with
  | true =>
    cases path with
    | resolved p => exact filesForGood_pure fun _ => ⟨rfl, .kept p⟩
    | _ => cases hpath
  | false =>
    rw [Pass.resolve_unresolved fuel env kind hpath]
    have replays : (Lookup.path fuel env kind path).Replays :=
      (LookupM.replaying_fuel fuel).path rfl kind path
    refine .attempt replays (fun p => ?_) fun error hsoft => ?_
    · exact filesForGood_pure fun _ hfound => ⟨rfl, .found hpath hfound⟩
    · exact filesForGood_pure fun _ hmissing => ⟨rfl, .missing hpath hsoft hmissing⟩

theorem Path.packageSignature_of_result {path : Path} {sig : Signature} {loads : Loads}
    (h : Pass.packageSignature fuel env path loads = (.ok sig, loads)) :
    path.PackageSignature fuel env loads (.ok sig) := by
  cases path with
  | resolved p =>
    obtain ⟨expansion, middle, hexpand, hcast⟩ := LookupM.bind_eq_ok.mp h
    cases expansion with
    | signature sig =>
      cases hcast
      exact .signature hexpand
    | functor param body => cases hcast
  | _ => cases h

theorem Path.packageSignature_of_failure {path : Path} {error : ResolveError} {loads : Loads}
    (hsoft : error.fetch? = none)
    (h : Pass.packageSignature fuel env path loads = (.error (.fault error), loads)) :
    path.PackageSignature fuel env loads (.error error) := by
  cases path with
  | resolved p =>
    rw [Pass.packageSignature, LookupM.bind_apply] at h
    rcases hexpand : Lookup.moduleTypeExpansion fuel env p loads with
      ⟨halt | (sig | ⟨param, body⟩), after⟩ <;> rw [hexpand] at h <;> cases h
    · exact .unexpanded hsoft hexpand
    · exact .functor hexpand
  | root _ | dot _ _ | apply _ _ =>
    cases h
    exact .unresolved rfl

theorem Pass.packageRoot_settles (parent : Identifier) (left : Path) :
    (Pass.packageRoot fuel env parent left).FilesForGood fun later root reports =>
      ∀ path : Path, path.LeftAs fuel env later .moduleType left →
        ∃ outcome, PackageRoot fuel env later path left outcome ∧ root = outcome.toOption ∧
          PackagesAccounted fuel env later parent [.moduleType path] [.moduleType left]
            reports := by
  have replays : (Pass.packageSignature fuel env left).Replays :=
    PassRel.packageSignature (R := growing) (LookupM.replaying_fuel fuel) rfl left
  refine .attempt replays (fun sig => ?_) fun error hsoft => ?_
  · refine filesForGood_pure fun later hrun path hpath => ?_
    have hroot : PackageRoot fuel env later path left (.ok sig) :=
      ⟨hpath, Path.packageSignature_of_result fuel env hrun⟩
    exact ⟨.ok sig, hroot, rfl, .cons (.signature hroot) .nil⟩
  · refine .file fun later hrun path hpath => ?_
    have hroot : PackageRoot fuel env later path left (.error error) :=
      ⟨hpath, Path.packageSignature_of_failure fuel env hsoft hrun⟩
    exact ⟨.error error, hroot, rfl, .cons (.noSignature hroot) .nil⟩

theorem Lookup.fragment_unresolved {ns : Namespace} {f : Fragment} {error : ResolveError}
    {loads after : Loads}
    (h : Lookup.fragment fuel env ns f loads = (.error (.fault error), after)) :
    f.isResolved = false := by
  cases f with
  | resolved resolved => cases h
  | root => rfl
  | dot parent name => rfl

theorem Pass.packageFragment_settles (parent : Identifier) (root : Option Signature)
    (f : Fragment) :
    (Pass.packageFragment fuel env parent root f).FilesForGood fun later f' reports =>
      ∀ (path left : Path) (outcome : Except ResolveError Signature),
        PackageRoot fuel env later path left outcome → root = outcome.toOption →
          PackagesAccounted fuel env later parent [.fragment path f] [.fragment left f']
            reports := by
  cases root with
  | none =>
    refine filesForGood_pure fun later path left outcome houtcome hroot => ?_
    cases outcome with
    | ok sig => cases hroot
    | error error => exact .cons (.skipped houtcome) .nil
  | some sig =>
    have replays : (Lookup.fragment fuel (env.addFragmentRoot sig) .type f).Replays :=
      (LookupM.replaying_fuel fuel).fragment rfl rfl .type f
    have houtcome (outcome : Except ResolveError Signature) (h : some sig = outcome.toOption) :
        outcome = .ok sig := by
      cases outcome <;> cases h
      rfl
    rw [Pass.packageFragment, attempt?, bind_assoc]
    simp only [pure_bind]
    refine .attempt replays (fun resolved => ?_) fun error hsoft => ?_
    · refine filesForGood_pure fun later hfound path left outcome hleft hroot => ?_
      cases houtcome outcome hroot
      exact .cons (.found hleft hfound) .nil
    · refine .file fun later hmissing path left outcome hleft hroot => ?_
      cases houtcome outcome hroot
      have hunresolved := Lookup.fragment_unresolved fuel _ hmissing
      exact .cons (.missing hleft hunresolved hsoft hmissing) .nil

end Lookups

section Types

variable (fuel : Nat) (env : Env)

mutual

theorem TypeExpr.compile_accounts (parent : Identifier) :
    ∀ t : TypeExpr, (t.compile fuel env parent).FilesForGood fun later out reports =>
      PackagesAccounted fuel env later parent t.packageSites out.packageSites reports
  | .var name => by
    rw [TypeExpr.compile]
    exact filesForGood_pure fun _ => .nil
  | .any => by
    rw [TypeExpr.compile]
    exact filesForGood_pure fun _ => .nil
  | .arrow label arg ret => by
    rw [TypeExpr.compile]
    refine (arg.compile_accounts parent).bind fun _ _ => ?_
    exact (ret.compile_accounts parent).bind_pure fun _ _ _ hret harg => harg.append hret
  | .tuple ts => by
    rw [TypeExpr.compile]
    exact (compileTypes_accounts parent ts).bind_pure fun _ _ _ h => h
  | .constr path args => by
    rw [TypeExpr.compile]
    refine (Pass.resolve_leaves fuel env .type path).bind fun _ _ => ?_
    refine (compileTypes_accounts parent args).bind_pure fun _ _ _ hargs => ?_
    rintro ⟨rfl, -⟩
    exact hargs
  | .variant kind es => by
    rw [TypeExpr.compile]
    exact (compileElements_accounts parent es).bind_pure fun _ _ _ h => h
  | .object fs isOpen => by
    rw [TypeExpr.compile]
    exact (compileFields_accounts parent fs).bind_pure fun _ _ _ h => h
  | .classRef path args => by
    rw [TypeExpr.compile]
    refine (Pass.resolve_leaves fuel env .classType path).bind fun _ _ => ?_
    refine (compileTypes_accounts parent args).bind_pure fun _ _ _ hargs => ?_
    rintro ⟨rfl, -⟩
    exact hargs
  | .poly vars body => by
    rw [TypeExpr.compile]
    exact (body.compile_accounts parent).bind_pure fun _ _ _ h => h
  | .package path cs => by
    rw [TypeExpr.compile]
    refine (Pass.resolve_leaves fuel env .moduleType path).bind fun left _ => ?_
    refine (Pass.packageRoot_settles fuel env parent left).bind fun root _ => ?_
    refine (compilePackage_accounts parent root cs).bind_pure fun _ _ _ hcs hroots => ?_
    rintro ⟨rfl, hpath⟩
    obtain ⟨outcome, houtcome, hroot, hreport⟩ := hroots path hpath
    exact hreport.append (hcs path left outcome houtcome hroot)

theorem compileTypes_accounts (parent : Identifier) :
    ∀ ts : List TypeExpr, (compileTypes fuel env parent ts).FilesForGood fun later out reports =>
      PackagesAccounted fuel env later parent (packageSitesOfTypes ts) (packageSitesOfTypes out)
        reports
  | [] => filesForGood_pure fun _ => .nil
  | t :: ts => by
    rw [compileTypes]
    refine (t.compile_accounts parent).bind fun _ _ => ?_
    exact (compileTypes_accounts parent ts).bind_pure fun _ _ _ hts ht => ht.append hts

theorem compileElements_accounts (parent : Identifier) :
    ∀ es : List VariantElement,
      (compileElements fuel env parent es).FilesForGood fun later out reports =>
        PackagesAccounted fuel env later parent (packageSitesOfElements es)
          (packageSitesOfElements out) reports
  | [] => filesForGood_pure fun _ => .nil
  | .type t :: es => by
    rw [compileElements]
    refine (t.compile_accounts parent).bind fun _ _ => ?_
    exact (compileElements_accounts parent es).bind_pure fun _ _ _ hes ht => ht.append hes
  | .constructor name constant args :: es => by
    rw [compileElements]
    refine (compileTypes_accounts parent args).bind fun _ _ => ?_
    exact (compileElements_accounts parent es).bind_pure fun _ _ _ hes hargs => hargs.append hes

theorem compileFields_accounts (parent : Identifier) :
    ∀ fs : List ObjectField,
      (compileFields fuel env parent fs).FilesForGood fun later out reports =>
        PackagesAccounted fuel env later parent (packageSitesOfFields fs)
          (packageSitesOfFields out) reports
  | [] => filesForGood_pure fun _ => .nil
  | .method name t :: fs => by
    rw [compileFields]
    refine (t.compile_accounts parent).bind fun _ _ => ?_
    exact (compileFields_accounts parent fs).bind_pure fun _ _ _ hfs ht => ht.append hfs
  | .inherit t :: fs => by
    rw [compileFields]
    refine (t.compile_accounts parent).bind fun _ _ => ?_
    exact (compileFields_accounts parent fs).bind_pure fun _ _ _ hfs ht => ht.append hfs

theorem compilePackage_accounts (parent : Identifier) (root : Option Signature) :
    ∀ cs : List PackageConstraint,
      (compilePackage fuel env parent root cs).FilesForGood fun later out reports =>
        ∀ (path left : Path) (outcome : Except ResolveError Signature),
          PackageRoot fuel env later path left outcome → root = outcome.toOption →
            PackagesAccounted fuel env later parent (packageSitesOfConstraints path cs)
              (packageSitesOfConstraints left out) reports
  | [] => filesForGood_pure fun _ _ _ _ _ _ => .nil
  | ⟨f, t⟩ :: cs => by
    rw [compilePackage]
    refine (Pass.packageFragment_settles fuel env parent root f).bind fun _ _ => ?_
    refine (t.compile_accounts parent).bind fun _ _ => ?_
    refine (compilePackage_accounts parent root cs).bind_pure fun later _ _ hcs ht hf => ?_
    intro path left outcome houtcome hroot
    have hrest := hcs path left outcome houtcome hroot
    exact (hf path left outcome houtcome hroot).append (ht.append hrest)

end

end Types

/-- Compiling a type reports its packages, in order, and nothing else. A package whose module type
is not found or does not expand to a signature is reported once, and its fragments are left as they
are. In any other package those fragments are reported, once each, that are left unresolved. What is
reported is determined by the lookups. -/
theorem TypeExpr.compile_reports_packages (fuel : Nat) (env : Env) (parent : Identifier)
    (t out : TypeExpr) (reports : List Report) (loads after : Loads)
    (hcaching : loads.caching = true)
    (h : (t.compile fuel env parent).run loads = (.ok (out, reports), after)) :
    PackagesAccounted fuel env after parent t.packageSites out.packageSites reports ∧
      (∀ left filed, PackagesAccounted fuel env after parent t.packageSites left filed →
        left = out.packageSites ∧ filed = reports) ∧
      ∀ report ∈ reports, report.parent = some parent := by
  have haccounts := t.compile_accounts fuel env parent
  obtain ⟨hafter, haccounted⟩ := haccounts loads hcaching out reports after h
  have hpackages := haccounted after (.refl hafter.caching)
  exact ⟨hpackages, fun _ _ h => hpackages.unique h, hpackages.parent_eq⟩

def ModuleType.withType : ModuleType :=
  let s := (Identifier.root "A").child .moduleType "S"
  ⟨s, [], some (.signature (.ofItems [.type ⟨s.child .type "t", [], {}, none⟩]))⟩

def TypeExpr.nestedPackages (path : Path) (fragment : Fragment) : TypeExpr :=
  let inner : TypeExpr := .package (.root "Gone") [⟨.dotted "u", .any⟩]
  .arrow none (.package path [⟨fragment, inner⟩, ⟨.dotted "v", .any⟩]) (.constr (.root "gone") [])

theorem TypeExpr.compile_reports_packages_nested :
    let parent := (Identifier.root "A").child .value "f"
    let s := Path.ofIdentifier ((Identifier.root "A").child .moduleType "S")
    let inside (path : Path) (f : Fragment) : List PackageSite :=
      [.moduleType path, .fragment path f, .moduleType (.root "Gone"),
        .fragment (.root "Gone") (.dotted "u"), .fragment path (.dotted "v")]
    PackagesAccounted 1 (Env.empty.addModuleType .withType) {} parent
        (inside (.root "S") (.dotted "t")) (inside s (.resolved (.type .root "t")))
        [{ construct := .package, subject := "Gone", phase := .lookup, parent := some parent,
           error := some (.unresolvedPath "Gone") },
         { construct := .typeFragment, subject := "v", phase := .resolve,
           parent := some parent }] :=
  (TypeExpr.compile_reports_packages 1 (Env.empty.addModuleType .withType)
    ((Identifier.root "A").child .value "f") (.nestedPackages (.root "S") (.dotted "t"))
    (.nestedPackages (.ofIdentifier ((Identifier.root "A").child .moduleType "S"))
      (.resolved (.type .root "t"))) _ {} {} rfl rfl).1

end CrossRef
