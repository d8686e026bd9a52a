import CrossRef.Proofs.Compile.Correspondence

/-! A unit that cannot be had ends the run. As long as a run goes on every request of it has been
answered, and a failed request is the last one. -/

namespace CrossRef

open PassM

namespace Resolver

def Answered (r : Resolver) (requests : List Identifier) : Prop :=
  ∀ earlier root later, requests = earlier ++ root :: later →
    ∃ unit, r.loadUnit earlier root = .ok unit

def Refused (r : Resolver) (requests : List Identifier) (error : FetchError) : Prop :=
  ∃ earlier root, requests = earlier ++ [root] ∧ r.Answered earlier ∧
    r.loadUnit earlier root = .error error

theorem answered_nil (r : Resolver) : r.Answered [] := by
  intro earlier root later h
  simp at h

theorem split_last {requests earlier later : List Identifier} {last root : Identifier}
    (h : requests ++ [last] = earlier ++ root :: later) :
    (later = [] ∧ earlier = requests ∧ root = last) ∨
      ∃ rest, later = rest ++ [last] ∧ requests = earlier ++ root :: rest := by
  rcases List.eq_nil_or_concat later with rfl | ⟨rest, x, rfl⟩
  · obtain ⟨hrequests, hlast⟩ := List.append_inj' h rfl
    exact .inl ⟨rfl, hrequests.symm, (List.cons.inj hlast).1.symm⟩
  · rw [List.concat_eq_append, ← List.cons_append, ← List.append_assoc] at h
    obtain ⟨hrequests, hlast⟩ := List.append_inj' h rfl
    refine .inr ⟨rest, ?_, hrequests⟩
    rw [List.concat_eq_append, (List.cons.inj hlast).1]

theorem Answered.append {r : Resolver} {requests : List Identifier} (h : r.Answered requests)
    {root : Identifier} {unit : CompilationUnit} (hunit : r.loadUnit requests root = .ok unit) :
    r.Answered (requests ++ [root]) := by
  intro earlier asked later hsplit
  rcases split_last hsplit with ⟨-, rfl, rfl⟩ | ⟨rest, -, hrequests⟩
  · exact ⟨unit, hunit⟩
  · exact h earlier asked rest hrequests

theorem Refused.last {r : Resolver} {requests : List Identifier} {error : FetchError}
    (h : r.Refused requests error) {earlier later : List Identifier} {root : Identifier}
    {other : FetchError} (hsplit : requests = earlier ++ root :: later)
    (hother : r.loadUnit earlier root = .error other) : later = [] ∧ other = error := by
  obtain ⟨before, last, rfl, hanswered, herror⟩ := h
  rcases split_last hsplit with ⟨hlater, rfl, rfl⟩ | ⟨rest, -, hbefore⟩
  · rw [herror] at hother
    cases hother
    exact ⟨hlater, rfl⟩
  · obtain ⟨unit, hunit⟩ := hanswered earlier root rest hbefore
    rw [hunit] at hother
    cases hother

end Resolver

def LookupM.Tracked {α : Type} (r : Resolver) (x : LookupM α) : Prop :=
  ∀ loads, r.Answered loads.requests →
    match x loads with
    | (.error (.fault (.fetch error)), after) => r.Refused after.requests error
    | (_, after) => r.Answered after.requests

namespace LookupM

theorem tracked_pure {α : Type} (r : Resolver) (a : α) : (pure a : LookupM α).Tracked r :=
  fun _ h => h

theorem tracked_fail {α : Type} (r : Resolver) (error : ResolveError)
    (hsoft : error.fetch? = none) : (fail error : LookupM α).Tracked r := by
  intro loads h
  rw [fail_apply]
  cases error with
  | fetch e => cases hsoft
  | _ => exact h

theorem Tracked.bind {α β : Type} {r : Resolver} {x : LookupM α} {f : α → LookupM β}
    (hx : x.Tracked r) (hf : ∀ a, (f a).Tracked r) : (x >>= f).Tracked r := by
  intro loads h
  have hx := hx loads h
  rw [bind_apply]
  rcases hrun : x loads with ⟨(cause | _) | a, after⟩ <;> rw [hrun] at hx
  · cases cause <;> exact hx
  · exact hx
  · exact hf a after hx

theorem Tracked.orFail {α : Type} {r : Resolver} {x : LookupM α} (error : ResolveError)
    (hsoft : error.fetch? = none) (hx : x.Tracked r) : (x.orFail error).Tracked r := by
  intro loads h
  have hx := hx loads h
  rw [orFail_apply]
  rcases hrun : x loads with ⟨(cause | _) | a, after⟩ <;> rw [hrun] at hx
  · cases cause with
    -- A failed fetch is passed on as it is. This is what keeps it the last request.
    | fetch e => exact hx
    | _ => exact tracked_fail (α := α) r error hsoft after hx
  · exact hx
  · exact hx

theorem tracked_fetch {r : Resolver} {e : Env} (he : e.resolver = some r) (root : Identifier) :
    (e.fetch root).Tracked r := by
  intro loads h
  rw [Env.fetch, Env.unit_eq he]
  cases e.knownUnit? root loads with
  | some unit => exact h
  | none =>
    rw [Loads.request]
    cases hload : r.loadUnit loads.requests root with
    | ok unit => exact h.append hload
    | error error => exact ⟨loads.requests, root, rfl, h, hload⟩

def tracking (r : Resolver) : LookupRel where
  rel x _ := x.Tracked r
  env e e' := e = e' ∧ e.resolver = some r
  rel_pure := tracked_pure r
  rel_fail := tracked_fail r
  rel_bind := Tracked.bind
  rel_orFail := Tracked.orFail
  env_answers := by
    rintro e _ ⟨rfl, -⟩
    exact .refl e
  env_push := by
    rintro e _ s ⟨rfl, he⟩
    exact ⟨rfl, he⟩
  rel_fetch root he := tracked_fetch he.2 root

theorem tracking_fuel (r : Resolver) (fuel : Nat) : (tracking r).FuelRel fuel fuel := by
  refine LookupRel.fuelRel ?_ (fun _ h => h) fuel
  rintro e _ ⟨rfl, -⟩
  rfl

end LookupM

def PassM.Contained {α : Type} (r : Resolver) (x : PassM α) : Prop :=
  ∀ loads, r.Answered loads.requests →
    match x.run loads with
    | (.ok (_, reports), after) =>
      r.Answered after.requests ∧
        ∀ report ∈ reports, report.error.bind ResolveError.fetch? = none
    | (.error (.fetch error), after) => r.Refused after.requests error
    | (.error .outOfFuel, after) => r.Answered after.requests

namespace PassM

theorem contained_pure {α : Type} (r : Resolver) (a : α) : (pure a : PassM α).Contained r := by
  intro loads h
  exact ⟨h, by simp⟩

theorem contained_file (r : Resolver) (report : Report)
    (hsoft : report.error.bind ResolveError.fetch? = none) : (file report).Contained r := by
  intro loads h
  refine ⟨h, ?_⟩
  intro filed hfiled
  rw [List.mem_singleton.mp hfiled]
  exact hsoft

theorem Contained.bind {α β : Type} {r : Resolver} {x : PassM α} {f : α → PassM β}
    (hx : x.Contained r) (hf : ∀ a, (f a).Contained r) : (x >>= f).Contained r := by
  intro loads h
  have hx := hx loads h
  rw [run_bind]
  rcases hrun : x.run loads with ⟨(error | _) | ⟨a, reports⟩, after⟩ <;> rw [hrun] at hx
  · exact hx
  · exact hx
  · have hf := hf a after hx.1
    dsimp only
    rcases hrun' : (f a).run after with ⟨(error | _) | ⟨b, more⟩, last⟩ <;> rw [hrun'] at hf
    · exact hf
    · exact hf
    · refine ⟨hf.1, ?_⟩
      intro report hreport
      rcases List.mem_append.mp hreport with hreport | hreport
      · exact hx.2 report hreport
      · exact hf.2 report hreport

theorem Contained.attempt {α β : Type} {r : Resolver} {x : LookupM α}
    {f : Except ResolveError α → PassM β} (hx : x.Tracked r) (hok : ∀ a, (f (.ok a)).Contained r)
    (herror : ∀ error, error.fetch? = none → (f (.error error)).Contained r) :
    (attempt x >>= f).Contained r := by
  intro loads h
  have hx := hx loads h
  rw [run_attempt_bind]
  rcases hrun : x loads with ⟨(error | _) | a, after⟩ <;> rw [hrun] at hx
  · cases error with
    | fetch e => exact hx
    | _ => exact herror _ rfl after hx
  · exact hx
  · exact hok a after hx

theorem Contained.quietly {α : Type} {r : Resolver} {x : PassM α} (hx : x.Contained r) :
    x.quietly.Contained r := by
  intro loads h
  have hx := hx loads h
  rw [run] at hx ⊢
  rw [PassM.quietly]
  rcases hrun : x loads with ⟨(error | _) | ⟨a, reports⟩, after⟩ <;> rw [hrun] at hx
  · exact hx
  · exact hx
  · exact ⟨hx.1, by simp⟩

def containment (r : Resolver) : PassRel where
  lookups := LookupM.tracking r
  rel x _ := x.Contained r
  rel_pure := contained_pure r
  rel_bind := Contained.bind
  rel_attempt := Contained.attempt
  rel_file := contained_file r
  rel_quietly := Contained.quietly

end PassM

theorem CompilationUnit.contained_compileIn (r : Resolver) (options : ResolverOptions) (fuel : Nat)
    (unit : CompilationUnit) : (unit.compileIn fuel (.create r options)).Contained r :=
  PassRel.compileIn (LookupM.tracking_fuel r) (R := containment r) (fun _ h => h) ⟨rfl, rfl⟩ fuel
    unit

def compileRequests (fuel : Nat) (resolver : Resolver) (options : ResolverOptions)
    (unit : CompilationUnit) : List Identifier :=
  ((unit.compileIn fuel (.create resolver options)).run {}).2.requests

theorem compile_outcome (fuel : Nat) (resolver : Resolver) (options : ResolverOptions)
    (unit : CompilationUnit) :
    match compile fuel resolver options unit with
    | .compiled result =>
      resolver.Answered (compileRequests fuel resolver options unit) ∧
        ∀ report ∈ result.reports, report.error.bind ResolveError.fetch? = none
    | .failed failure =>
      failure.unit = unit.name ∧
        resolver.Refused (compileRequests fuel resolver options unit) failure.source
    | .outOfFuel => resolver.Answered (compileRequests fuel resolver options unit) := by
  have h := unit.contained_compileIn resolver options fuel {} resolver.answered_nil
  rw [compile, compileRequests]
  rcases hrun : (unit.compileIn fuel (.create resolver options)).run {} with
    ⟨(error | _) | ⟨compiled, reports⟩, after⟩ <;> rw [hrun] at h
  · exact ⟨rfl, h⟩
  · exact h
  · exact h

/-- A run fails exactly if one of its requests fails. The failure names the unit that was compiled
and the error of that request, which is the last one made. Reports of a run that does not fail carry
no failed fetch. -/
theorem compile_fails_iff_request_fails (fuel : Nat) (resolver : Resolver)
    (options : ResolverOptions) (unit : CompilationUnit) :
    ((∃ failure, compile fuel resolver options unit = .failed failure) ↔
      ∃ earlier root later error,
        compileRequests fuel resolver options unit = earlier ++ root :: later ∧
          resolver.loadUnit earlier root = .error error) ∧
    (∀ failure, compile fuel resolver options unit = .failed failure →
      failure.unit = unit.name ∧
        ∀ earlier root later error,
          compileRequests fuel resolver options unit = earlier ++ root :: later →
          resolver.loadUnit earlier root = .error error →
          later = [] ∧ failure.source = error) ∧
    ∀ result, compile fuel resolver options unit = .compiled result →
      ∀ report ∈ result.reports, ∀ error, report.error ≠ some (.fetch error) := by
  have h := compile_outcome fuel resolver options unit
  have unanswered (hanswered : resolver.Answered (compileRequests fuel resolver options unit)) :
      ¬ ∃ earlier root later error,
        compileRequests fuel resolver options unit = earlier ++ root :: later ∧
          resolver.loadUnit earlier root = .error error := by
    rintro ⟨earlier, root, later, error, hsplit, herror⟩
    obtain ⟨loaded, hloaded⟩ := hanswered earlier root later hsplit
    rw [hloaded] at herror
    cases herror
  cases hcompile : compile fuel resolver options unit with
  | compiled result =>
    rw [hcompile] at h
    refine ⟨⟨by rintro ⟨_, ⟨⟩⟩, fun hfailed => absurd hfailed (unanswered h.1)⟩, by rintro _ ⟨⟩, ?_⟩
    rintro _ ⟨⟩ report hreport error herror
    have hsoft := h.2 report hreport
    rw [herror] at hsoft
    cases hsoft
  | failed failure =>
    rw [hcompile] at h
    obtain ⟨hname, hrefused⟩ := h
    refine ⟨⟨fun _ => ?_, fun _ => ⟨failure, rfl⟩⟩, ?_, by rintro _ ⟨⟩⟩
    · obtain ⟨earlier, root, hrequests, -, herror⟩ := hrefused
      exact ⟨earlier, root, [], failure.source, hrequests, herror⟩
    · rintro _ ⟨⟩
      refine ⟨hname, fun earlier root later error hsplit herror => ?_⟩
      obtain ⟨hlast, hsource⟩ := hrefused.last hsplit herror
      exact ⟨hlast, hsource.symm⟩
  | outOfFuel =>
    rw [hcompile] at h
    exact ⟨⟨by rintro ⟨_, ⟨⟩⟩, fun hfailed => absurd hfailed (unanswered h)⟩, by rintro _ ⟨⟩,
      by rintro _ ⟨⟩⟩

end CrossRef
