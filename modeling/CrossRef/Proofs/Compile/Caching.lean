import Mathlib.Data.List.Induction
import CrossRef.Proofs.Compile.Agreement
import CrossRef.Proofs.Compile.Containment
import CrossRef.Proofs.Lookup.Replay

/-! Keeping the units that were loaded saves requests and does nothing else. A run that keeps none
comes to the same end, and it makes the same requests again and again. -/

namespace CrossRef

open PassM

section EraseDups

variable {α : Type} [DecidableEq α] {a : α} {l : List α}

theorem eraseDups_concat_mem (h : a ∈ l) : (l ++ [a]).eraseDups = l.eraseDups := by
  rw [List.eraseDups_append]
  simp [List.removeAll, h]

theorem eraseDups_concat_new (h : a ∉ l) : (l ++ [a]).eraseDups = l.eraseDups ++ [a] := by
  rw [List.eraseDups_append]
  simp [List.removeAll, h, List.eraseDups_cons]

theorem nodup_eraseDups (l : List α) : l.eraseDups.Nodup := by
  induction l using List.reverseRecOn with
  | nil => simp
  | append_singleton l a ih =>
    by_cases h : a ∈ l
    · rw [eraseDups_concat_mem h]
      exact ih
    · rw [eraseDups_concat_new h, List.nodup_append]
      refine ⟨ih, List.nodup_cons.mpr ⟨List.not_mem_nil, List.nodup_nil⟩, ?_⟩
      rintro b hb _ hc rfl
      rw [List.mem_singleton.mp hc] at hb
      exact h (List.mem_eraseDups.mp hb)

end EraseDups

/-- The records of two runs at the same point, of which one keeps what it loads and the other does
not. So far every request was answered. The units that are kept are those that were asked for. -/
structure Loads.Shadows (r : Resolver) (kept bare : Loads) : Prop where
  caching : kept.caching = true
  keepsNone : bare.caching = false ∧ bare.units = []
  requests : kept.requests = bare.requests.eraseDups
  asked : ∀ root ∈ bare.requests, ∃ unit, r.loadUnit [] root = .ok unit ∧
    kept.unit? root = some unit
  unasked : ∀ root, root ∉ bare.requests → kept.unit? root = none

namespace Loads

variable {r : Resolver} {kept bare : Loads} {root : Identifier}

theorem shadows_start (r : Resolver) : Shadows r {} { caching := false } where
  caching := rfl
  keepsNone := ⟨rfl, rfl⟩
  requests := rfl
  asked := by simp
  unasked _ _ := rfl

theorem Shadows.unit?_bare (h : Shadows r kept bare) (root : Identifier) :
    bare.unit? root = none := by
  rw [unit?, h.keepsNone.2]
  rfl

theorem Shadows.repeated (h : Shadows r kept bare) (hr : r.Steady) {unit : CompilationUnit}
    (hroot : root ∈ bare.requests) (hload : r.loadUnit [] root = .ok unit) :
    (bare.request r root).1 = .ok unit ∧ Shadows r kept (bare.request r root).2 := by
  rw [request, hr bare.requests [], hload]
  refine ⟨rfl, h.caching, ⟨h.keepsNone.1, ?_⟩, ?_, ?_, ?_⟩
  · simp [h.keepsNone]
  · rw [h.requests, eraseDups_concat_mem hroot]
  · intro other hother
    rcases List.mem_append.mp hother with hother | hother
    · exact h.asked other hother
    · rw [List.mem_singleton.mp hother]
      exact h.asked root hroot
  · intro other hother
    exact h.unasked other fun hmem => hother (List.mem_append_left _ hmem)

theorem Shadows.requested (h : Shadows r kept bare) (hr : r.Steady) (hroot : root ∉ bare.requests) :
    (kept.request r root).1 = (bare.request r root).1 ∧
      (kept.request r root).2.requests = (bare.request r root).2.requests.eraseDups ∧
      ∀ unit, (kept.request r root).1 = .ok unit →
        Shadows r (kept.request r root).2 (bare.request r root).2 := by
  have hrequests : kept.requests ++ [root] = (bare.requests ++ [root]).eraseDups := by
    rw [eraseDups_concat_new hroot, h.requests]
  rw [request, request, hr kept.requests [], hr bare.requests []]
  cases hload : r.loadUnit [] root with
  | error error =>
    refine ⟨rfl, hrequests, ?_⟩
    rintro unit ⟨⟩
  | ok unit =>
    refine ⟨rfl, hrequests, ?_⟩
    rintro _ -
    refine ⟨h.caching, ⟨h.keepsNone.1, ?_⟩, hrequests, ?_, ?_⟩
    · simp [h.keepsNone]
    · intro other hother
      simp only [unit?, h.caching, if_true, List.lookup_cons]
      by_cases hsame : other = root
      · subst hsame
        exact ⟨unit, hload, by rw [beq_self_eq_true]⟩
      · have hbefore : other ∈ bare.requests := by simpa [hsame] using hother
        obtain ⟨unit', hload', hkept⟩ := h.asked other hbefore
        rw [beq_eq_false_iff_ne.mpr hsame]
        exact ⟨unit', hload', hkept⟩
    · intro other hother
      rw [List.mem_append, not_or, List.mem_singleton] at hother
      simp only [unit?, h.caching, if_true, List.lookup_cons, beq_eq_false_iff_ne.mpr hother.2]
      exact h.unasked other hother.1

end Loads

def LookupM.Shadowed {α : Type} (r : Resolver) (x y : LookupM α) : Prop :=
  ∀ kept bare, Loads.Shadows r kept bare →
    (x kept).1 = (y bare).1 ∧ (x kept).2.requests = (y bare).2.requests.eraseDups ∧
      (¬ Refused (x kept).1 → Loads.Shadows r (x kept).2 (y bare).2)

namespace LookupM

variable {α β : Type} {r : Resolver}

theorem shadowed_pure (a : α) : Shadowed r (pure a : LookupM α) (pure a) :=
  fun _ _ h => ⟨rfl, h.requests, fun _ => h⟩

theorem shadowed_throw (halt : Halt) : Shadowed r (throw halt : LookupM α) (throw halt) :=
  fun _ _ h => ⟨rfl, h.requests, fun _ => h⟩

theorem Shadowed.bind {x y : LookupM α} {f g : α → LookupM β} (h : Shadowed r x y)
    (hfg : ∀ a, Shadowed r (f a) (g a)) : Shadowed r (x >>= f) (y >>= g) := by
  intro kept bare hs
  obtain ⟨hsame, hrequests, hgoes⟩ := h kept bare hs
  rw [bind_apply, bind_apply]
  rcases hx : x kept with ⟨halt | a, kept'⟩ <;> rcases hy : y bare with ⟨halt' | b, bare'⟩ <;>
    simp only [hx, hy] at hsame hrequests hgoes <;> cases hsame
  · refine ⟨rfl, hrequests, fun hhalt => hgoes ?_⟩
    cases halt <;> exact hhalt
  · exact hfg a kept' bare' (hgoes not_false)

theorem Shadowed.orFail {x y : LookupM α} (error : ResolveError) (h : Shadowed r x y) :
    Shadowed r (x.orFail error) (y.orFail error) := by
  intro kept bare hs
  obtain ⟨hsame, hrequests, hgoes⟩ := h kept bare hs
  rw [orFail_softened, orFail_softened]
  refine ⟨by rw [hsame], hrequests, fun hhalt => hgoes ?_⟩
  rcases hx : (x kept).1 with (cause | _) | a
  · rw [hx] at hhalt
    cases cause with
    | fetch e => exact hhalt
    | _ => exact not_refused_of_soft rfl
  · exact not_false
  · exact not_false

theorem shadowed_fetch (hr : r.Steady) {e : Env} (he : e.resolver = some r) (root : Identifier) :
    Shadowed r (e.fetch root) (e.fetch root) := by
  intro kept bare hs
  have hkept := e.fetch_eq root kept
  have hbare := e.fetch_eq root bare
  rw [Env.knownUnit?, he] at hkept hbare
  generalize ((e.lookupById root).bind Component.opened?).bind Component.unit? = scope
    at hkept hbare
  cases scope with
  | some unit =>
    rw [hkept, hbare]
    exact ⟨rfl, hs.requests, fun _ => hs⟩
  | none =>
    rw [Option.none_or] at hkept hbare
    rw [hs.unit?_bare root] at hbare
    by_cases hasked : root ∈ bare.requests
    · obtain ⟨unit, hload, hunit⟩ := hs.asked root hasked
      obtain ⟨hanswer, hafter⟩ := hs.repeated hr hasked hload
      rw [hunit] at hkept
      simp only [hanswer] at hbare
      rw [hkept, hbare]
      exact ⟨rfl, hafter.requests, fun _ => hafter⟩
    · obtain ⟨hanswer, hrequests, hafter⟩ := hs.requested hr hasked
      rw [hs.unasked root hasked] at hkept
      simp only at hkept hbare
      rw [hkept, hbare, ← hanswer]
      refine ⟨rfl, hrequests, fun hgoes => ?_⟩
      cases hunit : (kept.request r root).1 with
      | ok unit => exact hafter unit hunit
      | error error =>
        rw [hunit] at hgoes
        exact absurd rfl hgoes

def shadowing (hr : r.Steady) : LookupRel where
  rel := Shadowed r
  env e e' := e.resolver = some r ∧ e = e'
  rel_pure := shadowed_pure
  rel_fail error _ := shadowed_throw (.fault error)
  rel_bind := Shadowed.bind
  rel_orFail error _ := Shadowed.orFail error
  env_answers := by
    rintro e _ ⟨-, rfl⟩
    exact .refl e
  env_push := by
    rintro e _ s ⟨he, rfl⟩
    exact ⟨he, rfl⟩
  rel_fetch := by
    rintro e _ root ⟨he, rfl⟩
    exact shadowed_fetch hr he root

theorem shadowing_fuel (hr : r.Steady) (fuel : Nat) : (shadowing hr).FuelRel fuel fuel := by
  refine LookupRel.fuelRel ?_ (shadowed_throw .outOfFuel) fuel
  rintro e _ ⟨-, rfl⟩
  rfl

end LookupM

def PassM.Shadowed {α : Type} (r : Resolver) (x y : PassM α) : Prop :=
  ∀ kept bare, Loads.Shadows r kept bare →
    (x.run kept).1 = (y.run bare).1 ∧
      (x.run kept).2.requests = (y.run bare).2.requests.eraseDups ∧
      ((∀ error, (x.run kept).1 ≠ .error (.fetch error)) →
        Loads.Shadows r (x.run kept).2 (y.run bare).2)

namespace PassM

variable {α β : Type} {r : Resolver}

theorem shadowed_pure (a : α) : Shadowed r (pure a : PassM α) (pure a) :=
  fun _ _ h => ⟨rfl, h.requests, fun _ => h⟩

theorem shadowed_file (report : Report) : Shadowed r (file report) (file report) :=
  fun _ _ h => ⟨rfl, h.requests, fun _ => h⟩

theorem Shadowed.bind {x y : PassM α} {f g : α → PassM β} (h : Shadowed r x y)
    (hfg : ∀ a, Shadowed r (f a) (g a)) : Shadowed r (x >>= f) (y >>= g) := by
  intro kept bare hs
  obtain ⟨hsame, hrequests, hgoes⟩ := h kept bare hs
  rcases hx : x.run kept with ⟨abort | ⟨a, filed⟩, kept'⟩ <;>
    rcases hy : y.run bare with ⟨abort' | ⟨b, filed'⟩, bare'⟩ <;>
    simp only [hx, hy] at hsame hrequests hgoes <;> cases hsame
  · rw [run_bind_error hx, run_bind_error hy]
    refine ⟨rfl, hrequests, fun hends => hgoes fun error herror => hends error ?_⟩
    cases herror
    rfl
  · rw [run_bind_ok hx, run_bind_ok hy]
    obtain ⟨hsame', hrequests', hgoes'⟩ := hfg a kept' bare' (hgoes (by rintro _ ⟨⟩))
    refine ⟨by rw [hsame'], hrequests', fun hends => hgoes' fun error herror => hends error ?_⟩
    rw [herror]
    rfl

theorem Shadowed.attempt {x y : LookupM α} {f g : Except ResolveError α → PassM β}
    (h : LookupM.Shadowed r x y) (hok : ∀ a, Shadowed r (f (.ok a)) (g (.ok a)))
    (herror : ∀ error, error.fetch? = none → Shadowed r (f (.error error)) (g (.error error))) :
    Shadowed r (attempt x >>= f) (attempt y >>= g) := by
  intro kept bare hs
  obtain ⟨hsame, hrequests, hgoes⟩ := h kept bare hs
  rw [run_attempt_bind, run_attempt_bind]
  rcases hx : x kept with ⟨outcome, kept'⟩
  rcases hy : y bare with ⟨outcome', bare'⟩
  simp only [hx, hy] at hsame hrequests hgoes
  subst hsame
  rcases outcome with (error | _) | a
  · cases hsoft : error.fetch? with
    | some e =>
      dsimp only
      rw [hsoft]
      exact ⟨rfl, hrequests, fun hends => absurd rfl (hends e)⟩
    | none =>
      dsimp only
      rw [hsoft]
      exact herror error hsoft kept' bare' (hgoes (LookupM.not_refused_of_soft hsoft))
  · exact ⟨rfl, hrequests, fun _ => hgoes not_false⟩
  · exact hok a kept' bare' (hgoes not_false)

theorem Shadowed.quietly {x y : PassM α} (h : Shadowed r x y) :
    Shadowed r x.quietly y.quietly := by
  intro kept bare hs
  obtain ⟨hsame, hrequests, hgoes⟩ := h kept bare hs
  rw [run_quietly, run_quietly]
  refine ⟨by rw [hsame], hrequests, fun hends => hgoes fun error herror => hends error ?_⟩
  rw [herror]
  rfl

def shadowing (hr : r.Steady) : PassRel where
  lookups := LookupM.shadowing hr
  rel := Shadowed r
  rel_pure := shadowed_pure
  rel_bind := Shadowed.bind
  rel_attempt := Shadowed.attempt
  rel_file report _ := shadowed_file report
  rel_quietly := Shadowed.quietly

end PassM

def Outcome.ofRun (unit : CompilationUnit) :
    Except Abort (CompilationUnit × List Report) → Outcome
  | .ok (unit, reports) => .compiled ⟨unit, reports⟩
  | .error (.fetch source) => .failed ⟨unit.name, source⟩
  | .error .outOfFuel => .outOfFuel

theorem compile_eq_ofRun (fuel : Nat) (resolver : Resolver) (options : ResolverOptions)
    (unit : CompilationUnit) :
    compile fuel resolver options unit =
      .ofRun unit ((unit.compileIn fuel (.create resolver options)).run {}).1 := by
  rw [compile]
  rcases (unit.compileIn fuel (.create resolver options)).run {} with
    ⟨(error | _) | ⟨compiled, reports⟩, after⟩ <;> rfl

def compileUncached (fuel : Nat) (resolver : Resolver) (options : ResolverOptions)
    (unit : CompilationUnit) : Outcome :=
  .ofRun unit ((unit.compileIn fuel (.create resolver options)).run { caching := false }).1

def uncachedRequests (fuel : Nat) (resolver : Resolver) (options : ResolverOptions)
    (unit : CompilationUnit) : List Identifier :=
  ((unit.compileIn fuel (.create resolver options)).run { caching := false }).2.requests

/-- With a steady resolver nobody sees whether units are kept. The outcome is the same, and the
requests are those of a run that keeps none, each made once. -/
theorem compile_cache_invisible (fuel : Nat) (resolver : Resolver) (hsteady : resolver.Steady)
    (options : ResolverOptions) (unit : CompilationUnit) :
    compile fuel resolver options unit = compileUncached fuel resolver options unit ∧
      compileRequests fuel resolver options unit =
        (uncachedRequests fuel resolver options unit).eraseDups ∧
      (compileRequests fuel resolver options unit).Nodup := by
  have shadowed : (unit.compileIn fuel (.create resolver options)).Shadowed resolver
      (unit.compileIn fuel (.create resolver options)) :=
    PassRel.compileIn (R := PassM.shadowing hsteady) (LookupM.shadowing_fuel hsteady)
      (fun _ _ h => ⟨rfl, h.requests, fun _ => h⟩) ⟨rfl, rfl⟩ fuel unit
  obtain ⟨hsame, hrequests, -⟩ := shadowed {} { caching := false } (Loads.shadows_start resolver)
  refine ⟨?_, hrequests, ?_⟩
  · rw [compile_eq_ofRun, compileUncached, hsame]
  · rw [compileRequests, hrequests]
    exact nodup_eraseDups _

def CompilationUnit.provider : CompilationUnit where
  id := .root "P"
  doc := []
  imports := []
  content := .module
    ⟨[.module ⟨(Identifier.root "P").child .module "M", [], .typed (.signature ⟨[], true, []⟩),
      false⟩], true, []⟩
  hidden := false

def CompilationUnit.twoAliases : CompilationUnit where
  id := .root "A"
  doc := []
  imports := []
  content := .module
    ⟨["X", "Y"].map fun name => .module ⟨(Identifier.root "A").child .module name, [],
      .aliasOf (.dot (.root "P") "M") none, false⟩, false, []⟩
  hidden := false

theorem compile_cache_invisible_twoAliases :
    uncachedRequests 1 (Catalog.toResolver { units := [.provider] }) {} .twoAliases =
        [.root "P", .root "P"] ∧
      compileRequests 1 (Catalog.toResolver { units := [.provider] }) {} .twoAliases =
        [Identifier.root "P", .root "P"].eraseDups :=
  ⟨rfl, (compile_cache_invisible 1 (Catalog.toResolver { units := [.provider] })
    (fun _ _ _ => rfl) {} .twoAliases).2.1⟩

end CrossRef
