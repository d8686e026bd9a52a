import CrossRef.Proofs.Lookup.Allowance
import CrossRef.Proofs.Lookup.Erasure
import CrossRef.Proofs.Path.Chain
import CrossRef.Proofs.Signature.Parallel

/-! Applied functors. An application expands to what the body of the functor expands to, with the
argument in place of the parameter in every path. Nothing in it goes through the parameter any
longer. -/

namespace CrossRef

def LeafRel.rerooting (source : Identifier) (target : ResolvedPath) : LeafRel where
  ident := Eq
  resolved := ResolvedPath.Rerooted source target

theorem LeafMap.reroot_follows (source : Identifier) (target : ResolvedPath) :
    (LeafMap.reroot source target).Follows (.rerooting source target) where
  ident _ := rfl
  path := Path.parallel_mapResolved ResolvedPath.rerooted_reroot
  var _ := rfl
  constr _ _ := rfl

namespace Expansion

def paths : Expansion → List Path
  | signature sig => sig.paths
  | functor param body => param.paths ++ body.paths

inductive Parallel (R : LeafRel) : Expansion → Expansion → Prop
  | signature {sig sig' : Signature} :
      sig.Parallel R sig' → Parallel R (.signature sig) (.signature sig')
  | functor {param param' : FunctorParameter} {body body' : ModuleTypeExpr} :
      param.Parallel R param' → body.Parallel R body' →
      Parallel R (.functor param body) (.functor param' body')

theorem parallel_mapLeaves {r : LeafMap} {R : LeafRel} (h : r.Follows R) (e : Expansion) :
    e.Parallel R (e.mapLeaves r) := by
  cases e with
  | signature sig => exact .signature (h.signature sig)
  | functor param body => exact .functor (h.functorParameter param) (h.moduleTypeExpr body)

theorem avoids_reroot {id : Identifier} {target : ResolvedPath} (h : target.Apart id)
    (e : Expansion) : ∀ path ∈ (e.reroot id target).paths, path.Avoids id := by
  have hcarries := LeafMap.reroot_carries h
  cases e with
  | signature sig =>
    exact (LeafTest.signature_iff _).mp (hcarries.all_signatures sig)
  | functor param body =>
    have hparam := hcarries.functorParameter param
      ((LeafTest.functorParameter_iff param).mpr fun _ _ => trivial)
    have hbody := hcarries.moduleTypeExpr body
      ((LeafTest.moduleTypeExpr_iff body).mpr fun _ _ => trivial)
    rw [reroot, mapLeaves, paths, List.forall_mem_append]
    exact ⟨(LeafTest.functorParameter_iff _).mp hparam, (LeafTest.moduleTypeExpr_iff _).mp hbody⟩

end Expansion

theorem Env.Allows.refl (env : Env) : env.Allows env := ⟨rfl, rfl, Nat.le_refl _⟩

namespace Lookup

/-- An application takes one unit of the allowance before the functor and its body are looked at,
but with all of it they would expand to the same. -/
theorem moduleExpansion_apply_eq_ok {fuel : Nat} {env : Env} {f x : ResolvedPath} {e : Expansion}
    {loads after : Loads}
    (h : moduleExpansion fuel env (.apply f x) loads = (.ok e, after)) :
    ∃ param body middle result,
      moduleExpansion fuel env f loads = (.ok (.functor param body), middle) ∧
      moduleTypeExpr fuel (env.addParameter param) body middle = (.ok result, after) ∧
      e = match param with
        | .named id _ => result.reroot id x
        | .unit => result := by
  cases hlimit : env.options.limit with
  | zero =>
    simp only [moduleExpansion, Steps.start, hlimit] at h
    cases h
  | succ budget =>
    have hmore : budget ≤ env.options.limit := hlimit ▸ Nat.le_succ budget
    have henv := Env.Allows.refl env
    have steps := keeping_within (keptExpanding_expandDecl (Nat.le_refl fuel)) hmore
    simp only [moduleExpansion, Steps.start, hlimit] at h
    obtain ⟨found, middle, hfound, h⟩ := LookupM.bind_eq_ok.mp h
    have hfunctor := steps.follow henv (.module f) _ _ _ hfound
    cases found with
    | signature sig => cases h
    | functor param body =>
      obtain ⟨result, last, hresult, h⟩ := LookupM.bind_eq_ok.mp h
      have hbody := steps.functorResult henv param body _ _ _ hresult
      refine ⟨param, body, middle, result, hfunctor, ?_⟩
      cases param with
      | unit =>
        cases h
        exact ⟨hbody, rfl⟩
      | named id expr =>
        cases h
        exact ⟨hbody, rfl⟩

/-- In what an applied functor expands to, no path goes through the parameter. The rest is as in the
expansion of the body, where paths that do not go through the parameter stay and the others start
from the argument. -/
theorem moduleExpansion_apply_reroots (fuel : Nat) (env : Env) {f x : ResolvedPath}
    {id : Identifier} {expr body : ModuleTypeExpr} {loads middle after : Loads}
    (hf : moduleExpansion fuel env f loads = (.ok (.functor (.named id expr) body), middle))
    (hx : x.Apart id) {e : Expansion}
    (h : moduleExpansion fuel env (.apply f x) loads = (.ok e, after)) :
    (∀ path ∈ e.paths, path.Avoids id) ∧
    ∃ result, moduleTypeExpr fuel (env.addArgument ⟨id, expr⟩) body middle = (.ok result, after) ∧
      result.Parallel (.rerooting id x) e := by
  obtain ⟨param, body', middle', result, hf', hbody, rfl⟩ := moduleExpansion_apply_eq_ok h
  rw [hf] at hf'
  cases hf'
  refine ⟨result.avoids_reroot hx, result, hbody, ?_⟩
  exact result.parallel_mapLeaves (LeafMap.reroot_follows id x)

def innerParameter (path : Path) : FunctorParameter :=
  let f := (Identifier.root "A").child .module "F"
  let y := f.result.child .parameter "Y"
  .named y (.signature (.ofItems [.value ⟨y.child .value "y", [], .constr path []⟩]))

def innerResult (path : Path) : ModuleTypeExpr :=
  let f := (Identifier.root "A").child .module "F"
  .signature (.ofItems [.value ⟨f.result.result.child .value "z", [], .constr path []⟩])

def outerParameter : FunctorArgument where
  id := ((Identifier.root "A").child .module "F").child .parameter "X"
  expr := .signature (.ofItems
    [.type ⟨(((Identifier.root "A").child .module "F").child .parameter "X").child .type "t", [],
      {}, none⟩])

def envWithCurried : Env :=
  let path := Path.ofIdentifier (outerParameter.id.child .type "t")
  Env.empty.addModule ⟨(Identifier.root "A").child .module "F", [],
    .typed (.functor (.named outerParameter.id outerParameter.expr)
      (.functor (innerParameter path) (innerResult path))), false⟩

theorem moduleExpansion_apply_reroots_curried :
    let f := ResolvedPath.identifier ((Identifier.root "A").child .module "F")
    let x := ResolvedPath.apply (.identifier (.root "G")) (.identifier (.root "N"))
    let path := Path.ofIdentifier (outerParameter.id.child .type "t")
    let path' := Path.resolved (x.dot .type "t")
    let e := Expansion.functor (innerParameter path') (innerResult path')
    moduleExpansion 0 envWithCurried (f.apply x) {} = (.ok e, {}) ∧
      (∀ p ∈ e.paths, p.Avoids outerParameter.id) ∧
      (Expansion.functor (innerParameter path) (innerResult path)).Parallel
        (.rerooting outerParameter.id x) e := by
  intro f x path path' e
  have hx : x.Apart outerParameter.id := by
    refine ⟨?_, by simp [x]⟩
    show ∀ part ∈ [Identifier.root "G", .root "N"], ¬ part.isWithin outerParameter.id = true
    decide
  have hf : moduleExpansion 0 envWithCurried f {} = (.ok (.functor
      (.named outerParameter.id outerParameter.expr)
      (.functor (innerParameter path) (innerResult path))), {}) := rfl
  have happly : moduleExpansion 0 envWithCurried (f.apply x) {} = (.ok e, {}) := rfl
  obtain ⟨havoids, result, hresult, hparallel⟩ :=
    moduleExpansion_apply_reroots 0 envWithCurried hf hx happly
  cases hresult
  exact ⟨happly, havoids, hparallel⟩

end Lookup

end CrossRef
