import CrossRef.Proofs.Lookup.Correspondence
import CrossRef.Proofs.Lookup.Query

/-! A larger allowance keeps every answer. A lookup that runs out of its allowance fails, and no
lookup that succeeds has gone on from such a failure. -/

namespace CrossRef

namespace Env

structure Allows (e e' : Env) : Prop where
  resolver : e.resolver = e'.resolver
  scopes : e.scopes = e'.scopes
  limit : e.options.limit ≤ e'.options.limit

def withAllowance (env : Env) (limit : UInt64) : Env :=
  { env with options := { env.options with maxAliasDepth := limit } }

theorem allows_withAllowance (env : Env) {limit : UInt64}
    (h : env.options.maxAliasDepth ≤ limit) : env.Allows (env.withAllowance limit) :=
  ⟨rfl, rfl, UInt64.le_iff_toNat_le.mp h⟩

theorem Allows.push {e e' : Env} (h : e.Allows e') (s : Scope) : (e.push s).Allows (e'.push s) :=
  ⟨h.resolver, congrArg (s :: ·) h.scopes, h.limit⟩

theorem Allows.alike {e e' : Env} (h : e.Allows e') : e.Alike e' :=
  ⟨h.resolver, congrArg (List.map Scope.outline) h.scopes⟩

theorem Allows.fetch {e e' : Env} (h : e.Allows e') (root : Identifier) :
    e.fetch root = e'.fetch root := by
  funext loads
  rw [Env.fetch, Env.fetch, Env.unit, Env.unit, Env.lookupById, Env.lookupById, h.resolver,
    h.scopes]

end Env

namespace LookupM

variable {α β : Type}

def Kept (x y : LookupM α) : Prop :=
  ∀ loads a after, x loads = (.ok a, after) → y loads = (.ok a, after)

theorem Kept.refl (x : LookupM α) : x.Kept x := fun _ _ _ h => h

theorem kept_throw (halt : Halt) (y : LookupM α) : (throw halt : LookupM α).Kept y := by
  intro loads a after h
  cases h

theorem Kept.bind {x y : LookupM α} {f g : α → LookupM β} (hx : x.Kept y)
    (hf : ∀ a, (f a).Kept (g a)) : (x >>= f).Kept (y >>= g) := by
  intro loads b after h
  obtain ⟨a, middle, hx', hf'⟩ := bind_eq_ok.mp h
  exact bind_eq_ok.mpr ⟨a, middle, hx loads a middle hx', hf a middle b after hf'⟩

theorem orFail_eq_ok {x : LookupM α} {error : ResolveError} {loads after : Loads} {a : α} :
    x.orFail error loads = (.ok a, after) ↔ x loads = (.ok a, after) := by
  rw [orFail_apply]
  rcases x loads with ⟨(cause | _) | found, last⟩
  · cases hfetch : cause.fetch? with
    | none =>
      simp only [hfetch]
      constructor <;> rintro ⟨⟩
    | some fetch => simp only [hfetch]
  · exact .rfl
  · exact .rfl

theorem Kept.orFail {x y : LookupM α} (error : ResolveError) (h : x.Kept y) :
    (x.orFail error).Kept (y.orFail error) := by
  intro loads a after hx
  exact orFail_eq_ok.mpr (h loads a after (orFail_eq_ok.mp hx))

theorem result?_eq_some {x : LookupM α} {loads after : Loads} {a : α} :
    x.result? loads = (.ok (some a), after) ↔ x loads = (.ok a, after) := by
  simp only [result?, bind_apply, attempt]
  rcases x loads with ⟨(cause | _) | found, last⟩
  · cases hfetch : cause.fetch? <;> (simp only [hfetch]; constructor <;> rintro ⟨⟩)
  · constructor <;> rintro ⟨⟩
  · constructor <;> rintro ⟨⟩ <;> rfl

theorem Kept.result? {x y : LookupM α} (h : x.Kept y) {loads after : Loads} {a : Option α}
    (hx : x.result? loads = (.ok a, after)) (ha : a.isSome = true) :
    y.result? loads = (.ok a, after) := by
  obtain ⟨found, rfl⟩ := Option.isSome_iff_exists.mp ha
  exact result?_eq_some.mpr (h loads found after (result?_eq_some.mp hx))

def keeping : LookupRel where
  rel := Kept
  env := Env.Allows
  rel_pure a := .refl _
  rel_fail error _ := kept_throw _ _
  rel_bind := Kept.bind
  rel_orFail error _ := Kept.orFail error
  env_answers h := h.alike.sameAnswers
  env_push s h := h.push s
  rel_fetch root h := by
    rw [h.fetch root]
    exact .refl _

end LookupM

open LookupM

section Allowance

def KeptExpanding (expand expand' : Nat → Env → ModuleDecl → LookupM Expansion) : Prop :=
  ∀ {e e' : Env}, e.Allows e' → ∀ {budget budget' : Nat}, budget ≤ budget' → ∀ decl,
    (expand budget e decl).Kept (expand' budget' e' decl)

variable {expand expand' : Nat → Env → ModuleDecl → LookupM Expansion}
  (hexpand : KeptExpanding expand expand')

include hexpand

theorem keeping_ofFollow {budget budget' : Nat} (hbudget : budget ≤ budget')
    {follow follow' : Env → Target → LookupM Expansion}
    (hfollow : ∀ {e e' : Env}, e.Allows e' → ∀ target, (follow e target).Kept (follow' e' target)) :
    keeping.StepsRel (.ofFollow expand budget follow) (.ofFollow expand' budget' follow') where
  follow := hfollow
  reopen he decl := hexpand he hbudget decl
  restart he decl := hexpand he he.limit decl

theorem keeping_followTarget {budget budget' : Nat} (hbudget : budget ≤ budget') {e e' : Env}
    (he : e.Allows e') (target : Target) :
    (followTarget expand budget e target).Kept (followTarget expand' budget' e' target) := by
  -- With nothing left of the smaller allowance the lookup has failed, and there is nothing to keep.
  induction budget generalizing budget' e e' target with
  | zero => exact kept_throw _ _
  | succ budget ih =>
    obtain ⟨more, rfl⟩ := Nat.exists_eq_succ_of_ne_zero (Nat.ne_zero_of_lt hbudget)
    have hmore : budget ≤ more := Nat.le_of_succ_le_succ hbudget
    exact (keeping_ofFollow hexpand hmore (ih hmore)).step he target

theorem keeping_within {budget budget' : Nat} (hbudget : budget ≤ budget') :
    keeping.StepsRel (.within expand budget) (.within expand' budget') :=
  keeping_ofFollow hexpand hbudget (keeping_followTarget hexpand hbudget)

end Allowance

section Fuel

variable {fuel fuel' : Nat} (hfuel : fuel ≤ fuel')

include hfuel

theorem keptExpanding_expandDecl : KeptExpanding (expandDecl fuel) (expandDecl fuel') := by
  induction fuel generalizing fuel' with
  | zero =>
    intro e e' he budget budget' hbudget decl
    exact kept_throw _ _
  | succ fuel ih =>
    intro e e' he budget budget' hbudget decl
    obtain ⟨more, rfl⟩ := Nat.exists_eq_succ_of_ne_zero (Nat.ne_zero_of_lt hfuel)
    have steps := keeping_within (ih (Nat.le_of_succ_le_succ hfuel)) hbudget
    exact steps.moduleDecl he decl

theorem keeping_start {e e' : Env} (he : e.Allows e') :
    keeping.StepsRel (.start fuel e) (.start fuel' e') :=
  keeping_within (keptExpanding_expandDecl hfuel) he.limit

theorem kept_classTypeSignature {budget budget' : Nat} (hbudget : budget ≤ budget') {e e' : Env}
    (he : e.Allows e') (expr : ClassTypeExpr) :
    (classTypeSignature fuel budget e expr).Kept (classTypeSignature fuel' budget' e' expr) := by
  induction budget generalizing budget' expr with
  | zero =>
    cases expr with
    | signature sig =>
      rw [classTypeSignature, classTypeSignature]
      exact .refl _
    | constr path args => exact kept_throw _ _
  | succ budget ih =>
    obtain ⟨more, rfl⟩ := Nat.exists_eq_succ_of_ne_zero (Nat.ne_zero_of_lt hbudget)
    have hmore : budget ≤ more := Nat.le_of_succ_le_succ hbudget
    cases expr with
    | signature sig => exact .refl _
    | constr path args =>
      have steps := keeping_within (keptExpanding_expandDecl hfuel) hmore
      rw [classTypeSignature, classTypeSignature]
      refine (steps.classTypePath he path).bind fun target => ?_
      refine (steps.classComponent he target).bind fun component => ?_
      -- A class or a class type that has its expansion is done; otherwise its declaration is next.
      split
      · split
        · exact .refl _
        · exact ih hmore _
      · split
        · exact .refl _
        · exact ih hmore _
      · exact kept_throw _ _

theorem kept_aliasExpansion {e e' : Env} (he : e.Allows e') (p : Path) (strengthen : Bool) :
    (Lookup.aliasExpansion fuel e p strengthen).Kept
      (Lookup.aliasExpansion fuel' e' p strengthen) := by
  have steps := keeping_start hfuel he
  refine (steps.path he .module p).bind fun target => ?_
  exact (steps.follow he _).bind fun found => .refl _

theorem kept_signatureOf {e e' : Env} (he : e.Allows e') (component : Component) :
    (Lookup.signatureOf fuel e component).Kept (Lookup.signatureOf fuel' e' component) := by
  have steps := keeping_start hfuel he
  cases component with
  | module m => exact (steps.moduleDecl he m.decl).bind fun found => .refl _
  | moduleType m => exact (steps.moduleType he m).bind fun found => .refl _
  | parameter arg => exact (steps.moduleTypeExpr he arg.expr).bind fun found => .refl _
  | unit u => exact .refl _
  | _ => exact kept_throw _ _

end Fuel

/-- Every question that is answered is answered in the same way when lookups may follow more
aliases, and also when they are given more fuel. -/
theorem ask_withAllowance {α : Type} (q : Query α) {fuel fuel' : Nat} (hfuel : fuel ≤ fuel')
    (env : Env) {limit : UInt64} (hlimit : env.options.maxAliasDepth ≤ limit)
    {loads after : Loads} {answer : α} (hask : q.ask fuel env loads = (.ok answer, after))
    (hfound : q.Found answer) :
    q.ask fuel' (env.withAllowance limit) loads = (.ok answer, after) := by
  have he := env.allows_withAllowance hlimit
  have steps := keeping_start hfuel he
  cases q with
  | path kind p => exact steps.path he kind p _ _ _ hask
  | moduleExpansion p => exact steps.follow he (.module p) _ _ _ hask
  | moduleTypeExpansion p => exact steps.follow he (.moduleType p) _ _ _ hask
  | signatureOf component => exact kept_signatureOf hfuel he component _ _ _ hask
  | classSignatureOf component =>
    have kept := kept_classTypeSignature hfuel he.limit he
    cases component with
    | classDecl c => exact (kept c.decl.body).result? hask hfound
    | classType c => exact (kept c.expr).result? hask hfound
    | _ => exact hask
  | fragment ns f => exact Kept.result? (steps.fragment he he.alike.fragmentRoot? ns f) hask hfound
  | moduleTypeExpr expr => exact steps.moduleTypeExpr he expr _ _ _ hask
  | signatureExpr expr => exact steps.signatureExpr he expr _ _ _ hask
  | aliasExpansion p strengthen => exact kept_aliasExpansion hfuel he p strengthen _ _ _ hask
  | constrain c sig => exact steps.constrain he c sig _ _ _ hask

def Env.throughAlias : Env :=
  let unit := Identifier.root "A"
  let n := unit.child .module "N"
  let content := Signature.ofItems [.type ⟨n.child .type "t", [], {}, none⟩]
  let env : Env := { options := { maxAliasDepth := 3 } }
  (env.addModule ⟨n, [], .typed (.signature content), false⟩).addModule
    ⟨unit.child .module "M", [], .aliasOf (.root "N") none, false⟩

theorem ask_withAllowance_throughAlias :
    (Query.path .type (.dotted "M.t")).ask 0 .throughAlias {} =
        (.ok (.identifier (((Identifier.root "A").child .module "M").child .type "t")), {}) ∧
      (Query.path .type (.dotted "M.t")).ask 1 (Env.throughAlias.withAllowance 64) {} =
        (.ok (.identifier (((Identifier.root "A").child .module "M").child .type "t")), {}) := by
  refine ⟨rfl, ?_⟩
  exact ask_withAllowance _ (Nat.zero_le 1) .throughAlias (by decide) rfl trivial

end CrossRef
