import CrossRef.Proofs.Lookup.Query
import CrossRef.Proofs.Lookup.Termination

/-! Declarations that refer to each other in a circle. Every lookup among them ends as long as the
constraints of the declarations name members of the signature they constrain. A constraint on a
member further down can lead a lookup back to where it started with its allowance untouched. -/

namespace CrossRef

open LookupM

variable {policy : Policy}

theorem LookupM.Completes.result? {α : Type} {x : LookupM α} {post : α → Prop}
    (hx : x.Completes policy post) : x.result?.Completes policy fun _ => True := by
  intro loads hloads
  obtain ⟨hafter, hx⟩ := hx loads hloads
  simp only [LookupM.result?, bind_apply, attempt]
  rcases hrun : x loads with ⟨(cause | _) | a, after⟩ <;> rw [hrun] at hafter hx
  · cases hfetch : cause.fetch? <;> simp only [hfetch] <;> exact ⟨hafter, trivial⟩
  · exact hx.elim
  · exact ⟨hafter, trivial⟩

namespace Steps.Settle

variable {s : Steps} (h : s.Settle policy)

include h

theorem constrainMember_ends {env : Env} (he : env.Orderly policy) (c : Constraint)
    (name : String) (sig : Signature) :
    (s.constrainMember env c name sig).Completes policy fun _ => True := by
  cases c with
  | moduleEq f decl =>
    simp only [Steps.constrainMember]
    split
    · exact completes_pure trivial
    · exact completes_fail _ _
  | moduleSubst f path =>
    simp only [Steps.constrainMember]
    refine (h.modulePath he path).bind fun target _ => ?_
    split
    · exact completes_pure trivial
    · exact completes_fail _ _
  | typeEq f eq =>
    simp only [Steps.constrainMember]
    split
    · exact completes_pure trivial
    · exact completes_fail _ _
  | typeSubst f eq =>
    simp only [Steps.constrainMember]
    split
    · exact completes_fail _ _
    · split
      · exact completes_pure trivial
      · exact completes_fail _ _

theorem constrainAt_ends
    (hreopen : ∀ {env : Env} {decl : ModuleDecl}, env.Orderly policy →
      decl.Orderly policy false → (s.reopen env decl).Completes policy (·.Orderly policy))
    (c : Constraint) (names : List String) {env : Env} (he : env.Orderly policy) {sig : Signature}
    (hsig : sig.Orderly policy false) :
    (s.constrainAt c env names sig).Completes policy fun _ => True := by
  -- Below a module the rest of the names is looked for in its expansion, in a larger scope.
  induction names generalizing env sig with
  | nil => exact completes_fail _ _
  | cons name rest ih =>
    cases rest with
    | nil => exact h.constrainMember_ends he c name sig
    | cons next rest =>
      simp only [Steps.constrainAt]
      split
      · exact completes_fail _ _
      · have hscope := he.openSignature hsig
        refine (hreopen hscope (hsig.module? ‹_›)).bind fun found hfound => ?_
        refine (completes_asSignature hfound).bind fun inner hinner => ?_
        refine (ih hscope hinner).bind fun changed _ => ?_
        split
        · exact completes_pure trivial
        · exact completes_fail _ _

end Steps.Settle

namespace Lookup

variable (fuel : Nat) {env : Env} (he : env.Orderly policy)

include he

theorem constrain_ends (c : Constraint) {sig : Signature} (hsig : sig.Orderly policy false) :
    (constrain (fuel + 1) env c sig).Completes policy fun _ => True := by
  simp only [constrain, Steps.constrain]
  split
  · refine (Steps.settle_start (fuel + 1) env).constrainAt_ends (fun he hdecl => ?_) c _ he hsig
    exact expandDecl_completes fuel _ he hdecl
  · exact completes_fail _ _

theorem aliasExpansion_ends (p : Path) (strengthen : Bool) :
    (aliasExpansion fuel env p strengthen).Completes policy fun _ => True := by
  refine (path_completes fuel he .module p).bind fun target _ => ?_
  refine Completes.bind (Steps.settle_start fuel env env _ he) fun found _ => ?_
  split <;> exact completes_pure trivial

theorem signatureOf_completes {component : Component} (hcomponent : component.Orderly policy) :
    (signatureOf fuel env component).Completes policy (·.Orderly policy false) := by
  have steps : (Steps.start fuel env).Settle policy := Steps.settle_start fuel env
  cases component with
  | module m =>
    have hm : m.Orderly policy false := hcomponent
    exact (steps.moduleDecl he hm.decl).bind fun _ => completes_asSignature
  | moduleType m => exact (steps.moduleType he hcomponent).bind fun _ => completes_asSignature
  | parameter arg => exact (steps.moduleTypeExpr he hcomponent).bind fun _ => completes_asSignature
  | unit u =>
    have hunit : u.Stands policy := hcomponent
    exact completes_pure hunit.orderly
  | _ => exact completes_fail _ _

theorem classSignatureOf_completes (component : Component) :
    (classSignatureOf fuel env component).Completes policy fun _ => True := by
  cases component with
  | classDecl c => exact (classSignature_completes fuel he c.decl.body).result?
  | classType c => exact (classSignature_completes fuel he c.expr).result?
  | _ => exact completes_pure trivial

end Lookup

def Query.Orderly (policy : Policy) : {α : Type} → Query α → Prop
  | _, .signatureOf component => component.Orderly policy
  | _, .moduleTypeExpr expr => expr.Orderly policy false
  | _, .signatureExpr expr => expr.Orderly policy false
  | _, .constrain _ sig => sig.Orderly policy false
  | _, _ => True

theorem Query.ask_completes {α : Type} {q : Query α} (hq : q.Orderly policy) (fuel : Nat)
    {env : Env} (he : env.Orderly policy) :
    (q.ask (fuel + 1) env).Completes policy fun _ => True := by
  have steps : (Steps.start (fuel + 1) env).Settle policy := Steps.settle_start _ env
  have ended {β : Type} {x : LookupM β} {post : β → Prop} (hx : x.Completes policy post) :
      x.Completes policy fun _ => True := hx.mono fun _ _ => trivial
  cases q with
  | path kind p => exact Lookup.path_completes _ he kind p
  | moduleExpansion p => exact ended (steps env _ he)
  | moduleTypeExpansion p => exact ended (steps env _ he)
  | signatureOf component => exact ended (Lookup.signatureOf_completes _ he hq)
  | classSignatureOf component => exact Lookup.classSignatureOf_completes _ he component
  | fragment ns f => exact (Lookup.fragment_completes fuel he ns f).result?
  | moduleTypeExpr expr => exact ended (steps.moduleTypeExpr he hq)
  | signatureExpr expr => exact ended (steps.signatureExpr he hq)
  | aliasExpansion p strengthen => exact Lookup.aliasExpansion_ends _ he p strengthen
  | constrain c sig => exact Lookup.constrain_ends fuel he c hq

/-- Every question is answered, or it fails, however the declarations refer to each other and
whatever the allowance is. -/
theorem ask_terminates {α : Type} {q : Query α} (hq : q.Orderly .free) {env : Env}
    (he : env.Orderly .free) {loads : Loads} (hloads : loads.Orderly .free) {fuel : Nat}
    (hfuel : 1 ≤ fuel) : (q.ask fuel env loads).1 ≠ .error .outOfFuel := by
  obtain ⟨rest, rfl⟩ := Nat.exists_eq_add_of_le' hfuel
  obtain ⟨-, hends⟩ := Query.ask_completes hq rest he loads hloads
  intro hspent
  rw [hspent] at hends
  exact hends

section Recursive

def Identifier.recursive : Identifier := (Identifier.root "A").child .moduleType "S"

def Constraint.int (place : ResolvedFragment) : Constraint :=
  .typeEq (.resolved place) { manifest := some (.constr (.ofIdentifier (.coreType "int")) []) }

def ModuleTypeExpr.recursive (place : ResolvedFragment) : ModuleTypeExpr :=
  .constrained [.int place] (.path (.ofIdentifier .recursive)) none

def Signature.recursive (place : ResolvedFragment) : Signature :=
  .ofItems
    [.type ⟨Identifier.recursive.child .type "t", [], {}, none⟩,
      .module ⟨Identifier.recursive.child .module "M", [], .typed (.recursive place), false⟩]

def ModuleType.recursive (place : ResolvedFragment) : ModuleType :=
  ⟨.recursive, [], some (.signature (.recursive place))⟩

def Env.recursive (place : ResolvedFragment) : Env := Env.empty.addModuleType (.recursive place)

def ResolvedFragment.near : ResolvedFragment := .type .root "t"

def ResolvedFragment.far : ResolvedFragment := .type (.module .root "M") "t"

theorem ask_terminates_near :
    (Env.recursive .near).Orderly .free ∧
      ((Query.moduleTypeExpr (.recursive .near)).ask 1 (.recursive .near) {}).1 ≠
        .error .outOfFuel := by
  have hexpr : (ModuleTypeExpr.recursive .near).Orderly .free false := by
    simp [ModuleTypeExpr.recursive, ModuleTypeExpr.Orderly, OrderlyConstraints, Constraint.int,
      Constraint.Orderly, SignatureExpr.Orderly, OrderlyExpansion, Fragment.Short, Fragment.segments,
      ResolvedFragment.near, ResolvedFragment.segments]
  have hsig : (Signature.recursive .near).Orderly .free false := by
    simp [Signature.recursive, Signature.ofItems, Signature.Orderly, OrderlyItems, Item.Orderly,
      Module.Orderly, ModuleDecl.Orderly, Policy.Clear, hexpr]
  have hmoduleType : (Component.moduleType (.recursive .near)).Orderly .free := by
    simp only [Component.Orderly, ModuleType.recursive, ModuleType.Orderly, ModuleTypeExpr.Orderly]
    exact hsig
  have henv : (Env.recursive .near).Orderly .free :=
    Env.orderly_empty.bind .recursive hmoduleType trivial
  have hq : (Query.moduleTypeExpr (.recursive .near)).Orderly .free := hexpr
  exact ⟨henv, ask_terminates hq henv Loads.orderly_empty (Nat.le_refl 1)⟩

def Env.BindsRecursive (env : Env) : Prop :=
  env.lookupById .recursive = some (.moduleType (.recursive .far))

theorem Env.BindsRecursive.openSignature {env : Env} (h : env.BindsRecursive) :
    (env.openSignature (.recursive .far)).BindsRecursive := h

section Steps

variable (expand : Nat → Env → ModuleDecl → LookupM Expansion) (budget : Nat) {env : Env}

theorem signatureExpr_recursive (h : env.BindsRecursive) :
    (Steps.within expand (budget + 1)).signatureExpr env (.path (.ofIdentifier .recursive)) =
      pure (.recursive .far) := by
  have hpath : (Steps.within expand (budget + 1)).moduleTypePath env (.ofIdentifier .recursive) =
      pure (.identifier .recursive) := rfl
  have hfollow : (Steps.within expand (budget + 1)).follow env
      (.moduleType (.identifier .recursive)) = pure (.signature (.recursive .far)) := by
    rw [Env.BindsRecursive] at h
    simp only [Steps.within, Steps.ofFollow, followTarget, Steps.step, Steps.findModuleType, h]
    rfl
  rw [Steps.signatureExpr, hpath, pure_bind, hfollow]
  rfl

theorem moduleTypeExpr_recursive (h : env.BindsRecursive) :
    ∃ rest, (Steps.within expand (budget + 1)).moduleTypeExpr env (.recursive .far) =
      expand (budget + 1) (env.openSignature (.recursive .far)) (.typed (.recursive .far)) >>=
        rest := by
  have hresolve : (Steps.within expand (budget + 1)).resolveFragment
      (env.addFragmentRoot (.recursive .far)) (.int .far) = pure (.int .far) := rfl
  obtain ⟨rest, hway⟩ : ∃ rest, (Steps.within expand (budget + 1)).constrain env (.int .far)
      (.recursive .far) = expand (budget + 1) (env.openSignature (.recursive .far))
        (.typed (.recursive .far)) >>= rest := ⟨_, rfl⟩
  have hall : (Steps.within expand (budget + 1)).constrainAll env [.int .far] (.recursive .far) =
      expand (budget + 1) (env.openSignature (.recursive .far)) (.typed (.recursive .far)) >>=
        rest := by
    simp only [Steps.constrainAll, hresolve, pure_bind, hway, bind_pure]
  refine ⟨fun found => .signature <$> rest found, ?_⟩
  rw [← map_bind, ← hall, ModuleTypeExpr.recursive, Steps.moduleTypeExpr, Steps.signatureExpr,
    signatureExpr_recursive expand budget h, pure_bind]

end Steps

theorem expandDecl_recursive (fuel budget : Nat) {env : Env} (h : env.BindsRecursive)
    (loads : Loads) :
    expandDecl fuel (budget + 1) env (.typed (.recursive .far)) loads =
      (.error .outOfFuel, loads) := by
  -- Each round opens `S` once more, so the environment grows and `S` stays bound in it.
  induction fuel generalizing env with
  | zero => rfl
  | succ fuel ih =>
    obtain ⟨rest, hrest⟩ := moduleTypeExpr_recursive (expandDecl fuel) budget h
    rw [expandDecl, Steps.moduleDecl, hrest, bind_apply, ih h.openSignature]

end Recursive

/-- The one constraint there is has a fragment that is resolved, and no fuel suffices to expand it. -/
theorem ask_far_never_ends :
    (Constraint.int .far).fragment.isResolved = true ∧
      ¬ ∃ fuel, ((Query.moduleTypeExpr (.recursive .far)).ask fuel (.recursive .far) {}).1 ≠
        .error .outOfFuel := by
  refine ⟨rfl, ?_⟩
  rintro ⟨fuel, hends⟩
  have hbound : (Env.recursive .far).BindsRecursive := rfl
  apply hends
  have hspent := expandDecl_recursive (fuel + 1) 63 hbound {}
  rw [Query.ask, Lookup.moduleTypeExpr]
  exact congrArg Prod.fst hspent

end CrossRef
