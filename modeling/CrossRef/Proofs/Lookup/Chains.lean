import CrossRef.Lookup

/-! What chains of aliases cost. An alias takes two units of the allowance of a lookup: one to read
the path that it is declared with, one for the module that this path names. A module-type path takes
one, and so does the module that the lookup starts from. With that much the lookup finds what stands
at the end of the chain, and with less it gives up. -/

namespace CrossRef

namespace ModuleTypeExpr

def ready? : ModuleTypeExpr → Option Expansion
  | signature sig => some (.signature sig)
  | functor param body => some (.functor param body)
  | path _ stored | constrained _ _ stored | typeOf _ stored => stored.map (·.toExpansion)

end ModuleTypeExpr

namespace ModuleDecl

def ready? : ModuleDecl → Option Expansion
  | aliasOf _ stored => stored.map (·.toExpansion)
  | typed expr => expr.ready?

end ModuleDecl

def Component.declaration? : Component → Option ModuleDecl
  | module m => some m.decl
  | parameter arg => some (.typed arg.expr)
  | unit u => some (.typed (.signature u.content.signature))
  | _ => none

namespace Env

def declaration? (env : Env) (id : Identifier) : Option ModuleDecl :=
  (env.lookupById id).bind Component.declaration?

/-- From the declaration one comes to the expansion over so many aliases and so many module-type
paths, all of them through identifiers in scope. -/
inductive Chain (env : Env) : ModuleDecl → (aliases paths : Nat) → Expansion → Prop
  | ready {decl : ModuleDecl} {e : Expansion} : decl.ready? = some e → Chain env decl 0 0 e
  | aliasOf {id : Identifier} {decl : ModuleDecl} {aliases paths : Nat} {e : Expansion} :
      env.declaration? id = some decl → Chain env decl aliases paths e →
      Chain env (.aliasOf (.ofIdentifier id) none) (aliases + 1) paths e
  | path {id : Identifier} {m : ModuleType} {expr : ModuleTypeExpr} {aliases paths : Nat}
      {e : Expansion} :
      env.lookupById id = some (.moduleType m) → m.expr = some expr →
      Chain env (.typed expr) aliases paths e →
      Chain env (.typed (.path (.ofIdentifier id) none)) aliases (paths + 1) e

end Env

namespace Steps

variable (s : Steps) {env : Env}

theorem moduleTypeExpr_of_ready {expr : ModuleTypeExpr} {e : Expansion}
    (h : expr.ready? = some e) : s.moduleTypeExpr env expr = pure e := by
  cases expr with
  | signature sig =>
    cases h
    rw [moduleTypeExpr]
  | functor param body =>
    cases h
    rw [moduleTypeExpr]
  | _ =>
    obtain ⟨stored, rfl, rfl⟩ := Option.map_eq_some_iff.mp h
    rw [moduleTypeExpr]

theorem moduleDecl_of_ready {decl : ModuleDecl} {e : Expansion} (h : decl.ready? = some e) :
    s.moduleDecl env decl = pure e := by
  cases decl with
  | aliasOf path stored =>
    obtain ⟨stored, rfl, rfl⟩ := Option.map_eq_some_iff.mp h
    rfl
  | typed expr => exact s.moduleTypeExpr_of_ready h

theorem identifier_of_declaration {id : Identifier} {decl : ModuleDecl}
    (h : env.declaration? id = some decl) : s.identifier env id = s.moduleDecl env decl := by
  obtain ⟨component, hbound, hdecl⟩ := Option.bind_eq_some_iff.mp h
  rw [identifier, hbound]
  cases component with
  | module m =>
    cases hdecl
    rfl
  | parameter arg =>
    cases hdecl
    rfl
  | unit u =>
    cases hdecl
    simp only [moduleDecl, moduleTypeExpr]
  | _ => cases hdecl

end Steps

section Links

variable (expand : Nat → Env → ModuleDecl → LookupM Expansion) (budget : Nat) {env : Env}
  {id : Identifier}

theorem followTarget_module {decl : ModuleDecl} (h : env.declaration? id = some decl) :
    followTarget expand (budget + 1) env (.module (.identifier id)) =
      (Steps.within expand budget).moduleDecl env decl :=
  (Steps.within expand budget).identifier_of_declaration h

theorem followTarget_aliased :
    followTarget expand (budget + 1) env (.aliased (.ofIdentifier id)) =
      followTarget expand budget env (.module (.identifier id)) := rfl

theorem followTarget_moduleType {m : ModuleType} {expr : ModuleTypeExpr}
    (hbound : env.lookupById id = some (.moduleType m)) (hexpr : m.expr = some expr) :
    followTarget expand (budget + 1) env (.moduleType (.identifier id)) =
      (Steps.within expand budget).moduleDecl env (.typed expr) := by
  have hfind : (Steps.within expand budget).findModuleType env (.identifier id) =
      pure (m, env) := by
    simp only [Steps.findModuleType, hbound]
  have hread : (Steps.within expand budget).moduleType env m =
      (Steps.within expand budget).moduleDecl env (.typed expr) := by
    simp only [Steps.moduleType, Steps.moduleDecl, hexpr]
  show ((Steps.within expand budget).findModuleType env (.identifier id) >>= fun found =>
    (Steps.within expand budget).moduleType found.2 found.1) = _
  rw [hfind, pure_bind, hread]

end Links

theorem Env.Chain.moduleDecl (expand : Nat → Env → ModuleDecl → LookupM Expansion) {env : Env}
    {decl : ModuleDecl} {aliases paths : Nat} {e : Expansion}
    (h : env.Chain decl aliases paths e) (budget : Nat) :
    (Steps.within expand budget).moduleDecl env decl =
      if 2 * aliases + paths ≤ budget then pure e
      else LookupM.fail (.aliasDepthExceeded env.options.limit) := by
  -- Each link takes its own cost from the allowance, until the chain or the allowance is used up.
  induction h generalizing budget with
  | ready hready =>
    rw [if_pos (Nat.zero_le budget)]
    exact Steps.moduleDecl_of_ready _ hready
  | @aliasOf id decl aliases paths e hdecl _ ih =>
    match budget with
    | 0 =>
      rw [if_neg (by omega)]
      rfl
    | 1 =>
      rw [if_neg (by omega)]
      rfl
    | budget + 2 =>
      have hcost : 2 * (aliases + 1) + paths ≤ budget + 2 ↔ 2 * aliases + paths ≤ budget := by omega
      show followTarget expand (budget + 2) env (.aliased (.ofIdentifier id)) = _
      rw [followTarget_aliased, followTarget_module expand budget hdecl, ih]
      simp only [hcost]
  | @path id m expr aliases paths e hbound hexpr _ ih =>
    match budget with
    | 0 =>
      rw [if_neg (by omega)]
      rfl
    | budget + 1 =>
      have hcost : 2 * aliases + (paths + 1) ≤ budget + 1 ↔ 2 * aliases + paths ≤ budget := by omega
      show followTarget expand (budget + 1) env (.moduleType (.identifier id)) = _
      rw [followTarget_moduleType expand budget hbound hexpr, ih]
      simp only [hcost]

namespace Lookup

/-- A module that is bound to a chain is expanded exactly if the allowance is larger than twice the
number of aliases and the number of module-type paths together. Otherwise the lookup gives up. -/
theorem moduleExpansion_of_chain (fuel : Nat) {env : Env} {id : Identifier} {decl : ModuleDecl}
    {aliases paths : Nat} {e : Expansion} (hid : env.declaration? id = some decl)
    (h : env.Chain decl aliases paths e) :
    moduleExpansion fuel env (.identifier id) =
      if 2 * aliases + paths < env.options.limit then pure e
      else LookupM.fail (.aliasDepthExceeded env.options.limit) := by
  show followTarget (expandDecl fuel) env.options.limit env (.module (.identifier id)) = _
  cases hlimit : env.options.limit with
  | zero =>
    rw [if_neg (Nat.not_lt_zero _), followTarget, hlimit]
  | succ budget =>
    rw [followTarget_module _ budget hid, h.moduleDecl (expandDecl fuel) budget, hlimit]
    simp only [Nat.lt_succ_iff]

def chainEnd : Signature :=
  .ofItems [.type ⟨((Identifier.root "A").child .moduleType "S").child .type "t", [], {}, none⟩]

def envWithAlias (limit : UInt64) (decl : ModuleDecl) : Env :=
  let unit := Identifier.root "A"
  let env : Env := { options := { maxAliasDepth := limit } }
  ((env.addModuleType ⟨unit.child .moduleType "S", [], some (.signature chainEnd)⟩).addModule
    ⟨unit.child .module "N", [], decl, false⟩).addModule
      ⟨unit.child .module "M", [], .aliasOf (.ofIdentifier (unit.child .module "N")) none, false⟩

theorem moduleExpansion_of_chain_typed :
    let unit := Identifier.root "A"
    let decl := ModuleDecl.typed (.path (.ofIdentifier (unit.child .moduleType "S")) none)
    let env := envWithAlias 4 decl
    let first := ModuleDecl.aliasOf (.ofIdentifier (unit.child .module "N")) none
    env.declaration? (unit.child .module "M") = some first ∧
      env.Chain first 1 1 (.signature chainEnd) ∧
      moduleExpansion 0 env (.identifier (unit.child .module "M")) =
        pure (.signature chainEnd) := by
  intro unit decl env first
  have hfirst : env.declaration? (unit.child .module "M") = some first := rfl
  have hsecond : env.declaration? (unit.child .module "N") = some decl := rfl
  have hchain : env.Chain first 1 1 (.signature chainEnd) :=
    .aliasOf hsecond (.path rfl rfl (.ready rfl))
  exact ⟨hfirst, hchain, moduleExpansion_of_chain 0 hfirst hchain⟩

theorem moduleExpansion_alias_exceeds :
    let unit := Identifier.root "A"
    let env := envWithAlias 2 (.typed (.signature chainEnd))
    env.declaration? (unit.child .module "M") =
        some (.aliasOf (.ofIdentifier (unit.child .module "N")) none) ∧
      env.declaration? (unit.child .module "N") = some (.typed (.signature chainEnd)) ∧
      1 ≤ env.options.limit ∧
      ∀ fuel, moduleExpansion fuel env (.identifier (unit.child .module "M")) =
        LookupM.fail (.aliasDepthExceeded 2) :=
  ⟨rfl, rfl, by decide, fun _ => rfl⟩

end Lookup

end CrossRef
