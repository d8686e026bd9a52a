import CrossRef.Proofs.Signature.Relocation
import CrossRef.Signature.Strengthen

/-! Orderly syntax: what lookups and the pass can work on without going in circles. A constraint
names a member of the signature itself and none further down. An include is expanded already, or it
is written out, or it names a unit that comes earlier in an order of the units, or the pass comes to
it before anything else does. -/

namespace CrossRef

def Fragment.Short (f : Fragment) : Prop := f.segments.length ≤ 1

def SignatureExpr.isLiteral : SignatureExpr → Bool
  | signature _ => true
  | _ => false

def IncludeDecl.isWritten : IncludeDecl → Bool
  | aliasOf _ => false
  | typed expr => expr.hasLiteralRoot

/-- Numbers for units, by name. Modules that are shadowed are renamed, to names in braces, and these
are kept apart from the names of units that have a number. -/
structure Ranking where
  rank : String → Option Nat
  rank_braced : ∀ name, rank (braced name) = none

/-- What is asked of includes that a lookup can come upon before the pass does: nothing, or that
they name units whose numbers are below the level. -/
inductive Policy where
  | free
  | ranked (ranking : Ranking) (level : Nat)

namespace Policy

def allows : Policy → IncludeDecl → Bool
  | free, _ => true
  | ranked ranking level, .aliasOf (.root name) => (ranking.rank name).any (· < level)
  | ranked _ _, _ => false

/-- An include that names a unit is read again wherever its text is spliced. To find the unit there,
it must not come upon a module of that name. -/
def Clear : Policy → String → Prop
  | free, _ => True
  | ranked ranking _, name => ranking.rank name = none

/-- What is asked of the text of the unit with a given name. -/
def under : Policy → String → Policy
  | free, _ => free
  | ranked ranking level, name => ranked ranking (min level ((ranking.rank name).getD level))

theorem ranked_allows_iff {ranking : Ranking} {level : Nat} {decl : IncludeDecl} :
    (ranked ranking level).allows decl = true ↔
      ∃ name number, decl = .aliasOf (.root name) ∧ ranking.rank name = some number ∧
        number < level := by
  rcases decl with (path | name | ⟨parent, name⟩ | ⟨f, a⟩) | expr
  case aliasOf.root => simp [allows, Option.any_eq_true]
  all_goals simp [allows]

end Policy

mutual

/-- `own` is for syntax that the pass comes to before any lookup does. It ends where the pass may
leave things as they are: below a mark, in hidden modules, in the content of includes, and in
constrained expressions whose base may fail to expand. Text that is spliced takes the name of the
parent for that of its owner, so that the parent of an include must have a clear name too. -/
def Signature.Orderly (policy : Policy) (own : Bool) : Signature → Prop
  | ⟨items, compiled, _⟩ => OrderlyItems policy (own && !compiled) compiled items

def OrderlyItems (policy : Policy) (own marked : Bool) : List Item → Prop
  | [] => True
  | item :: items => item.Orderly policy own marked ∧ OrderlyItems policy own marked items

def Item.Orderly (policy : Policy) (own marked : Bool) : Item → Prop
  | .module m => m.Orderly policy own
  | .moduleType m => m.Orderly policy own
  | .included i => i.Orderly policy own marked
  | .opened _ content => content.Orderly policy own
  | _ => True

def Module.Orderly (policy : Policy) (own : Bool) : Module → Prop
  | ⟨id, _, decl, hidden⟩ => policy.Clear id.name ∧ decl.Orderly policy (own && !hidden)

def ModuleDecl.Orderly (policy : Policy) (own : Bool) : ModuleDecl → Prop
  | .aliasOf _ expansion => OrderlyExpansion policy own expansion
  | .typed expr => expr.Orderly policy own

def ModuleType.Orderly (policy : Policy) (own : Bool) : ModuleType → Prop
  | ⟨_, _, none⟩ => True
  | ⟨_, _, some expr⟩ => expr.Orderly policy own

def OrderlyExpansion (policy : Policy) (own : Bool) : Option StoredExpansion → Prop
  | none => True
  | some expansion => expansion.Orderly policy own

def StoredExpansion.Orderly (policy : Policy) (own : Bool) : StoredExpansion → Prop
  | .signature sig => sig.Orderly policy own
  | .functor param body => param.Orderly policy own ∧ body.Orderly policy own

def FunctorParameter.Orderly (policy : Policy) (own : Bool) : FunctorParameter → Prop
  | .unit => True
  | .named id expr => policy.Clear id.name ∧ expr.Orderly policy own

def ModuleTypeExpr.Orderly (policy : Policy) (own : Bool) : ModuleTypeExpr → Prop
  | .path _ expansion => OrderlyExpansion policy own expansion
  | .signature sig => sig.Orderly policy own
  | .functor param body => param.Orderly policy own ∧ body.Orderly policy own
  | .constrained constraints base expansion =>
    OrderlyConstraints policy (own && base.isLiteral) constraints ∧
      base.Orderly policy (own && base.isLiteral) ∧
      OrderlyExpansion policy (own && base.isLiteral) expansion
  | .typeOf _ expansion => OrderlyExpansion policy own expansion

def SignatureExpr.Orderly (policy : Policy) (own : Bool) : SignatureExpr → Prop
  | .path _ => True
  | .signature sig => sig.Orderly policy own
  | .constrained constraints base =>
    OrderlyConstraints policy own constraints ∧ base.Orderly policy own
  | .typeOf _ => True

def OrderlyConstraints (policy : Policy) (own : Bool) : List Constraint → Prop
  | [] => True
  | c :: cs => c.Orderly policy own ∧ OrderlyConstraints policy own cs

def Constraint.Orderly (policy : Policy) (own : Bool) : Constraint → Prop
  | .moduleEq f decl => f.Short ∧ decl.Orderly policy own
  | .moduleSubst f _ => f.Short
  | .typeEq f _ => f.Short
  | .typeSubst f _ => f.Short

def Include.Orderly (policy : Policy) (own marked : Bool) : Include → Prop
  | ⟨parent, _, decl, _, _, content⟩ =>
    ((policy.allows decl || marked || content.compiled) = true ∨
        (own || decl.isWritten) = true ∧ policy.Clear parent.name) ∧
      decl.Orderly policy own ∧ content.Orderly policy false

def IncludeDecl.Orderly (policy : Policy) (own : Bool) : IncludeDecl → Prop
  | .aliasOf _ => True
  | .typed expr => expr.Orderly policy own

end

structure LeafMap.Keeps (r : LeafMap) (policy policy' : Policy) : Prop where
  clear : ∀ id, policy.Clear id.name → policy'.Clear (r.ident id).name
  allows : ∀ decl, policy.allows decl = true → policy'.allows (decl.mapLeaves r) = true

theorem Policy.clear_braced (policy : Policy) (name : String) : policy.Clear (braced name) := by
  cases policy with
  | free => trivial
  | ranked ranking level => exact ranking.rank_braced name

theorem Identifier.relocate_clear {policy : Policy} {old new : Identifier} (shadowed : Shadowed)
    (hnew : policy.Clear old.name → policy.Clear new.name) {id : Identifier}
    (hid : policy.Clear id.name) : policy.Clear (old.relocate new shadowed id).name := by
  rcases eq_or_ne id old with rfl | hne
  · rw [(relocates_relocate id new shadowed).owner]
    exact hnew hid
  · rcases (relocate_name old new shadowed id).resolve_left hne with hname | hname
    · rwa [hname]
    · rw [hname]
      exact policy.clear_braced id.name

namespace LeafMap

variable {policy : Policy}

/-- What is allowed is written with a name that is not resolved, and no map touches these. -/
theorem Keeps.of_clear {r : LeafMap} (hroot : ∀ name, r.path (.root name) = .root name)
    (hclear : ∀ id, policy.Clear id.name → policy.Clear (r.ident id).name) :
    r.Keeps policy policy where
  clear := hclear
  allows decl hallowed := by
    cases policy with
    | free => rfl
    | ranked ranking level =>
      obtain ⟨name, number, rfl, -, -⟩ := Policy.ranked_allows_iff.mp hallowed
      rwa [IncludeDecl.mapLeaves, hroot]

theorem keeps_reroot (source : Identifier) (target : ResolvedPath) :
    (reroot source target).Keeps policy policy :=
  .of_clear (fun _ => rfl) fun _ hclear => hclear

theorem keeps_unfoldType (target : Identifier) (params : List String) (manifest : TypeExpr) :
    (unfoldType target params manifest).Keeps policy policy :=
  .of_clear (fun _ => rfl) fun _ hclear => hclear

theorem keeps_relocate {old new : Identifier} (shadowed : Shadowed)
    (hnew : policy.Clear old.name → policy.Clear new.name) :
    (identifiers (old.relocate new shadowed)).Keeps policy policy :=
  .of_clear (fun _ => rfl) fun _ hclear => Identifier.relocate_clear shadowed hnew hclear

end LeafMap

section Leaves

variable (r : LeafMap)

theorem SignatureExpr.isLiteral_mapLeaves (expr : SignatureExpr) :
    (expr.mapLeaves r).isLiteral = expr.isLiteral := by
  cases expr <;> rw [mapLeaves] <;> rfl

theorem SignatureExpr.hasLiteralRoot_mapLeaves (expr : SignatureExpr) :
    (expr.mapLeaves r).hasLiteralRoot = expr.hasLiteralRoot := by
  cases expr with
  | constrained cs base =>
    rw [mapLeaves, hasLiteralRoot, hasLiteralRoot]
    exact base.hasLiteralRoot_mapLeaves
  | _ =>
    rw [mapLeaves]
    rfl

theorem IncludeDecl.isWritten_mapLeaves (decl : IncludeDecl) :
    (decl.mapLeaves r).isWritten = decl.isWritten := by
  cases decl with
  | aliasOf path =>
    rw [mapLeaves]
    rfl
  | typed expr =>
    rw [mapLeaves]
    exact expr.hasLiteralRoot_mapLeaves r

theorem Signature.mapLeaves_compiled (sig : Signature) :
    (sig.mapLeaves r).compiled = sig.compiled := by
  obtain ⟨items, compiled, doc⟩ := sig
  rw [mapLeaves]

variable {r} {policy policy' : Policy}

mutual

theorem Signature.Orderly.mapLeaves (hr : r.Keeps policy policy') {own : Bool} :
    ∀ {sig : Signature}, sig.Orderly policy own → (sig.mapLeaves r).Orderly policy' own
  | ⟨items, compiled, doc⟩, h => by
    rw [Signature.mapLeaves]
    rw [Signature.Orderly] at h ⊢
    exact orderlyItems_map hr h

theorem orderlyItems_map (hr : r.Keeps policy policy') {own marked : Bool} :
    ∀ {items : List Item}, OrderlyItems policy own marked items →
      OrderlyItems policy' own marked (mapItems r items)
  | [], _ => by
    rw [mapItems, OrderlyItems]
    trivial
  | item :: items, h => by
    rw [OrderlyItems] at h
    rw [mapItems, OrderlyItems]
    exact ⟨h.1.mapLeaves hr, orderlyItems_map hr h.2⟩

theorem Item.Orderly.mapLeaves (hr : r.Keeps policy policy') {own marked : Bool} :
    ∀ {item : Item}, item.Orderly policy own marked →
      (item.mapLeaves r).Orderly policy' own marked
  | .module m, h => by
    rw [Item.Orderly] at h
    rw [Item.mapLeaves, Item.Orderly]
    exact h.mapLeaves hr
  | .moduleType m, h => by
    rw [Item.Orderly] at h
    rw [Item.mapLeaves, Item.Orderly]
    exact h.mapLeaves hr
  | .included i, h => by
    rw [Item.Orderly] at h
    rw [Item.mapLeaves, Item.Orderly]
    exact h.mapLeaves hr
  | .opened doc content, h => by
    rw [Item.Orderly] at h
    rw [Item.mapLeaves, Item.Orderly]
    exact h.mapLeaves hr
  | .moduleSubstitution _, _ | .type _, _ | .typeSubstitution _, _ | .value _, _ | .external _, _
  | .classDecl _, _ | .classType _, _ | .extension _, _ | .exception _, _ | .comment _, _ => by
    simp only [Item.mapLeaves, Item.Orderly]

theorem Module.Orderly.mapLeaves (hr : r.Keeps policy policy') {own : Bool} :
    ∀ {m : Module}, m.Orderly policy own → (m.mapLeaves r).Orderly policy' own
  | ⟨id, doc, decl, hidden⟩, h => by
    rw [Module.Orderly] at h
    rw [Module.mapLeaves, Module.Orderly]
    exact ⟨hr.clear id h.1, h.2.mapLeaves hr⟩

theorem ModuleDecl.Orderly.mapLeaves (hr : r.Keeps policy policy') {own : Bool} :
    ∀ {decl : ModuleDecl}, decl.Orderly policy own → (decl.mapLeaves r).Orderly policy' own
  | .aliasOf path expansion, h => by
    rw [ModuleDecl.Orderly] at h
    rw [ModuleDecl.mapLeaves, ModuleDecl.Orderly]
    exact orderlyExpansion_map hr h
  | .typed expr, h => by
    rw [ModuleDecl.Orderly] at h
    rw [ModuleDecl.mapLeaves, ModuleDecl.Orderly]
    exact h.mapLeaves hr

theorem ModuleType.Orderly.mapLeaves (hr : r.Keeps policy policy') {own : Bool} :
    ∀ {m : ModuleType}, m.Orderly policy own → (m.mapLeaves r).Orderly policy' own
  | ⟨id, doc, none⟩, _ => by
    rw [ModuleType.mapLeaves, ModuleType.Orderly]
    trivial
  | ⟨id, doc, some expr⟩, h => by
    rw [ModuleType.Orderly] at h
    rw [ModuleType.mapLeaves, ModuleType.Orderly]
    exact h.mapLeaves hr

theorem orderlyExpansion_map (hr : r.Keeps policy policy') {own : Bool} :
    ∀ {expansion : Option StoredExpansion}, OrderlyExpansion policy own expansion →
      OrderlyExpansion policy' own (mapExpansion r expansion)
  | none, _ => by
    rw [mapExpansion, OrderlyExpansion]
    trivial
  | some expansion, h => by
    rw [OrderlyExpansion] at h
    rw [mapExpansion, OrderlyExpansion]
    exact h.mapLeaves hr

theorem StoredExpansion.Orderly.mapLeaves (hr : r.Keeps policy policy') {own : Bool} :
    ∀ {expansion : StoredExpansion}, expansion.Orderly policy own →
      (expansion.mapLeaves r).Orderly policy' own
  | .signature sig, h => by
    rw [StoredExpansion.Orderly] at h
    rw [StoredExpansion.mapLeaves, StoredExpansion.Orderly]
    exact h.mapLeaves hr
  | .functor param body, h => by
    rw [StoredExpansion.Orderly] at h
    rw [StoredExpansion.mapLeaves, StoredExpansion.Orderly]
    exact ⟨h.1.mapLeaves hr, h.2.mapLeaves hr⟩

theorem FunctorParameter.Orderly.mapLeaves (hr : r.Keeps policy policy') {own : Bool} :
    ∀ {param : FunctorParameter}, param.Orderly policy own →
      (param.mapLeaves r).Orderly policy' own
  | .unit, _ => by
    rw [FunctorParameter.mapLeaves, FunctorParameter.Orderly]
    trivial
  | .named id expr, h => by
    rw [FunctorParameter.Orderly] at h
    rw [FunctorParameter.mapLeaves, FunctorParameter.Orderly]
    exact ⟨hr.clear id h.1, h.2.mapLeaves hr⟩

theorem ModuleTypeExpr.Orderly.mapLeaves (hr : r.Keeps policy policy') {own : Bool} :
    ∀ {expr : ModuleTypeExpr}, expr.Orderly policy own → (expr.mapLeaves r).Orderly policy' own
  | .path path expansion, h => by
    rw [ModuleTypeExpr.Orderly] at h
    rw [ModuleTypeExpr.mapLeaves, ModuleTypeExpr.Orderly]
    exact orderlyExpansion_map hr h
  | .signature sig, h => by
    rw [ModuleTypeExpr.Orderly] at h
    rw [ModuleTypeExpr.mapLeaves, ModuleTypeExpr.Orderly]
    exact h.mapLeaves hr
  | .functor param body, h => by
    rw [ModuleTypeExpr.Orderly] at h
    rw [ModuleTypeExpr.mapLeaves, ModuleTypeExpr.Orderly]
    exact ⟨h.1.mapLeaves hr, h.2.mapLeaves hr⟩
  | .constrained cs base expansion, h => by
    rw [ModuleTypeExpr.Orderly] at h
    rw [ModuleTypeExpr.mapLeaves, ModuleTypeExpr.Orderly, base.isLiteral_mapLeaves]
    exact ⟨orderlyConstraints_map hr h.1, h.2.1.mapLeaves hr, orderlyExpansion_map hr h.2.2⟩
  | .typeOf origin expansion, h => by
    rw [ModuleTypeExpr.Orderly] at h
    rw [ModuleTypeExpr.mapLeaves, ModuleTypeExpr.Orderly]
    exact orderlyExpansion_map hr h

theorem SignatureExpr.Orderly.mapLeaves (hr : r.Keeps policy policy') {own : Bool} :
    ∀ {expr : SignatureExpr}, expr.Orderly policy own → (expr.mapLeaves r).Orderly policy' own
  | .path path, _ => by
    rw [SignatureExpr.mapLeaves, SignatureExpr.Orderly]
    trivial
  | .signature sig, h => by
    rw [SignatureExpr.Orderly] at h
    rw [SignatureExpr.mapLeaves, SignatureExpr.Orderly]
    exact h.mapLeaves hr
  | .constrained cs base, h => by
    rw [SignatureExpr.Orderly] at h
    rw [SignatureExpr.mapLeaves, SignatureExpr.Orderly]
    exact ⟨orderlyConstraints_map hr h.1, h.2.mapLeaves hr⟩
  | .typeOf origin, _ => by
    rw [SignatureExpr.mapLeaves, SignatureExpr.Orderly]
    trivial

theorem orderlyConstraints_map (hr : r.Keeps policy policy') {own : Bool} :
    ∀ {cs : List Constraint}, OrderlyConstraints policy own cs →
      OrderlyConstraints policy' own (mapWith r cs)
  | [], _ => by
    rw [mapWith, OrderlyConstraints]
    trivial
  | c :: cs, h => by
    rw [OrderlyConstraints] at h
    rw [mapWith, OrderlyConstraints]
    exact ⟨h.1.mapLeaves hr, orderlyConstraints_map hr h.2⟩

theorem Constraint.Orderly.mapLeaves (hr : r.Keeps policy policy') {own : Bool} :
    ∀ {c : Constraint}, c.Orderly policy own → (c.mapLeaves r).Orderly policy' own
  | .moduleEq f decl, h => by
    rw [Constraint.Orderly] at h
    rw [Constraint.mapLeaves, Constraint.Orderly]
    exact ⟨h.1, h.2.mapLeaves hr⟩
  | .moduleSubst f path, h => by
    rw [Constraint.Orderly] at h
    rw [Constraint.mapLeaves, Constraint.Orderly]
    exact h
  | .typeEq f eq, h => by
    rw [Constraint.Orderly] at h
    rw [Constraint.mapLeaves, Constraint.Orderly]
    exact h
  | .typeSubst f eq, h => by
    rw [Constraint.Orderly] at h
    rw [Constraint.mapLeaves, Constraint.Orderly]
    exact h

theorem Include.Orderly.mapLeaves (hr : r.Keeps policy policy') {own marked : Bool} :
    ∀ {i : Include}, i.Orderly policy own marked → (i.mapLeaves r).Orderly policy' own marked
  | ⟨parent, doc, decl, strengthened, shadowed, content⟩, h => by
    rw [Include.Orderly] at h
    rw [Include.mapLeaves, Include.Orderly, content.mapLeaves_compiled, decl.isWritten_mapLeaves]
    refine ⟨h.1.imp (fun hsettled => ?_) fun hopen => ⟨hopen.1, hr.clear parent hopen.2⟩,
      h.2.1.mapLeaves hr, h.2.2.mapLeaves hr⟩
    simp only [Bool.or_eq_true] at hsettled ⊢
    exact hsettled.imp_left (Or.imp_left (hr.allows decl))

theorem IncludeDecl.Orderly.mapLeaves (hr : r.Keeps policy policy') {own : Bool} :
    ∀ {decl : IncludeDecl}, decl.Orderly policy own → (decl.mapLeaves r).Orderly policy' own
  | .aliasOf path, _ => by
    rw [IncludeDecl.mapLeaves, IncludeDecl.Orderly]
    trivial
  | .typed expr, h => by
    rw [IncludeDecl.Orderly] at h
    rw [IncludeDecl.mapLeaves, IncludeDecl.Orderly]
    exact h.mapLeaves hr

end

end Leaves

def Policy.Within (policy wider : Policy) : Prop := LeafMap.Keeps {} policy wider

namespace Policy

theorem ranked_within (ranking : Ranking) {level higher : Nat} (h : level ≤ higher) :
    (ranked ranking level).Within (ranked ranking higher) where
  clear _ hclear := hclear
  allows decl hallowed := by
    rw [LeafMap.still_default.includeDecl]
    obtain ⟨name, number, rfl, hnumber, hlevel⟩ := ranked_allows_iff.mp hallowed
    exact ranked_allows_iff.mpr ⟨name, number, rfl, hnumber, Nat.lt_of_lt_of_le hlevel h⟩

theorem under_within (policy : Policy) (name : String) : (policy.under name).Within policy := by
  cases policy with
  | free => exact ⟨fun _ _ => trivial, fun _ _ => rfl⟩
  | ranked ranking level => exact ranked_within ranking (Nat.min_le_left level _)

end Policy

section Widen

variable {policy wider : Policy} {own : Bool}

theorem Signature.Orderly.widen {sig : Signature} (h : sig.Orderly policy own)
    (hwithin : policy.Within wider) : sig.Orderly wider own := by
  rw [← LeafMap.still_default.signature sig]
  exact h.mapLeaves hwithin

theorem ModuleDecl.Orderly.widen {decl : ModuleDecl} (h : decl.Orderly policy own)
    (hwithin : policy.Within wider) : decl.Orderly wider own := by
  rw [← LeafMap.still_default.moduleDecl decl]
  exact h.mapLeaves hwithin

theorem SignatureExpr.Orderly.widen {expr : SignatureExpr} (h : expr.Orderly policy own)
    (hwithin : policy.Within wider) : expr.Orderly wider own := by
  rw [← LeafMap.still_default.signatureExpr expr]
  exact h.mapLeaves hwithin

theorem orderlyConstraints_widen {cs : List Constraint} (h : OrderlyConstraints policy own cs)
    (hwithin : policy.Within wider) : OrderlyConstraints wider own cs := by
  rw [← LeafMap.still_default.constraints cs]
  exact orderlyConstraints_map hwithin h

theorem orderlyExpansion_widen {expansion : Option StoredExpansion}
    (h : OrderlyExpansion policy own expansion) (hwithin : policy.Within wider) :
    OrderlyExpansion wider own expansion := by
  rw [← LeafMap.still_default.expansion expansion]
  exact orderlyExpansion_map hwithin h

end Widen

section Settled

variable {policy : Policy} {marked : Bool}

theorem Signature.Orderly.items {sig : Signature} (h : sig.Orderly policy false) :
    OrderlyItems policy false sig.compiled sig.items := by
  obtain ⟨items, compiled, doc⟩ := sig
  rw [Orderly] at h
  exact h

theorem Module.Orderly.decl {m : Module} (h : m.Orderly policy false) :
    m.decl.Orderly policy false := by
  obtain ⟨id, doc, decl, hidden⟩ := m
  rw [Orderly] at h
  exact h.2

theorem Item.Orderly.below_mark {own : Bool} {item : Item} (h : item.Orderly policy own marked) :
    item.Orderly policy own true := by
  cases item with
  | included i =>
    obtain ⟨parent, doc, decl, strengthened, shadowed, content⟩ := i
    rw [Orderly, Include.Orderly] at h ⊢
    exact ⟨.inl (by simp), h.2⟩
  | module m | moduleType m | opened doc content => exact h
  | _ => simp only [Orderly]

mutual

theorem Signature.Orderly.members :
    ∀ {sig : Signature}, sig.Orderly policy false →
      ∀ item ∈ sig.members, item.Orderly policy false true
  | ⟨items, compiled, doc⟩, h => by
    rw [Signature.Orderly] at h
    rw [Signature.members]
    exact membersOfItems_orderly h

theorem membersOfItems_orderly {marked : Bool} :
    ∀ {items : List Item}, OrderlyItems policy false marked items →
      ∀ item ∈ membersOfItems items, item.Orderly policy false true
  | [], _ => by
    rw [membersOfItems]
    rintro _ ⟨⟩
  | item :: items, h => by
    rw [OrderlyItems] at h
    rw [membersOfItems, List.forall_mem_append]
    exact ⟨h.1.members, membersOfItems_orderly h.2⟩

theorem Item.Orderly.members {marked : Bool} :
    ∀ {item : Item}, item.Orderly policy false marked →
      ∀ member ∈ item.members, member.Orderly policy false true
  | .included i, h => by
    rw [Item.Orderly] at h
    rw [Item.members]
    exact h.members
  | .module _, h | .moduleType _, h | .opened _ _, h | .moduleSubstitution _, h | .type _, h
  | .typeSubstitution _, h | .value _, h | .external _, h | .classDecl _, h | .classType _, h
  | .extension _, h | .exception _, h | .comment _, h => by
    simp only [Item.members, List.forall_mem_singleton]
    exact h.below_mark

theorem Include.Orderly.members {marked : Bool} :
    ∀ {i : Include}, i.Orderly policy false marked →
      ∀ item ∈ i.members, item.Orderly policy false true
  | ⟨parent, doc, decl, strengthened, shadowed, content⟩, h => by
    rw [Include.Orderly] at h
    rw [Include.members]
    exact h.2.2.members

end

theorem Signature.Orderly.find? {sig : Signature} (h : sig.Orderly policy false)
    {ns : Namespace} {name : String} {item : Item} (hfind : sig.find? ns name = some item) :
    item.Orderly policy false true :=
  h.members item (List.mem_reverse.mp (List.mem_of_find?_eq_some hfind))

theorem Signature.Orderly.module? {sig : Signature} (h : sig.Orderly policy false)
    {name : String} {m : Module} (hm : sig.module? name = some m) :
    m.decl.Orderly policy false := by
  rw [Signature.module?] at hm
  split at hm
  case h_1 found hfind =>
    cases hm
    have hmodule := h.find? hfind
    rw [Item.Orderly] at hmodule
    exact hmodule.decl
  case h_2 => cases hm

theorem Signature.Orderly.moduleType? {sig : Signature} (h : sig.Orderly policy false)
    {name : String} {m : ModuleType} (hm : sig.moduleType? name = some m) :
    m.Orderly policy false := by
  rw [Signature.moduleType?] at hm
  split at hm
  case h_1 found hfind =>
    cases hm
    have hmoduleType := h.find? hfind
    rw [Item.Orderly] at hmoduleType
    exact hmoduleType
  case h_2 => cases hm

theorem Signature.updateLast_compiled {pick : Item → Bool} {f : Item → Item} {sig out : Signature}
    (h : sig.updateLast pick f = some out) : out.compiled = sig.compiled := by
  obtain ⟨items, compiled, doc⟩ := sig
  rw [updateLast, Option.map_eq_some_iff] at h
  obtain ⟨changed, -, rfl⟩ := h
  rfl

theorem Signature.remove_compiled {pick : Item → Bool} {sig rest : Signature} {taken : Item}
    (h : sig.remove pick = some (taken, rest)) : rest.compiled = sig.compiled := by
  obtain ⟨items, compiled, doc⟩ := sig
  rw [remove] at h
  split at h
  · cases h
    rfl
  · rw [Option.map_eq_some_iff] at h
    obtain ⟨⟨_, _⟩, -, h⟩ := h
    cases h
    rfl

section Update

variable {pick : Item → Bool} {f : Item → Item}

mutual

theorem Signature.Orderly.updateLast
    (hf : ∀ item marked, pick item = true → item.Orderly policy false marked →
      (f item).Orderly policy false marked)
    :
    ∀ {sig out : Signature}, sig.Orderly policy false → sig.updateLast pick f = some out →
      out.Orderly policy false
  | ⟨items, compiled, doc⟩, out, h, hout => by
    rw [Signature.updateLast, Option.map_eq_some_iff] at hout
    obtain ⟨changed, hchanged, rfl⟩ := hout
    rw [Signature.Orderly] at h ⊢
    exact orderlyItems_updateLast hf h hchanged

theorem orderlyItems_updateLast
    (hf : ∀ item marked, pick item = true → item.Orderly policy false marked →
      (f item).Orderly policy false marked)
    {marked : Bool} :
    ∀ {items out : List Item}, OrderlyItems policy false marked items →
      updateLastItem pick f items = some out → OrderlyItems policy false marked out
  | [], out, _, hout => by
    rw [updateLastItem] at hout
    cases hout
  | item :: items, out, h, hout => by
    rw [OrderlyItems] at h
    rw [updateLastItem] at hout
    split at hout
    case h_1 changed hchanged =>
      cases hout
      rw [OrderlyItems]
      exact ⟨h.1, orderlyItems_updateLast hf h.2 hchanged⟩
    case h_2 =>
      rw [Option.map_eq_some_iff] at hout
      obtain ⟨changed, hchanged, rfl⟩ := hout
      rw [OrderlyItems]
      exact ⟨h.1.updateLast hf hchanged, h.2⟩

theorem Item.Orderly.updateLast
    (hf : ∀ item marked, pick item = true → item.Orderly policy false marked →
      (f item).Orderly policy false marked)
    {marked : Bool} :
    ∀ {item out : Item}, item.Orderly policy false marked → item.updateLast pick f = some out →
      out.Orderly policy false marked
  | .included i, out, h, hout => by
    rw [Item.updateLast, Option.map_eq_some_iff] at hout
    obtain ⟨changed, hchanged, rfl⟩ := hout
    rw [Item.Orderly] at h ⊢
    exact h.updateLast hf hchanged
  | .module _, out, h, hout | .moduleType _, out, h, hout | .opened _ _, out, h, hout
  | .moduleSubstitution _, out, h, hout | .type _, out, h, hout
  | .typeSubstitution _, out, h, hout | .value _, out, h, hout | .external _, out, h, hout
  | .classDecl _, out, h, hout | .classType _, out, h, hout | .extension _, out, h, hout
  | .exception _, out, h, hout | .comment _, out, h, hout => by
    simp only [Item.updateLast, Option.ite_none_right_eq_some] at hout
    obtain ⟨hpick, hout⟩ := hout
    cases hout
    exact hf _ marked hpick h

theorem Include.Orderly.updateLast
    (hf : ∀ item marked, pick item = true → item.Orderly policy false marked →
      (f item).Orderly policy false marked)
    {marked : Bool} :
    ∀ {i out : Include}, i.Orderly policy false marked → i.updateLast pick f = some out →
      out.Orderly policy false marked
  | ⟨parent, doc, decl, strengthened, shadowed, content⟩, out, h, hout => by
    rw [Include.updateLast, Option.map_eq_some_iff] at hout
    obtain ⟨changed, hchanged, rfl⟩ := hout
    rw [Include.Orderly] at h ⊢
    rw [Signature.updateLast_compiled hchanged]
    exact ⟨h.1, h.2.1, h.2.2.updateLast hf hchanged⟩

end

end Update

theorem Signature.Orderly.setModuleDecl {sig out : Signature} (h : sig.Orderly policy false)
    {name : String} {decl : ModuleDecl} (hdecl : decl.Orderly policy false)
    (hout : sig.setModuleDecl name decl = some out) : out.Orderly policy false := by
  refine h.updateLast (fun item marked hpick hitem => ?_) hout
  cases item with
  | module m =>
    obtain ⟨id, doc, old, hidden⟩ := m
    rw [Item.Orderly, Module.Orderly] at hitem ⊢
    exact ⟨hitem.1, hdecl⟩
  | _ => cases hpick

theorem Signature.Orderly.setTypeEquation {sig out : Signature} (h : sig.Orderly policy false)
    {name : String} {equation : TypeEquation}
    (hout : sig.setTypeEquation name equation = some out) :
    out.Orderly policy false := by
  refine h.updateLast (fun item marked hpick hitem => ?_) hout
  cases item with
  | type t => simp only [Item.Orderly]
  | _ => cases hpick

theorem orderlyItems_takeLast {pick : Item → Bool} {items rest : List Item} {taken : Item}
    (h : OrderlyItems policy false marked items)
    (htake : takeLast pick items = some (taken, rest)) :
    OrderlyItems policy false marked rest := by
  induction items generalizing rest with
  | nil =>
    rw [takeLast] at htake
    cases htake
  | cons item items ih =>
    rw [OrderlyItems] at h
    rw [takeLast] at htake
    split at htake
    case h_1 other others hothers =>
      cases htake
      rw [OrderlyItems]
      exact ⟨h.1, ih h.2 hothers⟩
    case h_2 =>
      split at htake <;> cases htake
      exact h.2

section Remove

variable {pick : Item → Bool}

mutual

theorem Signature.Orderly.remove :
    ∀ {sig rest : Signature} {taken : Item}, sig.Orderly policy false →
      sig.remove pick = some (taken, rest) → rest.Orderly policy false
  | ⟨items, compiled, doc⟩, rest, taken, h, hremove => by
    rw [Signature.Orderly] at h
    rw [Signature.remove] at hremove
    split at hremove
    case h_1 others htake =>
      cases hremove
      rw [Signature.Orderly]
      exact orderlyItems_takeLast h htake
    case h_2 =>
      rw [Option.map_eq_some_iff] at hremove
      obtain ⟨⟨other, others⟩, hothers, hpair⟩ := hremove
      cases hpair
      rw [Signature.Orderly]
      exact orderlyItems_remove h hothers

theorem orderlyItems_remove {marked : Bool} :
    ∀ {items rest : List Item} {taken : Item}, OrderlyItems policy false marked items →
      removeFromIncludes pick items = some (taken, rest) →
      OrderlyItems policy false marked rest
  | [], rest, taken, _, hremove => by
    rw [removeFromIncludes] at hremove
    cases hremove
  | item :: items, rest, taken, h, hremove => by
    rw [OrderlyItems] at h
    rw [removeFromIncludes] at hremove
    split at hremove
    case h_1 other others hothers =>
      cases hremove
      rw [OrderlyItems]
      exact ⟨h.1, orderlyItems_remove h.2 hothers⟩
    case h_2 =>
      rw [Option.map_eq_some_iff] at hremove
      obtain ⟨⟨other, changed⟩, hchanged, hpair⟩ := hremove
      cases hpair
      rw [OrderlyItems]
      exact ⟨h.1.removeIncluded hchanged, h.2⟩

theorem Item.Orderly.removeIncluded {marked : Bool} :
    ∀ {item out taken : Item}, item.Orderly policy false marked →
      item.removeIncluded pick = some (taken, out) → out.Orderly policy false marked
  | .included i, out, taken, h, hremove => by
    rw [Item.removeIncluded, Option.map_eq_some_iff] at hremove
    obtain ⟨⟨other, changed⟩, hchanged, hpair⟩ := hremove
    cases hpair
    rw [Item.Orderly] at h ⊢
    exact h.remove hchanged
  | .module _, _, _, _, hremove | .moduleType _, _, _, _, hremove | .opened _ _, _, _, _, hremove
  | .moduleSubstitution _, _, _, _, hremove | .type _, _, _, _, hremove
  | .typeSubstitution _, _, _, _, hremove | .value _, _, _, _, hremove
  | .external _, _, _, _, hremove | .classDecl _, _, _, _, hremove
  | .classType _, _, _, _, hremove | .extension _, _, _, _, hremove
  | .exception _, _, _, _, hremove | .comment _, _, _, _, hremove => by
    simp only [Item.removeIncluded] at hremove
    cases hremove

theorem Include.Orderly.remove {marked : Bool} :
    ∀ {i out : Include} {taken : Item}, i.Orderly policy false marked →
      i.remove pick = some (taken, out) → out.Orderly policy false marked
  | ⟨parent, doc, decl, strengthened, shadowed, content⟩, out, taken, h, hremove => by
    rw [Include.remove, Option.map_eq_some_iff] at hremove
    obtain ⟨⟨other, changed⟩, hchanged, hpair⟩ := hremove
    cases hpair
    rw [Include.Orderly] at h ⊢
    rw [Signature.remove_compiled hchanged]
    exact ⟨h.1, h.2.1, h.2.2.remove hchanged⟩

end

end Remove

theorem Signature.Orderly.reparent {sig : Signature} (h : sig.Orderly policy false)
    {parent : Identifier} (shadowed : Shadowed)
    (hparent : ∀ owner, sig.parent? = some owner → policy.Clear owner.name →
      policy.Clear parent.name) :
    (sig.reparent parent shadowed).Orderly policy false := by
  cases howner : sig.parent? with
  | none =>
    rw [Signature.reparent, howner]
    exact h
  | some owner =>
    rw [Signature.reparent_eq howner]
    exact h.mapLeaves (LeafMap.keeps_relocate shadowed (hparent owner howner))

theorem Signature.strengthen_compiled (path : ResolvedPath) (sig : Signature) :
    (sig.strengthen path).compiled = sig.compiled := by
  obtain ⟨items, compiled, doc⟩ := sig
  rw [strengthen]

mutual

theorem Signature.Orderly.strengthen (path : ResolvedPath) :
    ∀ {sig : Signature}, sig.Orderly policy false → (sig.strengthen path).Orderly policy false
  | ⟨items, compiled, doc⟩, h => by
    rw [Signature.strengthen]
    rw [Signature.Orderly] at h ⊢
    exact orderlyItems_strengthen path h

theorem orderlyItems_strengthen {marked : Bool} (path : ResolvedPath) :
    ∀ {items : List Item}, OrderlyItems policy false marked items →
      OrderlyItems policy false marked (strengthenItems path items)
  | [], _ => by
    rw [strengthenItems, OrderlyItems]
    trivial
  | item :: items, h => by
    rw [OrderlyItems] at h
    rw [strengthenItems, OrderlyItems]
    exact ⟨h.1.strengthen path, orderlyItems_strengthen path h.2⟩

theorem Item.Orderly.strengthen {marked : Bool} (path : ResolvedPath) :
    ∀ {item : Item}, item.Orderly policy false marked →
      (item.strengthen path).Orderly policy false marked
  | .module ⟨id, doc, .typed (.signature sig), hidden⟩, h => by
    rw [Item.strengthen]
    split
    · exact h
    · simp only [Item.Orderly, Module.Orderly, ModuleDecl.Orderly, ModuleTypeExpr.Orderly] at h ⊢
      exact ⟨h.1, h.2.strengthen _⟩
  | .included ⟨parent, doc, decl, strengthened, shadowed, content⟩, h => by
    rw [Item.Orderly, Include.Orderly] at h
    rw [Item.strengthen, Item.Orderly, Include.Orderly, content.strengthen_compiled]
    exact ⟨h.1, h.2.1, h.2.2.strengthen path⟩
  | .type t, _ => by
    simp only [Item.strengthen, Item.Orderly]
  | .module ⟨_, _, .typed (.path _ _), _⟩, h | .module ⟨_, _, .typed (.functor _ _), _⟩, h
  | .module ⟨_, _, .typed (.constrained _ _ _), _⟩, h | .module ⟨_, _, .typed (.typeOf _ _), _⟩, h
  | .module ⟨_, _, .aliasOf _ _, _⟩, h | .moduleType _, h | .opened _ _, h
  | .moduleSubstitution _, h | .typeSubstitution _, h | .value _, h | .external _, h
  | .classDecl _, h | .classType _, h | .extension _, h | .exception _, h | .comment _, h => by
    simpa only [Item.strengthen] using h

end

end Settled

end CrossRef
