import CrossRef.Lookup
import CrossRef.Proofs.Path.Reroot
import CrossRef.Proofs.Signature.LeafMap

/-! Destructive constraints. A declaration that is erased leaves no reference behind in the
signature it stood in. The signatures around that one are not looked at. -/

namespace CrossRef

namespace LeafTest

def avoids (id : Identifier) : LeafTest := .ofPath (Path.Avoids id)

def unapplied (id : Identifier) : LeafTest where
  path _ := True
  constr path := path ≠ .ofIdentifier id

theorem allTypes_iff (q : LeafTest) (ts : List TypeExpr) :
    AllTypes q ts ↔ ∀ t ∈ ts, t.AllLeaves q := by
  induction ts with
  | nil => simp [AllTypes]
  | cons t ts ih => rw [AllTypes, List.forall_mem_cons, ih]

end LeafTest

namespace LeafMap

theorem reroot_carries {id : Identifier} {target : ResolvedPath} (h : target.Apart id) :
    (LeafMap.reroot id target).Carries (.ofPath fun _ => True) (.avoids id) where
  path p _ := Path.avoids_mapResolved (ResolvedPath.avoids_reroot h) p
  var _ := trivial
  constr p _ _ hargs := ⟨Path.avoids_mapResolved (ResolvedPath.avoids_reroot h) p, hargs⟩

end LeafMap

namespace TypeExpr

theorem argument?_mem {params : List String} {args : List TypeExpr} {name : String} {t : TypeExpr}
    (h : argument? params args name = some t) : t ∈ args := by
  obtain ⟨before, after, hsplit, -⟩ := List.lookup_eq_some_iff.mp h
  have hmem : (name, t) ∈ (params.zip args).reverse := by
    rw [hsplit]
    exact List.mem_append_right before List.mem_cons_self
  exact (List.of_mem_zip (List.mem_reverse.mp hmem)).2

theorem instantiate_unapplied {id : Identifier} {manifest : TypeExpr}
    (hmanifest : manifest.AllLeaves (.unapplied id)) (params : List String) {args : List TypeExpr}
    (hargs : AllTypes (.unapplied id) args) :
    (manifest.instantiate params args).AllLeaves (.unapplied id) := by
  refine LeafMap.Carries.typeExpr (q := .unapplied id) ⟨fun _ _ => trivial, ?_, ?_⟩ manifest
    hmanifest
  · intro name
    dsimp only
    cases hargument : argument? params args name with
    | none => exact trivial
    | some t => exact (LeafTest.allTypes_iff _ args).mp hargs t (argument?_mem hargument)
  · intro p args hp hargs
    exact ⟨hp, hargs⟩

end TypeExpr

theorem LeafMap.unfoldType_carries {id : Identifier} {manifest : TypeExpr}
    (h : manifest.AllLeaves (.unapplied id)) (params : List String) :
    (LeafMap.unfoldType id params manifest).Carries (.ofPath fun _ => True) (.unapplied id) where
  path _ _ := trivial
  var _ := trivial
  constr p args _ hargs := by
    rw [LeafMap.unfoldType]
    dsimp only
    split
    · exact TypeExpr.instantiate_unapplied h params hargs
    · rename_i hp
      exact ⟨hp, hargs⟩

theorem optionRel_map {α β γ δ : Type} {R : α → β → Prop} {S : γ → δ → Prop} {f : α → γ}
    {g : β → δ} {a : Option α} {b : Option β} (h : Option.Rel R a b)
    (hfg : ∀ a b, R a b → S (f a) (g b)) : Option.Rel S (a.map f) (b.map g) := by
  cases h with
  | none => exact .none
  | some hab => exact .some (hfg _ _ hab)

section Update

variable {pick : Item → Bool} {f g : Item → Item} {q : LeafTest} {B : Prop}

theorem Item.updateLast_plain
    (h : ∀ item, pick item = true → ((f item).AllLeaves q ↔ (g item).AllLeaves q ∧ B))
    {item : Item} (hplain : ∀ i, item ≠ .included i) :
    Option.Rel (fun out frame => out.AllLeaves q ↔ frame.AllLeaves q ∧ B)
      (item.updateLast pick f) (item.updateLast pick g) := by
  have hupdate (f : Item → Item) :
      item.updateLast pick f = if pick item then some (f item) else none := by
    rw [Item.updateLast]
    exact hplain
  rw [hupdate, hupdate]
  cases hpick : pick item with
  | true => exact .some (h item hpick)
  | false => exact .none

-- Both changes hit the same item, and all others are shared.
mutual

theorem Signature.updateLast_allLeaves
    (h : ∀ item, pick item = true → ((f item).AllLeaves q ↔ (g item).AllLeaves q ∧ B)) :
    ∀ sig : Signature,
    Option.Rel (fun out frame => out.AllLeaves q ↔ frame.AllLeaves q ∧ B)
      (sig.updateLast pick f) (sig.updateLast pick g)
  | ⟨items, compiled, doc⟩ => by
    rw [Signature.updateLast, Signature.updateLast]
    refine optionRel_map (updateLastItem_allLeaves h items) fun out frame hitems => ?_
    rw [Signature.AllLeaves, Signature.AllLeaves, hitems]

theorem updateLastItem_allLeaves
    (h : ∀ item, pick item = true → ((f item).AllLeaves q ↔ (g item).AllLeaves q ∧ B)) :
    ∀ items : List Item,
    Option.Rel (fun out frame => AllItems q out ↔ AllItems q frame ∧ B)
      (updateLastItem pick f items) (updateLastItem pick g items)
  | [] => by
    rw [updateLastItem, updateLastItem]
    exact .none
  | item :: items => by
    have ih := updateLastItem_allLeaves h items
    rw [updateLastItem, updateLastItem]
    cases hf : updateLastItem pick f items with
    | none =>
      rw [hf] at ih
      cases hg : updateLastItem pick g items with
      | some frame =>
        rw [hg] at ih
        cases ih
      | none =>
        refine optionRel_map (item.updateLast_allLeaves h) fun out frame hitem => ?_
        rw [AllItems, AllItems, hitem, and_right_comm]
    | some out =>
      rw [hf] at ih
      cases hg : updateLastItem pick g items with
      | none =>
        rw [hg] at ih
        cases ih
      | some frame =>
        rw [hg] at ih
        cases ih with
        | some hitems =>
          refine .some ?_
          rw [AllItems, AllItems, hitems, and_assoc]

theorem Item.updateLast_allLeaves
    (h : ∀ item, pick item = true → ((f item).AllLeaves q ↔ (g item).AllLeaves q ∧ B))
    (item : Item) :
    Option.Rel (fun out frame => out.AllLeaves q ↔ frame.AllLeaves q ∧ B)
      (item.updateLast pick f) (item.updateLast pick g) := by
  cases item with
  | included i =>
    rw [Item.updateLast, Item.updateLast]
    refine optionRel_map (i.updateLast_allLeaves h) fun out frame hi => ?_
    rw [Item.AllLeaves, Item.AllLeaves, hi]
  | _ => exact Item.updateLast_plain h (by rintro _ ⟨⟩)

theorem Include.updateLast_allLeaves
    (h : ∀ item, pick item = true → ((f item).AllLeaves q ↔ (g item).AllLeaves q ∧ B)) :
    ∀ i : Include,
    Option.Rel (fun out frame => out.AllLeaves q ↔ frame.AllLeaves q ∧ B)
      (i.updateLast pick f) (i.updateLast pick g)
  | ⟨parent, doc, decl, strengthened, shadowed, content⟩ => by
    rw [Include.updateLast, Include.updateLast]
    refine optionRel_map (content.updateLast_allLeaves h) fun out frame hcontent => ?_
    rw [Include.AllLeaves, Include.AllLeaves, hcontent, and_assoc, and_assoc]

end

end Update

def ModuleDecl.blank : ModuleDecl := .typed (.signature ⟨[], false, []⟩)

theorem Signature.setModuleDecl_allLeaves (q : LeafTest) (sig : Signature) (name : String)
    (decl : ModuleDecl) :
    Option.Rel (fun out frame => out.AllLeaves q ↔ frame.AllLeaves q ∧ decl.AllLeaves q)
      (sig.setModuleDecl name decl) (sig.setModuleDecl name .blank) := by
  refine Signature.updateLast_allLeaves (fun item hpick => ?_) sig
  cases item with
  | module m =>
    simp only [Item.AllLeaves, Module.AllLeaves, ModuleDecl.blank, ModuleDecl.AllLeaves,
      ModuleTypeExpr.AllLeaves, Signature.AllLeaves, AllItems, true_and]
  | _ => cases hpick

inductive Replacement where
  | module (target : ResolvedPath)
  | type (manifest : TypeExpr)

structure Erasure where
  id : Identifier
  replacement : Replacement
  /-- The signatures that the constraint goes through on its way to the one with the declaration,
  outermost first and each without the module in which the next one stands. -/
  frames : List Signature

namespace Erasure

def test (x : Erasure) : LeafTest :=
  match x.replacement with
  | .module _ => .avoids x.id
  | .type _ => .unapplied x.id

def Clears (x : Erasure) (sig : Signature) : Prop := sig.AllLeaves x.test

/-- The replacement does not bring the declaration back: it neither mentions it nor, for a module,
is a declaration around it. -/
def Independent (x : Erasure) : Prop :=
  match x.replacement with
  | .module target => target.Apart x.id
  | .type manifest => manifest.AllLeaves (.unapplied x.id)

end Erasure

namespace Steps

def erasureOf (s : Steps) (env : Env) (c : Constraint) (name : String) (sig : Signature) :
    LookupM Erasure :=
  match c with
  | .moduleSubst _ path => do
    let target ← s.modulePath env path
    match sig.remove (·.declaresModule name) with
    | some (.module m, _) => pure ⟨m.id, .module target, []⟩
    | _ => LookupM.fail c.missing
  | .typeSubst _ eq =>
    match eq.manifest, sig.remove (·.declaresType name) with
    | some manifest, some (.type t, _) => pure ⟨t.id, .type manifest, []⟩
    | _, _ => LookupM.fail c.missing
  | .moduleEq _ _ | .typeEq _ _ => LookupM.fail c.missing

def erasureAt (s : Steps) (c : Constraint) : Env → List String → Signature → LookupM Erasure
  | _, [], _ => LookupM.fail c.missing
  | env, [name], sig => s.erasureOf env c name sig
  | env, name :: next :: rest, sig =>
    match sig.module? name, sig.setModuleDecl name .blank with
    | some m, some frame => do
      let scope := env.openSignature sig
      let inner ← (← s.reopen scope m.decl).asSignature
      let below ← s.erasureAt c scope (next :: rest) inner
      pure { below with frames := frame :: below.frames }
    | _, _ => LookupM.fail c.missing

end Steps

def Lookup.erasure (fuel : Nat) (env : Env) (c : Constraint) (sig : Signature) : LookupM Erasure :=
  (Steps.start fuel env).erasureAt c env c.fragment.segments sig

namespace Constraint

def IsDestructive : Constraint → Prop
  | moduleSubst _ _ | typeSubst _ _ => True
  | moduleEq _ _ | typeEq _ _ => False

end Constraint

namespace Steps

theorem constrainMember_erases {s : Steps} {env : Env} {c : Constraint} (hc : c.IsDestructive)
    {name : String} {sig out : Signature} {loads after : Loads}
    (h : s.constrainMember env c name sig loads = (.ok out, after)) :
    ∃ x, s.erasureOf env c name sig loads = (.ok x, after) ∧ x.frames = [] ∧
      (x.Independent → x.Clears out) := by
  cases c with
  | moduleEq fragment decl => cases hc
  | typeEq fragment eq => cases hc
  | moduleSubst fragment path =>
    obtain ⟨target, middle, htarget, h⟩ := LookupM.bind_eq_ok.mp h
    cases hremove : sig.remove (·.declaresModule name) with
    | none =>
      rw [hremove] at h
      cases h
    | some removed =>
      rw [hremove] at h
      obtain ⟨item, rest⟩ := removed
      cases item with
      | module m =>
        obtain ⟨⟩ := h
        refine ⟨⟨m.id, .module target, []⟩, ?_, rfl, fun hindependent => ?_⟩
        · refine LookupM.bind_eq_ok.mpr ⟨target, _, htarget, ?_⟩
          rw [hremove]
          rfl
        · exact (LeafMap.reroot_carries hindependent).all_signatures rest
      | _ => cases h
  | typeSubst fragment eq =>
    simp only [constrainMember] at h
    cases hmanifest : eq.manifest with
    | none =>
      rw [hmanifest] at h
      cases h
    | some manifest =>
      rw [hmanifest] at h
      cases hremove : sig.remove (·.declaresType name) with
      | none =>
        simp only [hremove] at h
        cases h
      | some removed =>
        simp only [hremove] at h
        obtain ⟨item, rest⟩ := removed
        cases item with
        | type t =>
          obtain ⟨⟩ := h
          refine ⟨⟨t.id, .type manifest, []⟩, ?_, rfl, fun hindependent => ?_⟩
          · rw [erasureOf, hmanifest, hremove]
            rfl
          · exact (LeafMap.unfoldType_carries hindependent eq.params).all_signatures rest
        | _ => cases h

theorem constrainAt_cons_ok {s : Steps} {c : Constraint} {env : Env} {name next : String}
    {rest : List String} {sig out : Signature} {loads after : Loads}
    (h : s.constrainAt c env (name :: next :: rest) sig loads = (.ok out, after)) :
    ∃ m found inner changed middle, sig.module? name = some m ∧
      s.reopen (env.openSignature sig) m.decl loads = (.ok found, middle) ∧
      found.asSignature middle = (.ok inner, middle) ∧
      s.constrainAt c (env.openSignature sig) (next :: rest) inner middle = (.ok changed, after) ∧
      sig.setModuleDecl name (.typed (.signature changed)) = some out := by
  rw [constrainAt] at h
  cases hm : sig.module? name with
  | none =>
    rw [hm] at h
    cases h
  | some m =>
    rw [hm] at h
    obtain ⟨found, middle, hreopen, h⟩ := LookupM.bind_eq_ok.mp h
    obtain ⟨inner, middle', hinner, h⟩ := LookupM.bind_eq_ok.mp h
    obtain ⟨changed, last, hchanged, hset⟩ := LookupM.bind_eq_ok.mp h
    cases found with
    | functor param body => cases hinner
    | signature sig' =>
      cases hinner
      cases hresult : sig.setModuleDecl name (.typed (.signature changed)) with
      | none =>
        rw [hresult] at hset
        cases hset
      | some result =>
        rw [hresult] at hset
        cases hset
        exact ⟨m, _, inner, changed, middle, rfl, hreopen, rfl, hchanged, hresult⟩

theorem constrainAt_erases {s : Steps} {c : Constraint} (hc : c.IsDestructive)
    (names : List String) {env : Env} {sig out : Signature} {loads after : Loads}
    (h : s.constrainAt c env names sig loads = (.ok out, after)) :
    ∃ x, s.erasureAt c env names sig loads = (.ok x, after) ∧ x.frames.length + 1 = names.length ∧
      (x.Independent → (x.Clears out ↔ ∀ frame ∈ x.frames, x.Clears frame)) := by
  -- On the way down nothing but the innermost signature is rewritten. What goes back into a frame
  -- is clear exactly if the frames below are, so every module on the way adds one condition.
  induction names generalizing env sig out loads after with
  | nil => cases h
  | cons name names ih =>
    cases names with
    | nil =>
      obtain ⟨x, herasure, hframes, hclears⟩ := constrainMember_erases hc h
      refine ⟨x, herasure, by rw [hframes]; rfl, fun hindependent => ?_⟩
      rw [hframes]
      exact ⟨fun _ _ hframe => (List.not_mem_nil hframe).elim, fun _ => hclears hindependent⟩
    | cons next rest =>
      obtain ⟨m, found, inner, changed, middle, hm, hreopen, hinner, hchanged, hout⟩ :=
        constrainAt_cons_ok h
      obtain ⟨x, herasure, hlength, hclears⟩ := ih hchanged
      have hframe := sig.setModuleDecl_allLeaves x.test name (.typed (.signature changed))
      rw [hout] at hframe
      cases hblank : sig.setModuleDecl name .blank with
      | none =>
        rw [hblank] at hframe
        cases hframe
      | some frame =>
        rw [hblank] at hframe
        cases hframe with
        | some hframe =>
          refine ⟨{ x with frames := frame :: x.frames }, ?_, ?_, fun hindependent => ?_⟩
          · rw [erasureAt, hm, hblank]
            refine LookupM.bind_eq_ok.mpr ⟨found, middle, hreopen, ?_⟩
            refine LookupM.bind_eq_ok.mpr ⟨inner, middle, hinner, ?_⟩
            exact LookupM.bind_eq_ok.mpr ⟨x, after, herasure, rfl⟩
          · show x.frames.length + 1 + 1 = (next :: rest).length + 1
            rw [hlength]
          · show out.AllLeaves x.test ↔ ∀ below ∈ frame :: x.frames, below.AllLeaves x.test
            rw [List.forall_mem_cons, hframe]
            exact and_congr_right fun _ => hclears hindependent

end Steps

/-- After a destructive constraint nothing refers to what it has erased, if and only if nothing
around the modules on the way to it did. -/
theorem constrain_clears_iff (fuel : Nat) (env : Env) (c : Constraint) (hc : c.IsDestructive)
    (sig out : Signature) (loads after : Loads)
    (h : Lookup.constrain fuel env c sig loads = (.ok out, after)) :
    ∃ x, Lookup.erasure fuel env c sig loads = (.ok x, after) ∧
      x.frames.length + 1 = c.fragment.segments.length ∧
      (x.Independent → (x.Clears out ↔ ∀ frame ∈ x.frames, x.Clears frame)) := by
  unfold Lookup.constrain Steps.constrain at h
  unfold Lookup.erasure
  cases hfragment : c.fragment with
  | resolved fragment =>
    rw [hfragment] at h
    exact Steps.constrainAt_erases hc fragment.segments h
  | _ =>
    rw [hfragment] at h
    cases h

def Signature.nested (items : List Item) (path : Path) : Signature :=
  let id := (Identifier.root "A").child .moduleType "S"
  ⟨[.module ⟨id.child .module "M", [], .typed (.signature ⟨items, false, []⟩), false⟩,
    .value ⟨id.child .value "x", [], .constr path []⟩], false, []⟩

def TypeDecl.nested : TypeDecl where
  id := (((Identifier.root "A").child .moduleType "S").child .module "M").child .type "t"
  doc := []
  equation := {}
  representation := none

theorem TypeDecl.int_ne_nested :
    Path.ofIdentifier (.coreType "int") ≠ .ofIdentifier TypeDecl.nested.id := by
  intro h
  cases h

def Constraint.nested : Constraint :=
  .typeSubst (.resolved (.type (.module .root "M") "t"))
    { manifest := some (.constr (.ofIdentifier (.coreType "int")) []) }

theorem constrain_clears_nested :
    (Signature.nested [] (.ofIdentifier (.coreType "int"))).AllLeaves
      (.unapplied TypeDecl.nested.id) := by
  obtain ⟨x, herasure, -, hclears⟩ :=
    constrain_clears_iff 1 .empty .nested trivial
      (.nested [.type .nested] (.ofIdentifier (.coreType "int")))
      (.nested [] (.ofIdentifier (.coreType "int"))) {} {} rfl
  cases herasure
  refine (hclears ⟨TypeDecl.int_ne_nested, trivial⟩).mpr ?_
  rw [List.forall_mem_singleton]
  exact ⟨trivial, ⟨TypeDecl.int_ne_nested, trivial⟩, trivial⟩

theorem constrain_nested_dangles :
    Lookup.constrain 1 .empty .nested
        (.nested [.type .nested] (.ofIdentifier TypeDecl.nested.id)) {} =
      (.ok (.nested [] (.ofIdentifier TypeDecl.nested.id)), {}) ∧
    ∃ x, Lookup.erasure 1 .empty .nested
        (.nested [.type .nested] (.ofIdentifier TypeDecl.nested.id)) {} = (.ok x, {}) ∧
      x.id = TypeDecl.nested.id ∧ x.Independent ∧
      ¬ x.Clears (.nested [] (.ofIdentifier TypeDecl.nested.id)) := by
  refine ⟨rfl, _, rfl, rfl, ⟨TypeDecl.int_ne_nested, trivial⟩, ?_⟩
  rintro ⟨-, ⟨hpath, -⟩, -⟩
  exact hpath rfl

end CrossRef
