import CrossRef.Proofs.Compile.Completion
import CrossRef.Proofs.Compile.Normalisation
import CrossRef.Proofs.Env.Opening
import CrossRef.Proofs.Lookup.Agreement
import CrossRef.Proofs.Lookup.Units

/-! The compile pass comes to an end, as long as the includes that it meets outside the unit's own
text are expanded already, or written out, or name units that come earlier in an order of the units.
However modules, module types and classes refer to each other, and whatever the unit itself
includes, it takes three levels, the unit, the content of its includes and the written signatures
included there, and one more for each unit on the way down in that order. Without such an order
there is no bound: a unit that includes itself is never done. -/

namespace CrossRef

open PassM

theorem orderlyItems_below_mark {policy : Policy} {own marked : Bool} {items : List Item}
    (h : OrderlyItems policy own marked items) : OrderlyItems policy own true items := by
  induction items with
  | nil =>
    rw [OrderlyItems]
    trivial
  | cons item items ih =>
    rw [OrderlyItems] at h ⊢
    exact ⟨h.1.below_mark, ih h.2⟩

theorem Signature.Orderly.mark {policy : Policy} {sig : Signature}
    (h : sig.Orderly policy false) :
    Signature.Orderly policy false { sig with compiled := true } := by
  rw [Signature.Orderly]
  exact orderlyItems_below_mark h.items

theorem Env.Orderly.addLeaf {policy : Policy} {env : Env} (he : env.Orderly policy) {item : Item}
    (hitem : item.Orderly policy false true) :
    item.Orderly policy false true ∧ (env.addItem item).Orderly policy :=
  ⟨hitem, he.addItem hitem⟩

theorem SignatureExpr.pass_literal (p : Pass) (env : Env) (id : Identifier)
    (expr : SignatureExpr) :
    (expr.pass p env id).Yields fun out =>
      expr.isLiteral = true → ∃ sig, out = .signature sig := by
  cases expr with
  | signature sig =>
    rw [pass]
    exact (yields_true _).bind fun out _ => ensures_pure fun _ => ⟨out, rfl⟩
  | path path | constrained cs base | typeOf origin =>
    refine (yields_true _).mono fun _ _ hliteral => ?_
    cases hliteral

theorem IncludeDecl.pass_written (p : Pass) (env : Env) (parent : Identifier)
    (decl : IncludeDecl) :
    (decl.pass p env parent).Yields fun out =>
      decl.isWritten = true → ∀ loads after sig,
        p.includedSignature env out loads = (.ok sig, after) → sig.compiled = true := by
  cases decl with
  | aliasOf path =>
    refine (yields_true _).mono fun _ _ hwritten => ?_
    cases hwritten
  | typed expr =>
    rw [pass]
    have hexpr := (expr.pass_hasLiteralRoot p env parent).and
      (expr.pass_literal_compiled p env parent)
    refine hexpr.bind fun out hout => ensures_pure fun hwritten loads after sig hsig => ?_
    exact hout.2 (hout.1.trans hwritten) _ _ sig loads after hsig

theorem Pass.includeContent_compiled (env : Env) (i : Include) (sig : Signature) :
    (includeContent env i sig).compiled = sig.compiled := by
  have hmoved : (sig.reparent i.parent i.shadowed).compiled = sig.compiled := by
    rw [Signature.reparent]
    split
    · rfl
    · split
      · rfl
      · exact sig.mapLeaves_compiled _
  rw [includeContent]
  split
  · rw [Signature.strengthen_compiled, hmoved]
  · exact hmoved

theorem Pass.includeContent_orderly {policy : Policy} (env : Env) (i : Include) {sig : Signature}
    (h : sig.Orderly policy false)
    (hparent : ∀ owner, sig.parent? = some owner → policy.Clear owner.name →
      policy.Clear i.parent.name) :
    (includeContent env i sig).Orderly policy false := by
  have hmoved := h.reparent i.shadowed hparent
  rw [includeContent]
  split
  · exact hmoved.strengthen _
  · exact hmoved

namespace Pass

variable {policy : Policy} {env : Env} (p : Pass) (he : env.Orderly policy)

theorem constraintFragment_completes (root : Option Signature) {c : Constraint}
    (hc : c.fragment.Short) : (p.constraintFragment env root c).Completes policy (·.Short) := by
  cases root with
  | none => exact completes_pure hc
  | some sig =>
    exact .attempt? (Steps.Settle.fragment c.space hc) (fun _ hfound => completes_pure hfound)
      (completes_pure hc)

include he

theorem applyConstraint_completes (id : Identifier) {c : Constraint} (hc : c.Orderly policy false)
    {sig : Signature} (hsig : sig.Orderly policy false) :
    (p.applyConstraint env id c sig).Completes policy fun out => out.1.Orderly policy false := by
  rw [Pass.applyConstraint]
  split
  · refine .attempt (Lookup.constrain_completes p.fuel he hc hsig)
      (fun next hnext => completes_pure hnext) fun error => ?_
    exact (completes_file _).bind fun _ _ => completes_pure hsig
  · exact (completes_file _).bind fun _ _ => completes_pure hsig

theorem applyQuietly_completes {c : Constraint} (hc : c.Orderly policy false)
    {root : Option Signature} (hroot : ∀ sig, root = some sig → sig.Orderly policy false) :
    (p.applyQuietly env c root).Completes policy fun out =>
      ∀ sig, out = some sig → sig.Orderly policy false := by
  cases root with
  | none => exact completes_pure hroot
  | some sig =>
    have hconstrain := Lookup.constrain_completes p.fuel he hc (hroot sig rfl)
    rw [Pass.applyQuietly, ← bind_pure (PassM.attempt? _)]
    refine .attempt? hconstrain (fun next hnext => completes_pure ?_) (completes_pure ?_)
    · rintro _ ⟨⟩
      exact hnext
    · rintro _ ⟨⟩

theorem strengthening_completes (path : Option Path) :
    (p.strengthening env path).Completes policy fun _ => True := by
  cases path with
  | none => exact completes_pure trivial
  | some path => exact (resolve_completes he p.fuel .module path).map fun _ _ => trivial

theorem resolve_unit {name : String} (hname : ¬ policy.Clear name) (fuel : Nat) :
    (resolve fuel env .module (.root name)).Completes policy fun path =>
      path = .root name ∨ path = .ofIdentifier (.root name) := by
  rw [resolve_unresolved fuel env .module rfl]
  refine .attempt (Steps.modulePath_unit he hname (Steps.start fuel env))
    (fun target htarget => completes_pure (.inr ?_)) fun error => completes_pure (.inl rfl)
  rw [htarget]
  rfl

theorem includedSignature_completes {decl : IncludeDecl} (hdecl : decl.Orderly policy false) :
    (p.includedSignature env decl).Completes policy (·.Orderly policy false) := by
  cases decl with
  | aliasOf path =>
    exact (Lookup.aliasExpansion_completes p.fuel he path).bind fun _ =>
      LookupM.completes_asSignature
  | typed expr =>
    rw [IncludeDecl.Orderly] at hdecl
    exact Lookup.signatureExpr_completes p.fuel he hdecl

omit he in
theorem constrained_completes {id : Identifier} {cs : List Constraint}
    {expansion : Option StoredExpansion}
    (hcs : ∀ sig : Signature, sig.Orderly policy false →
      (passConstraints p env id sig cs).Completes policy fun out =>
        OrderlyConstraints policy false out.1 ∧ out.2.1.Orderly policy false)
    (hexpansion : (passExpansion p env expansion).Completes policy (OrderlyExpansion policy false))
    (base : SignatureExpr) (hbase : base.Orderly policy false) (sig : Signature)
    (hsig : sig.Orderly policy false) :
    PassM.Completes policy (do
      let (constraints, sig, allApplied) ← passConstraints p env id sig cs
      if allApplied && base.hasLiteralRoot && sig.unresolvedCount == 0 then
        return ModuleTypeExpr.signature { sig with compiled := true }
      else
        return .constrained constraints base (← passExpansion p env expansion))
      (·.Orderly policy false) := by
  refine (hcs sig hsig).bind fun out hout => ?_
  obtain ⟨cs', last, allApplied⟩ := out
  dsimp only
  split
  · refine completes_pure ?_
    rw [ModuleTypeExpr.Orderly]
    exact hout.2.mark
  · refine hexpansion.bind fun expansion hexpansion => completes_pure ?_
    rw [ModuleTypeExpr.Orderly, Bool.false_and]
    exact ⟨hout.1, hbase, hexpansion⟩

end Pass

def Pass.Splices (policy text : Policy) (p : Pass) : Prop :=
  ∀ (env : Env) (sig : Signature), env.Orderly policy → sig.Orderly text false →
    (p.splice env sig).Completes policy (·.Orderly policy false)

/-- What an include turns out to stand for can be spliced in its place. -/
def Pass.Expands (policy : Policy) (p : Pass) (env : Env) (i : Include) : Prop :=
  (p.includedSignature env i.decl).Completes policy fun sig =>
    (p.splice env (includeContent env i sig)).Completes policy (·.Orderly policy false)

theorem Pass.expandInclude_completes {policy : Policy} {p : Pass} {env : Env}
    (he : env.Orderly policy) (written : String) {i : Include} (hdecl : i.decl.Orderly policy false)
    (hcontent : i.content.Orderly policy false)
    (hexpands : i.content.compiled = false → p.Expands policy env i) :
    (p.expandInclude env written i).Completes policy fun out =>
      out.1.Orderly policy false true ∧ out.2.Orderly policy := by
  obtain ⟨parent, doc, decl, strengthened, shadowed, content⟩ := i
  have settled {content : Signature} (h : content.Orderly policy false) :
      Include.Orderly policy false true ⟨parent, doc, decl, strengthened, shadowed, content⟩ := by
    rw [Include.Orderly]
    exact ⟨.inl (by simp), hdecl, h⟩
  rw [Pass.expandInclude]
  split
  case isTrue => exact completes_pure ⟨settled hcontent, he.openSignature hcontent⟩
  case isFalse hopen =>
    have hsig := hexpands (Bool.eq_false_iff.mpr hopen)
    refine .attempt hsig (fun sig hspliced => ?_) fun error => ?_
    · exact hspliced.bind fun content hcontent =>
        completes_pure ⟨settled hcontent, he.openSignature hcontent⟩
    · exact (completes_file _).bind fun _ _ => completes_pure ⟨settled hcontent, he⟩

/-- The pass has what it takes for text of one level. In the text of the unit itself any include can
be expanded. Elsewhere it is written out, and what it stands for is compiled by then, or it names a
unit whose text is of a lower level. -/
structure Pass.Settles (policy text : Policy) (own : Bool) (p : Pass) : Prop where
  fuel : p.fuel ≠ 0
  within : text.Within policy
  splice : ∀ (env : Env) (sig : Signature), env.Orderly policy → sig.Orderly policy false →
    (own || sig.compiled) = true → (p.splice env sig).Completes policy (·.Orderly policy false)
  unit : ∀ decl, text.allows decl = true → ∃ name, decl = .aliasOf (.root name) ∧
    ¬ policy.Clear name ∧ p.Splices policy (policy.under name)

namespace Pass.Settles

variable {policy text : Policy} {own : Bool} {p : Pass} (hp : p.Settles policy text own)

include hp

theorem and (other : Bool) : p.Settles policy text (own && other) where
  fuel := hp.fuel
  within := hp.within
  splice env sig he hsig hready := by
    refine hp.splice env sig he hsig ?_
    cases own with
    | true => rfl
    | false => exact hready
  unit := hp.unit

variable {env : Env} (he : env.Orderly policy)

include he

theorem expands_ready {i : Include} (hdecl : i.decl.Orderly policy false)
    (hparent : policy.Clear i.parent.name)
    (hready : ∀ loads after sig,
      p.includedSignature env i.decl loads = (.ok sig, after) → (own || sig.compiled) = true) :
    p.Expands policy env i := by
  have hfound := (p.includedSignature_completes he hdecl).and hready
  refine hfound.mono fun sig hsig => ?_
  refine hp.splice env _ he (includeContent_orderly env i hsig.1 fun _ _ _ => hparent) ?_
  rw [includeContent_compiled]
  exact hsig.2

omit hp in
theorem expands_unit {name : String} (hname : ¬ policy.Clear name)
    (hsplices : p.Splices policy (policy.under name)) {i : Include} {path : Path}
    (hdecl : i.decl = .aliasOf path)
    (hpath : path = .root name ∨ path = .ofIdentifier (.root name)) :
    p.Expands policy env i := by
  rw [Expands, hdecl]
  refine (Lookup.aliasExpansion_unit he hname p.fuel hpath).bind fun found hfound => ?_
  obtain ⟨unit, hunit, rfl, rfl⟩ := hfound
  refine LookupM.completes_pure (hsplices env _ he (includeContent_orderly env i hunit.content ?_))
  -- The text stands under a name that has a number, and so no module in it is moved to the parent.
  intro owner howner hclear
  exact absurd (hunit.owner owner howner ((policy.under_within _).clear owner hclear)) hname

theorem declaration {i : Include}
    (hshape : (text.allows i.decl || i.content.compiled) = true ∨
      (own || i.decl.isWritten) = true ∧ policy.Clear i.parent.name)
    (hpass : (i.decl.pass p env i.parent).Completes policy (·.Orderly policy false)) :
    (i.decl.pass p env i.parent).Completes policy fun decl =>
      decl.Orderly policy false ∧ ∀ strengthened, i.content.compiled = false →
        p.Expands policy env { i with decl, strengthened } := by
  rcases hshape with hsettled | ⟨hopen, hparent⟩
  · rw [Bool.or_eq_true] at hsettled
    rcases hsettled with hallowed | hcompiled
    · obtain ⟨name, hname, hclear, hsplices⟩ := hp.unit i.decl hallowed
      rw [hname, IncludeDecl.pass]
      refine (Pass.resolve_unit he hclear p.fuel).bind fun path hpath => completes_pure ⟨?_, ?_⟩
      · rw [IncludeDecl.Orderly]
        trivial
      · exact fun strengthened _ => expands_unit he hclear hsplices rfl hpath
    · refine hpass.mono fun decl hdecl => ⟨hdecl, fun strengthened hopen => ?_⟩
      rw [hcompiled] at hopen
      cases hopen
  · refine (hpass.and (i.decl.pass_written p env i.parent)).mono fun decl hdecl => ⟨hdecl.1, ?_⟩
    intro strengthened _
    refine hp.expands_ready he hdecl.1 hparent fun loads after sig hsig => ?_
    rw [Bool.or_eq_true] at hopen ⊢
    exact hopen.imp_right fun hwritten => hdecl.2 hwritten loads after sig hsig

end Pass.Settles

section Level

variable {policy text : Policy} {p : Pass}

mutual

theorem Signature.Orderly.pass {own : Bool} (hp : p.Settles policy text own) {env : Env}
    (he : env.Orderly policy) :
    ∀ {sig : Signature}, sig.Orderly text own →
      (sig.pass p env).Completes policy (·.Orderly policy false)
  | ⟨items, true, doc⟩, h => by
    have hmarked : Signature.Orderly text false ⟨items, true, doc⟩ := by
      rwa [Signature.Orderly, Bool.not_true, Bool.and_false] at h ⊢
    rw [Signature.pass]
    exact completes_pure (hmarked.widen hp.within)
  | ⟨items, false, doc⟩, h => by
    rw [Signature.Orderly, Bool.not_false, Bool.and_true] at h
    rw [Signature.pass]
    refine (orderlyItems_pass hp (he.addDocs doc) h).bind fun out hout => completes_pure ?_
    rw [Signature.Orderly]
    exact hout.1

theorem orderlyItems_pass {own : Bool} (hp : p.Settles policy text own) {env : Env}
    (he : env.Orderly policy) :
    ∀ {items : List Item}, OrderlyItems text own false items →
      (passItems p env items).Completes policy fun out =>
        OrderlyItems policy false true out.1 ∧ out.2.Orderly policy
  | [], _ => by
    rw [passItems]
    refine completes_pure ⟨?_, he⟩
    rw [OrderlyItems]
    trivial
  | item :: items, h => by
    rw [OrderlyItems] at h
    rw [passItems]
    refine (h.1.pass hp he).bind fun first hfirst => ?_
    refine (orderlyItems_pass hp hfirst.2 h.2).bind fun rest hrest => completes_pure ?_
    rw [OrderlyItems]
    exact ⟨⟨hfirst.1, hrest.1⟩, hrest.2⟩

theorem Item.Orderly.pass {own : Bool} (hp : p.Settles policy text own) {env : Env}
    (he : env.Orderly policy) :
    ∀ {item : Item}, item.Orderly text own false →
      (item.pass p env).Completes policy fun out =>
        out.1.Orderly policy false true ∧ out.2.Orderly policy
  | .module m, h => by
    rw [Item.Orderly] at h
    rw [Item.pass]
    refine (h.pass hp he).bind fun m hm => completes_pure ⟨?_, he.bind m.id hm hm.clear⟩
    rw [Item.Orderly]
    exact hm
  | .moduleType m, h => by
    rw [Item.Orderly] at h
    rw [Item.pass]
    refine (h.pass hp he).bind fun m hm => completes_pure ⟨?_, he.bind m.id hm trivial⟩
    rw [Item.Orderly]
    exact hm
  | .included i, h => by
    rw [Item.Orderly] at h
    rw [Item.pass]
    refine (h.pass hp he).bind fun out hout => completes_pure ⟨?_, hout.2⟩
    rw [Item.Orderly]
    exact hout.1
  | .opened doc content, h => by
    rw [Item.Orderly] at h
    rw [Item.pass]
    refine (h.pass hp he).bind fun content hcontent => ?_
    refine completes_pure ⟨?_, he.openSignature hcontent⟩
    rw [Item.Orderly]
    exact hcontent
  | .moduleSubstitution m, _ => by
    rw [Item.pass]
    exact (Pass.resolve_completes he p.fuel .module m.manifest).bind fun _ _ =>
      completes_pure ⟨by simp only [Item.Orderly], he⟩
  | .type t, _ => by
    rw [Item.pass]
    have hself : (env.addItem (.type t)).Orderly policy :=
      (he.addLeaf (by simp only [Item.Orderly])).2
    exact (t.compile_completes hself hp.fuel).bind fun t _ =>
      completes_pure (he.addLeaf (by simp only [Item.Orderly]))
  | .typeSubstitution t, _ => by
    rw [Item.pass]
    exact (t.compile_completes he hp.fuel).bind fun _ _ =>
      completes_pure ⟨by simp only [Item.Orderly], he⟩
  | .value v, _ => by
    rw [Item.pass]
    exact (v.compile_completes he hp.fuel).bind fun v _ =>
      completes_pure (he.addLeaf (by simp only [Item.Orderly]))
  | .external e, _ => by
    rw [Item.pass]
    exact (e.compile_completes he hp.fuel).bind fun e _ =>
      completes_pure (he.addLeaf (by simp only [Item.Orderly]))
  | .classDecl c, _ => by
    rw [Item.pass]
    exact (c.compile_completes he hp.fuel).bind fun c _ =>
      completes_pure (he.addLeaf (by simp only [Item.Orderly]))
  | .classType c, _ => by
    rw [Item.pass]
    exact (c.compile_completes he hp.fuel).bind fun c _ =>
      completes_pure (he.addLeaf (by simp only [Item.Orderly]))
  | .extension e, _ => by
    rw [Item.pass]
    exact (e.compile_completes he hp.fuel).bind fun _ _ =>
      completes_pure ⟨by simp only [Item.Orderly], he⟩
  | .exception e, _ => by
    rw [Item.pass]
    exact (e.compile_completes he hp.fuel e.id).bind fun _ _ =>
      completes_pure ⟨by simp only [Item.Orderly], he⟩
  | .comment text, _ => by
    rw [Item.pass]
    exact completes_pure ⟨by simp only [Item.Orderly], he⟩

theorem Module.Orderly.pass {own : Bool} (hp : p.Settles policy text own) {env : Env}
    (he : env.Orderly policy) :
    ∀ {m : Module}, m.Orderly text own → (m.pass p env).Completes policy (·.Orderly policy false)
  | ⟨id, doc, decl, true⟩, h => by
    rw [Module.Orderly, Bool.not_true, Bool.and_false] at h
    rw [Module.pass]
    refine completes_pure ?_
    rw [Module.Orderly]
    exact ⟨hp.within.clear id h.1, h.2.widen hp.within⟩
  | ⟨id, doc, decl, false⟩, h => by
    rw [Module.Orderly, Bool.not_false, Bool.and_true] at h
    rw [Module.pass]
    refine (h.2.pass hp (he.addDocs doc) id).bind fun decl hdecl => completes_pure ?_
    rw [Module.Orderly]
    exact ⟨hp.within.clear id h.1, hdecl⟩

theorem ModuleDecl.Orderly.pass {own : Bool} (hp : p.Settles policy text own) {env : Env}
    (he : env.Orderly policy) (id : Identifier) :
    ∀ {decl : ModuleDecl}, decl.Orderly text own →
      (decl.pass p env id).Completes policy (·.Orderly policy false)
  | .aliasOf path expansion, h => by
    rw [ModuleDecl.Orderly] at h
    rw [ModuleDecl.pass]
    refine (Pass.resolveOrReport_completes he p.fuel _ _ id path).bind fun path _ => ?_
    refine (orderlyExpansion_pass hp he h).bind fun expansion hexpansion => completes_pure ?_
    rw [ModuleDecl.Orderly]
    exact hexpansion
  | .typed expr, h => by
    rw [ModuleDecl.Orderly] at h
    rw [ModuleDecl.pass]
    refine (h.pass hp he id).bind fun expr hexpr => completes_pure ?_
    rw [ModuleDecl.Orderly]
    exact hexpr

theorem ModuleType.Orderly.pass {own : Bool} (hp : p.Settles policy text own) {env : Env}
    (he : env.Orderly policy) :
    ∀ {m : ModuleType}, m.Orderly text own →
      (m.pass p env).Completes policy (·.Orderly policy false)
  | ⟨id, doc, none⟩, _ => by
    rw [ModuleType.pass]
    refine completes_pure ?_
    rw [ModuleType.Orderly]
    trivial
  | ⟨id, doc, some expr⟩, h => by
    rw [ModuleType.Orderly] at h
    rw [ModuleType.pass]
    refine (h.pass hp he id).bind fun expr hexpr => completes_pure ?_
    rw [ModuleType.Orderly]
    exact hexpr

theorem orderlyExpansion_pass {own : Bool} (hp : p.Settles policy text own) {env : Env}
    (he : env.Orderly policy) :
    ∀ {expansion : Option StoredExpansion}, OrderlyExpansion text own expansion →
      (passExpansion p env expansion).Completes policy (OrderlyExpansion policy false)
  | none, _ => by
    rw [passExpansion]
    refine completes_pure ?_
    rw [OrderlyExpansion]
    trivial
  | some expansion, h => by
    rw [OrderlyExpansion] at h
    rw [passExpansion]
    refine (h.pass hp he).bind fun expansion hexpansion => completes_pure ?_
    rw [OrderlyExpansion]
    exact hexpansion

theorem StoredExpansion.Orderly.pass {own : Bool} (hp : p.Settles policy text own) {env : Env}
    (he : env.Orderly policy) :
    ∀ {expansion : StoredExpansion}, expansion.Orderly text own →
      (expansion.pass p env).Completes policy (·.Orderly policy false)
  | .signature sig, h => by
    rw [StoredExpansion.Orderly] at h
    rw [StoredExpansion.pass]
    refine (h.pass hp he).bind fun sig hsig => completes_pure ?_
    rw [StoredExpansion.Orderly]
    exact hsig
  | .functor param body, h => by
    rw [StoredExpansion.Orderly] at h
    rw [StoredExpansion.pass]
    refine (h.1.pass hp he).bind fun param hparam => ?_
    refine (h.2.pass hp (he.addParameter hparam)).bind fun body hbody => completes_pure ?_
    rw [StoredExpansion.Orderly]
    exact ⟨hparam, hbody⟩

theorem FunctorParameter.Orderly.pass {own : Bool} (hp : p.Settles policy text own) {env : Env}
    (he : env.Orderly policy) :
    ∀ {param : FunctorParameter}, param.Orderly text own →
      (param.pass p env).Completes policy (·.Orderly policy false)
  | .unit, _ => by
    rw [FunctorParameter.pass]
    refine completes_pure ?_
    rw [FunctorParameter.Orderly]
    trivial
  | .named id expr, h => by
    rw [FunctorParameter.Orderly] at h
    rw [FunctorParameter.pass]
    refine (h.2.pass hp he id).bind fun expr hexpr => completes_pure ?_
    rw [FunctorParameter.Orderly]
    exact ⟨hp.within.clear id h.1, hexpr⟩

theorem ModuleTypeExpr.Orderly.pass {own : Bool} (hp : p.Settles policy text own) {env : Env}
    (he : env.Orderly policy) (id : Identifier) :
    ∀ {expr : ModuleTypeExpr}, expr.Orderly text own →
      (expr.pass p env id).Completes policy (·.Orderly policy false)
  | .path path expansion, h => by
    rw [ModuleTypeExpr.Orderly] at h
    rw [ModuleTypeExpr.pass]
    refine (Pass.resolveOrReport_completes he p.fuel _ _ id path).bind fun path _ => ?_
    refine (orderlyExpansion_pass hp he h).bind fun expansion hexpansion => completes_pure ?_
    rw [ModuleTypeExpr.Orderly]
    exact hexpansion
  | .signature sig, h => by
    rw [ModuleTypeExpr.Orderly] at h
    rw [ModuleTypeExpr.pass]
    refine (h.pass hp he).bind fun sig hsig => completes_pure ?_
    rw [ModuleTypeExpr.Orderly]
    exact hsig
  | .functor param body, h => by
    rw [ModuleTypeExpr.Orderly] at h
    rw [ModuleTypeExpr.pass]
    refine (h.1.pass hp he).bind fun param hparam => ?_
    refine (h.2.pass hp (he.addParameter hparam) id.result).bind fun body hbody => ?_
    refine completes_pure ?_
    rw [ModuleTypeExpr.Orderly]
    exact ⟨hparam, hbody⟩
  | .constrained cs base expansion, h => by
    rw [ModuleTypeExpr.Orderly] at h
    obtain ⟨hcs, hbase, hexpansion⟩ := h
    have hp' := hp.and base.isLiteral
    have hrest := p.constrained_completes
      (fun _ hsig => orderlyConstraints_pass hp' he id hsig hcs)
      (orderlyExpansion_pass hp' he hexpansion)
    rw [ModuleTypeExpr.pass]
    have hcompiled := (hbase.pass hp' he id).and (base.pass_literal p env id)
    refine hcompiled.bind fun compiled hcompiled => ?_
    -- A written base always expands. Where another one does not, the expression stays as it is, and
    -- it holds nothing but what all text may.
    cases hliteral : base.isLiteral with
    | true =>
      obtain ⟨written, rfl⟩ := hcompiled.2 hliteral
      have hwritten := hcompiled.1
      rw [SignatureExpr.Orderly] at hwritten
      exact .attempt_pure (hrest _ hcompiled.1 _ hwritten)
    | false =>
      rw [hliteral, Bool.and_false] at hcs hbase hexpansion
      refine .attempt (Lookup.signatureExpr_completes p.fuel he hcompiled.1)
        (fun sig hsig => hrest _ hcompiled.1 sig hsig) fun error => ?_
      refine (completes_file _).bind fun _ _ => completes_pure ?_
      rw [ModuleTypeExpr.Orderly, Bool.false_and]
      exact ⟨orderlyConstraints_widen hcs hp.within, hbase.widen hp.within,
        orderlyExpansion_widen hexpansion hp.within⟩
  | .typeOf origin expansion, h => by
    rw [ModuleTypeExpr.Orderly] at h
    rw [ModuleTypeExpr.pass]
    refine (Pass.resolveOrReport_completes he p.fuel _ _ id _).bind fun path _ => ?_
    refine (orderlyExpansion_pass hp he h).bind fun expansion hexpansion => completes_pure ?_
    rw [ModuleTypeExpr.Orderly]
    exact hexpansion

theorem orderlyConstraints_pass {own : Bool} (hp : p.Settles policy text own) {env : Env}
    (he : env.Orderly policy) (id : Identifier) {sig : Signature}
    (hsig : sig.Orderly policy false) :
    ∀ {cs : List Constraint}, OrderlyConstraints text own cs →
      (passConstraints p env id sig cs).Completes policy fun out =>
        OrderlyConstraints policy false out.1 ∧ out.2.1.Orderly policy false
  | [], _ => by
    rw [passConstraints]
    refine completes_pure ⟨?_, hsig⟩
    rw [OrderlyConstraints]
    trivial
  | c :: cs, h => by
    rw [OrderlyConstraints] at h
    rw [passConstraints]
    refine (h.1.pass hp he id (some sig)).bind fun c hc => ?_
    refine (p.applyConstraint_completes he id hc hsig).bind fun next hnext => ?_
    refine (orderlyConstraints_pass hp he id hnext h.2).bind fun rest hrest => completes_pure ?_
    rw [OrderlyConstraints]
    exact ⟨⟨hc, hrest.1⟩, hrest.2⟩

theorem SignatureExpr.Orderly.pass {own : Bool} (hp : p.Settles policy text own) {env : Env}
    (he : env.Orderly policy) (id : Identifier) :
    ∀ {expr : SignatureExpr}, expr.Orderly text own →
      (expr.pass p env id).Completes policy (·.Orderly policy false)
  | .path path, _ => by
    rw [SignatureExpr.pass]
    refine (Pass.resolve_completes he p.fuel .moduleType path).bind fun _ _ => completes_pure ?_
    rw [SignatureExpr.Orderly]
    trivial
  | .signature sig, h => by
    rw [SignatureExpr.Orderly] at h
    rw [SignatureExpr.pass]
    refine (h.pass hp he).bind fun sig hsig => completes_pure ?_
    rw [SignatureExpr.Orderly]
    exact hsig
  | .constrained cs base, h => by
    rw [SignatureExpr.Orderly] at h
    rw [SignatureExpr.pass]
    refine (h.2.pass hp he id).bind fun base hbase => ?_
    have hrest {root : Option Signature}
        (hroot : ∀ sig, root = some sig → sig.Orderly policy false) :
        PassM.Completes policy
          (do return SignatureExpr.constrained (← passBaseConstraints p env id root cs) base)
          (·.Orderly policy false) := by
      refine (orderlyBaseConstraints_pass hp he id hroot h.1).bind fun cs hcs => completes_pure ?_
      rw [SignatureExpr.Orderly]
      exact ⟨hcs, hbase⟩
    refine .attempt? (Lookup.signatureExpr_completes p.fuel he hbase)
      (fun sig hsig => hrest ?_) (hrest ?_)
    · rintro _ ⟨⟩
      exact hsig
    · rintro _ ⟨⟩
  | .typeOf origin, _ => by
    rw [SignatureExpr.pass]
    refine (Pass.resolve_completes he p.fuel .module origin.path).bind fun _ _ => completes_pure ?_
    rw [SignatureExpr.Orderly]
    trivial

theorem orderlyBaseConstraints_pass {own : Bool} (hp : p.Settles policy text own) {env : Env}
    (he : env.Orderly policy) (id : Identifier) {root : Option Signature}
    (hroot : ∀ sig, root = some sig → sig.Orderly policy false) :
    ∀ {cs : List Constraint}, OrderlyConstraints text own cs →
      (passBaseConstraints p env id root cs).Completes policy (OrderlyConstraints policy false)
  | [], _ => by
    rw [passBaseConstraints]
    refine completes_pure ?_
    rw [OrderlyConstraints]
    trivial
  | c :: cs, h => by
    rw [OrderlyConstraints] at h
    rw [passBaseConstraints]
    refine (h.1.pass hp he id root).bind fun c hc => ?_
    refine (p.applyQuietly_completes he hc hroot).bind fun next hnext => ?_
    refine (orderlyBaseConstraints_pass hp he id hnext h.2).bind fun rest hrest => ?_
    refine completes_pure ?_
    rw [OrderlyConstraints]
    exact ⟨hc, hrest⟩

theorem Constraint.Orderly.pass {own : Bool} (hp : p.Settles policy text own) {env : Env}
    (he : env.Orderly policy) (id : Identifier) (root : Option Signature) :
    ∀ {c : Constraint}, c.Orderly text own →
      (c.pass p env id root).Completes policy (·.Orderly policy false)
  | .moduleEq f decl, h => by
    rw [Constraint.pass]
    refine (p.constraintFragment_completes root h.short).bind fun f hf => ?_
    rw [Constraint.Orderly] at h
    refine (h.2.pass hp he id).bind fun decl hdecl => completes_pure ?_
    rw [Constraint.Orderly]
    exact ⟨hf, hdecl⟩
  | .moduleSubst f path, h => by
    rw [Constraint.pass]
    refine (p.constraintFragment_completes root h.short).bind fun f hf => ?_
    refine (Pass.resolve_completes he p.fuel .module path).bind fun path _ => completes_pure ?_
    rw [Constraint.Orderly]
    exact hf
  | .typeEq f eq, h => by
    rw [Constraint.pass]
    refine (p.constraintFragment_completes root h.short).bind fun f hf => ?_
    refine (eq.compile_completes he hp.fuel id).bind fun eq _ => completes_pure ?_
    rw [Constraint.Orderly]
    exact hf
  | .typeSubst f eq, h => by
    rw [Constraint.pass]
    refine (p.constraintFragment_completes root h.short).bind fun f hf => ?_
    refine (eq.compile_completes he hp.fuel id).bind fun eq _ => completes_pure ?_
    rw [Constraint.Orderly]
    exact hf

theorem Include.Orderly.pass {own : Bool} (hp : p.Settles policy text own) {env : Env}
    (he : env.Orderly policy) :
    ∀ {i : Include}, i.Orderly text own false →
      (i.pass p env).Completes policy fun out =>
        out.1.Orderly policy false true ∧ out.2.Orderly policy
  | ⟨parent, doc, decl, strengthened, shadowed, content⟩, h => by
    rw [Include.Orderly] at h
    obtain ⟨hshape, hdecl, hcontent⟩ := h
    rw [Include.pass]
    have hopen : (text.allows decl || content.compiled) = true ∨
        (own || decl.isWritten) = true ∧ policy.Clear parent.name := by
      rw [Bool.or_false] at hshape
      exact hshape.imp_right fun hopen => ⟨hopen.1, hp.within.clear parent hopen.2⟩
    have hcompiled := hp.declaration he
      (i := ⟨parent, doc, decl, strengthened, shadowed, content⟩) hopen (hdecl.pass hp he parent)
    refine hcompiled.bind fun compiled hcompiled => ?_
    refine (p.strengthening_completes he strengthened).bind fun strengthened _ => ?_
    exact Pass.expandInclude_completes he decl.text hcompiled.1 (hcontent.widen hp.within)
      (hcompiled.2 strengthened)

theorem IncludeDecl.Orderly.pass {own : Bool} (hp : p.Settles policy text own) {env : Env}
    (he : env.Orderly policy) (parent : Identifier) :
    ∀ {decl : IncludeDecl}, decl.Orderly text own →
      (decl.pass p env parent).Completes policy (·.Orderly policy false)
  | .aliasOf path, _ => by
    rw [IncludeDecl.pass]
    refine (Pass.resolve_completes he p.fuel .module path).bind fun _ _ => completes_pure ?_
    rw [IncludeDecl.Orderly]
    trivial
  | .typed expr, h => by
    rw [IncludeDecl.Orderly] at h
    rw [IncludeDecl.pass]
    refine (h.pass hp he parent).bind fun expr hexpr => completes_pure ?_
    rw [IncludeDecl.Orderly]
    exact hexpr

end

end Level

section Levels

variable {ranking : Ranking} {height level : Nat}

theorem Pass.settles_ranked {own : Bool} {p : Pass} (hlevel : level ≤ height) (hfuel : p.fuel ≠ 0)
    (hsplice : ∀ (env : Env) (sig : Signature), env.Orderly (.ranked ranking height) →
      sig.Orderly (.ranked ranking height) false → (own || sig.compiled) = true →
      (p.splice env sig).Completes (.ranked ranking height)
        (·.Orderly (.ranked ranking height) false))
    (hlower : ∀ number < level, p.Splices (.ranked ranking height) (.ranked ranking number)) :
    p.Settles (.ranked ranking height) (.ranked ranking level) own where
  fuel := hfuel
  within := Policy.ranked_within ranking hlevel
  splice := hsplice
  unit := by
    intro decl hallowed
    obtain ⟨name, number, rfl, hnumber, hbelow⟩ := Policy.ranked_allows_iff.mp hallowed
    refine ⟨name, rfl, ?_, fun env sig he hsig => ?_⟩
    · simp [Policy.Clear, hnumber]
    · have hheight : number ≤ height := Nat.le_of_lt (Nat.lt_of_lt_of_le hbelow hlevel)
      rw [Policy.under, hnumber, Option.getD_some, Nat.min_eq_right hheight] at hsig
      exact hlower number hbelow env sig he hsig

variable {env : Env} (fuel : Nat) {sig : Signature}

theorem Signature.compile_marked {policy : Policy} (hsig : sig.Orderly policy false)
    (hmark : sig.compiled = true) :
    (sig.compile (fuel + 1) env).Completes policy (·.Orderly policy false) := by
  obtain ⟨items, _ | _, doc⟩ := sig
  · cases hmark
  · rw [Signature.compile, Signature.pass]
    exact completes_pure hsig

variable (he : env.Orderly (.ranked ranking height))

include he

/-- The induction is on the level: text that is spliced for the name of a unit is of a lower one. -/
theorem Signature.compile_settled (hlevel : level ≤ height)
    (hsig : sig.Orderly (.ranked ranking level) false) :
    (sig.compile (fuel + level + 2) env).Completes (.ranked ranking height)
      (·.Orderly (.ranked ranking height) false) := by
  induction level using Nat.strongRecOn generalizing env sig fuel with
  | ind level ih =>
    have hp : Pass.Settles (.ranked ranking height) (.ranked ranking level) false
        ⟨fuel + level + 1, Signature.compile (fuel + level + 1)⟩ := by
      refine Pass.settles_ranked hlevel (Nat.succ_ne_zero _)
        (fun env sig _ hsig hmark => Signature.compile_marked _ hsig hmark) ?_
      intro number hlower env sig he hsig
      have hspare : fuel + level + 1 = fuel + (level - 1 - number) + number + 2 := by omega
      rw [hspare]
      exact ih number hlower _ he (Nat.le_of_lt (Nat.lt_of_lt_of_le hlower hlevel)) hsig
    exact hsig.pass hp he

theorem Signature.compile_own (hsig : sig.Orderly (.ranked ranking height) true) :
    (sig.compile (fuel + height + 3) env).Completes (.ranked ranking height)
      (·.Orderly (.ranked ranking height) false) := by
  have hp : Pass.Settles (.ranked ranking height) (.ranked ranking height) true
      ⟨fuel + height + 2, Signature.compile (fuel + height + 2)⟩ := by
    refine Pass.settles_ranked (Nat.le_refl height) (Nat.succ_ne_zero _)
      (fun env sig he hsig _ => Signature.compile_settled fuel he (Nat.le_refl height) hsig) ?_
    intro number hlower env sig he hsig
    have hwithin := Policy.ranked_within ranking (Nat.le_of_lt hlower)
    exact Signature.compile_settled fuel he (Nat.le_refl height) (hsig.widen hwithin)
  exact hsig.pass hp he

end Levels

section Opened

variable {policy : Policy} {env : Env} (he : env.Orderly policy)

include he

theorem Pass.openUnits_completes (self : String) (names : List String) :
    (openUnits self env names).Completes policy (·.Orderly policy) := by
  induction names generalizing env with
  | nil => exact completes_pure he
  | cons name names ih =>
    rw [openUnits]
    split
    · exact ih he
    · have hfetch : (env.fetchByName name).Completes policy fun found =>
          ∀ unit, found = some unit → unit.Stands policy := by
        rw [Env.fetchByName]
        split
        · refine (LookupM.completes_fetch he _).map fun unit hunit => ?_
          rintro _ ⟨⟩
          exact hunit.stands
        · exact LookupM.completes_pure (by rintro _ ⟨⟩)
        · exact LookupM.completes_pure (by rintro _ ⟨⟩)
      refine .attempt hfetch (fun found hfound => ?_) fun error => ih he
      cases found with
      | none => exact ih he
      | some unit => exact ih (he.openUnit (hfound unit rfl))

theorem Pass.packed_completes (fuel : Nat) (packed : List Packed) :
    (Pass.packed fuel env packed).Completes policy fun _ => True := by
  induction packed with
  | nil => exact completes_pure trivial
  | cons p ps ih =>
    refine (Pass.resolve_completes he fuel .module p.path).bind fun _ _ => ?_
    exact ih.bind fun _ _ => completes_pure trivial

end Opened

def CompilationUnit.Orderly (policy : Policy) (unit : CompilationUnit) : Prop :=
  ∀ sig, unit.content = .module sig → sig.Orderly policy true

theorem CompilationUnit.compileIn_completes {ranking : Ranking} {height : Nat} {env : Env}
    (he : env.Orderly (.ranked ranking height)) (fuel : Nat) {unit : CompilationUnit}
    (hunit : unit.Orderly (.ranked ranking height)) :
    (unit.compileIn (fuel + height + 3) env).Completes (.ranked ranking height) fun _ => True := by
  refine (Pass.openUnits_completes he unit.name _).bind fun opened hopened => ?_
  have hscope := hopened.addDocs unit.doc
  have hcontent : (unit.content.compile (fuel + height + 3) (opened.addDocs unit.doc)).Completes
      (.ranked ranking height) fun _ => True := by
    cases hcontent : unit.content with
    | module sig =>
      exact (Signature.compile_own fuel hscope (hunit sig hcontent)).bind fun _ _ =>
        completes_pure trivial
    | pack packed =>
      exact (Pass.packed_completes hscope _ packed).bind fun _ _ => completes_pure trivial
  exact hcontent.bind fun _ _ => completes_pure trivial

/-- A compile ends. The fuel depends on how far down units include each other by name and on nothing
else; it is three where they do not. -/
theorem compile_terminates {ranking : Ranking} {height : Nat} {resolver : Resolver}
    (hresolver : resolver.Orderly (.ranked ranking height)) (options : ResolverOptions)
    {unit : CompilationUnit} (hunit : unit.Orderly (.ranked ranking height)) {fuel : Nat}
    (hfuel : height + 3 ≤ fuel) : compile fuel resolver options unit ≠ .outOfFuel := by
  obtain ⟨rest, rfl⟩ := Nat.exists_eq_add_of_le' hfuel
  have henv := Env.orderly_create hresolver options
  have hrun := CompilationUnit.compileIn_completes henv rest hunit {} Loads.orderly_empty
  rw [compile]
  rcases hend : (unit.compileIn (rest + (height + 3)) (.create resolver options)).run {} with
    ⟨(error | _) | ⟨compiled, reports⟩, after⟩ <;> rw [Nat.add_assoc, hend] at hrun
  · rintro ⟨⟩
  · exact hrun.elim
  · rintro ⟨⟩

theorem Catalog.orderly_toResolver {policy : Policy} {c : Catalog} (hroots : c.roots = [])
    (hunits : ∀ unit ∈ c.units, unit.Stands policy) : c.toResolver.Orderly policy where
  roots := by
    intro name root hfound
    simp only [toResolver, lookupUnit, hroots, List.lookup_nil] at hfound
    split at hfound
    · cases hfound
    · split at hfound <;> cases hfound
      exact .inr rfl
  units := by
    intro earlier root unit hload
    simp only [toResolver, loadUnit] at hload
    split at hload
    · cases hload
    · split at hload
      case h_1 hfound =>
        cases hload
        have hname := List.find?_some hfound
        exact ⟨hunits unit (List.mem_reverse.mp (List.mem_of_find?_eq_some hfound)),
          .inr (of_decide_eq_true hname)⟩
      case h_2 => cases hload

theorem CompilationUnit.stands_of_own {policy : Policy} {unit : CompilationUnit}
    (hroot : unit.id = .root unit.name)
    (howner : ∀ owner, unit.content.signature.parent? = some owner → owner = unit.id)
    (hcontent : unit.content.signature.Orderly (policy.under unit.name) false) :
    unit.Stands policy where
  content := hcontent
  owner := by
    intro owner hparent hclear
    rwa [howner owner hparent] at hclear
  root := .inr hroot

/-- Units in an order in which each may include those before it. -/
def Ranking.ofNames (names : List String) : Ranking where
  rank name := if Shown name then names.idxOf? name else none
  rank_braced name := if_neg (by simp [Shown, braced])

def CompilationUnit.cyclicAliases : CompilationUnit where
  id := .root "P"
  doc := []
  imports := []
  content := .module (.ofItems ([("M", "N"), ("N", "M")].map fun (name, target) =>
    .module ⟨(Identifier.root "P").child .module name, [], .aliasOf (.root target) none, false⟩))
  hidden := false

def CompilationUnit.including (name target : String) : CompilationUnit where
  id := .root name
  doc := []
  imports := []
  content := .module (.ofItems
    [.included ⟨.root name, [], .aliasOf (.root target), none, {}, .ofItems []⟩])
  hidden := false

theorem CompilationUnit.including_orderly {policy : Policy} {own : Bool} {name target : String}
    (h : policy.allows (.aliasOf (.root target)) = true) :
    (including name target).content.signature.Orderly policy own := by
  simp [including, UnitContent.signature, Signature.ofItems, Signature.Orderly, OrderlyItems,
    Item.Orderly, Include.Orderly, IncludeDecl.Orderly, h]

def Catalog.chain : Catalog := { units := [.cyclicAliases, .including "B" "P"] }

theorem Catalog.orderly_chain :
    Catalog.chain.toResolver.Orderly (.ranked (.ofNames ["P", "B"]) 2) := by
  refine orderly_toResolver rfl fun unit hunit => ?_
  rw [chain, List.mem_cons, List.mem_singleton] at hunit
  rcases hunit with rfl | rfl
  · refine CompilationUnit.stands_of_own rfl (fun _ howner => (Option.some.inj howner).symm) ?_
    simp only [CompilationUnit.cyclicAliases, UnitContent.signature, Signature.ofItems,
      List.map_cons, List.map_nil, Signature.Orderly, OrderlyItems, Item.Orderly, Module.Orderly,
      ModuleDecl.Orderly, OrderlyExpansion, and_true]
    exact ⟨rfl, rfl⟩
  · exact CompilationUnit.stands_of_own rfl (fun _ howner => (Option.some.inj howner).symm)
      (CompilationUnit.including_orderly (by decide))

/-- The included unit includes another one, whose modules refer to each other in a circle. -/
theorem compile_terminates_chain :
    compile 5 Catalog.chain.toResolver {} (.including "A" "B") ≠ .outOfFuel := by
  refine compile_terminates Catalog.orderly_chain {} ?_ (Nat.le_refl 5)
  rintro _ ⟨⟩
  exact CompilationUnit.including_orderly (by decide)

theorem Pass.expandInclude_error {p : Pass} {env : Env} {written : String} {i : Include}
    {sig : Signature} {loads middle after : Loads} {error : Abort}
    (hopen : i.content.compiled = false)
    (hsig : p.includedSignature env i.decl loads = (.ok sig, middle))
    (hsplice : (p.splice env (includeContent env i sig)).run middle = (.error error, after)) :
    (p.expandInclude env written i).run loads = (.error error, after) := by
  rw [expandInclude, hopen, if_neg Bool.false_ne_true, run_attempt_bind, hsig]
  exact run_bind_error hsplice _

section SelfInclusion

def Catalog.selfIncluding : Catalog := { units := [.including "B" "B"] }

def Env.selfIncluding : Env := .create Catalog.selfIncluding.toResolver {}

theorem Env.fetch_selfIncluding {loads : Loads}
    (h : loads.Faithful Catalog.selfIncluding.toResolver) :
    ∃ after, after.Faithful Catalog.selfIncluding.toResolver ∧
      Env.selfIncluding.fetch (.root "B") loads = (.ok (.including "B" "B"), after) := by
  have hsteady : Catalog.selfIncluding.toResolver.Steady := fun _ _ _ => rfl
  obtain ⟨hanswer, hafter⟩ :=
    LookupM.fetch_answer (e := Env.selfIncluding) hsteady rfl (.root "B") h
  exact ⟨_, hafter, Prod.ext hanswer rfl⟩

theorem Pass.includedSignature_selfIncluding (p : Pass) {loads : Loads}
    (h : loads.Faithful Catalog.selfIncluding.toResolver) :
    ∃ after, after.Faithful Catalog.selfIncluding.toResolver ∧
      p.includedSignature .selfIncluding (.aliasOf (.resolved (.identifier (.root "B")))) loads =
        (.ok (CompilationUnit.including "B" "B").content.signature, after) := by
  obtain ⟨after, hafter, hfetch⟩ := Env.fetch_selfIncluding h
  have hpath : Lookup.modulePath p.fuel .selfIncluding (.resolved (.identifier (.root "B"))) =
      pure (.identifier (.root "B")) := rfl
  have hexpansion : Lookup.moduleExpansion p.fuel .selfIncluding (.identifier (.root "B")) =
      Env.selfIncluding.fetch (.root "B") >>= fun unit =>
        pure (.signature unit.content.signature) := rfl
  refine ⟨after, hafter, ?_⟩
  rw [includedSignature, Lookup.aliasExpansion, hpath, pure_bind, hexpansion]
  simp only [LookupM.bind_apply, LookupM.pure_apply, hfetch, Expansion.asSignature]

theorem Signature.compile_selfIncluding (fuel : Nat) :
    (CompilationUnit.including "B" "B").content.signature.compile (fuel + 1) .selfIncluding =
      (do
        let (i, _) ← Pass.expandInclude ⟨fuel, Signature.compile fuel⟩ .selfIncluding "B"
          ⟨.root "B", [], .aliasOf (.resolved (.identifier (.root "B"))), none, {}, .ofItems []⟩
        return ⟨[.included i], true, []⟩) := by
  have hresolve : Pass.resolve fuel .selfIncluding .module (.root "B") =
      pure (.resolved (.identifier (.root "B"))) := rfl
  have hdocs : Env.selfIncluding.addDocs [] = .selfIncluding := rfl
  simp only [CompilationUnit.including, UnitContent.signature, Signature.ofItems, Signature.compile,
    Signature.pass, passItems, Item.pass, Include.pass, IncludeDecl.pass, Pass.strengthening,
    pure_bind, bind_assoc, hdocs, hresolve]
  rfl

theorem Signature.compile_selfIncluding_outOfFuel (fuel : Nat) {loads : Loads}
    (h : loads.Faithful Catalog.selfIncluding.toResolver) :
    ∃ after, ((CompilationUnit.including "B" "B").content.signature.compile fuel
      .selfIncluding).run loads = (.error .outOfFuel, after) := by
  induction fuel generalizing loads with
  | zero => exact ⟨loads, rfl⟩
  | succ fuel ih =>
    obtain ⟨middle, hmiddle, hincluded⟩ :=
      Pass.includedSignature_selfIncluding ⟨fuel, Signature.compile fuel⟩ h
    obtain ⟨after, hspent⟩ := ih hmiddle
    refine ⟨after, ?_⟩
    rw [Signature.compile_selfIncluding]
    -- The unit stands under its own root already and has no types to strengthen, so that it is
    -- put in the place of the include as it is.
    exact run_bind_error (Pass.expandInclude_error rfl hincluded hspent) _

end SelfInclusion

/-- There is nothing but one include, and no fuel suffices. -/
theorem compile_selfIncluding_never_ends :
    Catalog.selfIncluding.toResolver.Orderly .free ∧
      (CompilationUnit.including "B" "B").Orderly .free ∧
      ¬ ∃ fuel, compile fuel Catalog.selfIncluding.toResolver {} (.including "B" "B") ≠
        .outOfFuel := by
  refine ⟨Catalog.orderly_toResolver rfl ?_, ?_, ?_⟩
  · intro unit hunit
    rw [List.mem_singleton.mp hunit]
    exact CompilationUnit.stands_of_own rfl (fun _ howner => (Option.some.inj howner).symm)
      (CompilationUnit.including_orderly rfl)
  · rintro _ ⟨⟩
    exact CompilationUnit.including_orderly rfl
  · rintro ⟨fuel, hends⟩
    obtain ⟨after, hspent⟩ := Signature.compile_selfIncluding_outOfFuel fuel
      (Loads.faithful_empty Catalog.selfIncluding.toResolver)
    have hcontent : ((CompilationUnit.including "B" "B").content.compile fuel
        .selfIncluding).run {} = (.error .outOfFuel, after) := run_bind_error hspent _
    have hrun : ((CompilationUnit.including "B" "B").compileIn fuel
        (.create Catalog.selfIncluding.toResolver {})).run {} = (.error .outOfFuel, after) := by
      simp only [CompilationUnit.compileIn, Env.create, Pass.openUnits, pure_bind]
      exact run_bind_error hcontent _
    apply hends
    rw [compile, hrun]

end CrossRef
