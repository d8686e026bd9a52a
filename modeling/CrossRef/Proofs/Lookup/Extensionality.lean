import CrossRef.Proofs.Env.Reachable
import CrossRef.Proofs.Lookup.Interchange
import CrossRef.Proofs.Lookup.Query

/-! Environments that answer alike cannot be told apart by a lookup. A lookup binds more on its way,
in signatures that it opens and below functor parameters, and it sets the fragment root of each
constraint itself, so what the two environments agree on is all that it ever sees of them. -/

namespace CrossRef

theorem Env.Reachable.sameTables {e e' : Env} (he : e.Reachable) (he' : e'.Reachable)
    (hresolver : e.resolver = e'.resolver) (hoptions : e.options = e'.options)
    (hname : ∀ ns name, e.lookupByName ns name = e'.lookupByName ns name)
    (hid : ∀ id, e.lookupById id = e'.lookupById id) : e.SameTables e' where
  resolver := hresolver
  options := hoptions
  names := by
    rintro ⟨ns, name⟩
    rw [he.lookup_names, he'.lookup_names, hname]
  elements id := by rw [← Env.lookupById_eq, ← Env.lookupById_eq, hid]

def Query.Relative : {α : Type} → Query α → Prop
  | _, .fragment _ _ => True
  | _, _ => False

namespace Env.SameTables

variable {e e' : Env} (h : e.SameTables e') (fuel : Nat)

include h

theorem signatureOf (component : Component) :
    Lookup.signatureOf fuel e component = Lookup.signatureOf fuel e' component := by
  have steps := (LookupM.equality_fuel fuel).start h
  cases component with
  | module m => exact LookupM.equality.rel_bind (steps.moduleDecl h m.decl) fun _ => rfl
  | moduleType m => exact LookupM.equality.rel_bind (steps.moduleType h m) fun _ => rfl
  | parameter arg => exact LookupM.equality.rel_bind (steps.moduleTypeExpr h arg.expr) fun _ => rfl
  | _ => rfl

theorem classSignatureOf (component : Component) :
    Lookup.classSignatureOf fuel e component = Lookup.classSignatureOf fuel e' component := by
  have same (expr : ClassTypeExpr) :
      Lookup.classSignature fuel e expr = Lookup.classSignature fuel e' expr :=
    (LookupM.equality_fuel fuel).classSignature h expr
  cases component with
  | classDecl c => exact congrArg LookupM.result? (same c.decl.body)
  | classType c => exact congrArg LookupM.result? (same c.expr)
  | _ => rfl

theorem ask {α : Type} (q : Query α) (hroot : q.Relative → e.fragmentRoot? = e'.fragmentRoot?) :
    q.ask fuel e = q.ask fuel e' := by
  have lookups := LookupM.equality_fuel fuel
  have steps := lookups.start h
  cases q with
  | path kind p => exact steps.path h kind p
  | moduleExpansion p => exact steps.follow h (.module p)
  | moduleTypeExpansion p => exact steps.follow h (.moduleType p)
  | signatureOf component => exact h.signatureOf fuel component
  | classSignatureOf component => exact h.classSignatureOf fuel component
  | fragment ns f => exact congrArg LookupM.result? (steps.fragment h (hroot trivial) ns f)
  | moduleTypeExpr expr => exact steps.moduleTypeExpr h expr
  | signatureExpr expr => exact steps.signatureExpr h expr
  | aliasExpansion p strengthen => exact lookups.aliasExpansion h p strengthen
  | constrain c sig => exact steps.constrain h c sig

end Env.SameTables

/-- Two environments with the same resolver and the same options that answer every question for a
name or an identifier in the same way give the same result for every lookup, after the same units
have been loaded. Their docs, their layers and, unless the lookup itself is for a fragment, their
fragment roots may differ. -/
theorem ask_eq_of_same_lookups {α : Type} (q : Query α) (fuel : Nat) {e e' : Env}
    (he : e.Reachable) (he' : e'.Reachable)
    (hresolver : e.resolver = e'.resolver) (hoptions : e.options = e'.options)
    (hname : ∀ ns name, e.lookupByName ns name = e'.lookupByName ns name)
    (hid : ∀ id, e.lookupById id = e'.lookupById id)
    (hroot : q.Relative → e.fragmentRoot? = e'.fragmentRoot?) (loads : Loads) :
    q.ask fuel e loads = q.ask fuel e' loads := by
  have htables := he.sameTables he' hresolver hoptions hname hid
  rw [htables.ask fuel q hroot]

def Module.withType : Module :=
  let n := (Identifier.root "A").child .module "N"
  ⟨n, [], .typed (.signature (.ofItems [.type ⟨n.child .type "t", [], {}, none⟩])), false⟩

def Module.aliasOfN : Module :=
  ⟨(Identifier.root "A").child .module "M", [], .aliasOf (.root "N") none, false⟩

/-- One environment binds the two modules together and has docs on top. The other binds them one by
one, with a fragment root in between that has another module `N`. -/
theorem ask_eq_of_same_lookups_layered :
    let e := (Env.empty.openSignature (.ofItems [.module .withType, .module .aliasOfN])).addDocs
      ["A unit."]
    let root := Signature.ofItems [.module ⟨.root "N", [], .typed (.signature (.ofItems [])), false⟩]
    let e' := ((Env.empty.addModule .withType).addFragmentRoot root).addModule .aliasOfN
    let q := Query.path .type (.dotted "M.t")
    let t := ((Identifier.root "A").child .module "M").child .type "t"
    q.ask 0 e {} = (.ok (.identifier t), {}) ∧ q.ask 0 e' {} = (.ok (.identifier t), {}) := by
  intro e root e' q t
  have hbindings : e.SameBindings e' := ⟨rfl, rfl⟩
  have he : e.Reachable := .addDocs _ (.openSignature _ .empty)
  have he' : e'.Reachable := .addModule _ (.addFragmentRoot _ (.addModule _ .empty))
  have hsame : q.ask 0 e {} = q.ask 0 e' {} :=
    ask_eq_of_same_lookups q 0 he he' rfl rfl hbindings.lookupByName hbindings.lookupById
      False.elim {}
  have hanswer : q.ask 0 e {} = (.ok (.identifier t), {}) := rfl
  exact ⟨hanswer, hsame.symm.trans hanswer⟩

end CrossRef
