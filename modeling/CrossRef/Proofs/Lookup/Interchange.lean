import CrossRef.Proofs.Env.Bindings
import CrossRef.Proofs.Lookup.Correspondence

/-! Lookups depend on the bindings of an environment and not on its layers. A scope that binds
nothing, such as the one that holds a fragment root, goes unnoticed. -/

namespace CrossRef

namespace Env

structure SameTables (e e' : Env) : Prop where
  resolver : e.resolver = e'.resolver
  options : e.options = e'.options
  names : ∀ key, e.names.lookup key = e'.names.lookup key
  elements : ∀ id, e.elements.lookup id = e'.elements.lookup id

namespace SameTables

variable {e e' : Env} (h : e.SameTables e')

include h

theorem push (s : Scope) : (e.push s).SameTables (e'.push s) where
  resolver := h.resolver
  options := h.options
  names key := by
    show (s.names ++ e.names).lookup key = (s.names ++ e'.names).lookup key
    rw [List.lookup_append, List.lookup_append, h.names]
  elements id := by
    show (s.elements ++ e.elements).lookup id = (s.elements ++ e'.elements).lookup id
    rw [List.lookup_append, List.lookup_append, h.elements]

theorem lookupById (id : Identifier) : e.lookupById id = e'.lookupById id := by
  rw [lookupById_eq, lookupById_eq, h.elements]

theorem sameAnswers : e.SameAnswers e' where
  resolver := h.resolver
  nameTable ns name := by
    have htables (env : Env) : env.scopes.findSome? (·.names.lookup (ns, name)) =
        env.names.lookup (ns, name) := findSome?_lookup Scope.names (ns, name) env.scopes
    rw [htables, htables, h.names]
  lookupById id := by rw [h.lookupById]

theorem fetch (root : Identifier) : e.fetch root = e'.fetch root := by
  funext loads
  unfold Env.fetch Env.unit
  rw [h.lookupById, h.resolver]

end SameTables

structure Interchangeable (e e' : Env) : Prop where
  resolver : e.resolver = e'.resolver
  options : e.options = e'.options
  bindings : e.SameBindings e'

theorem interchangeable_addFragmentRoot (env : Env) (sig : Signature) :
    (env.addFragmentRoot sig).Interchangeable env := ⟨rfl, rfl, rfl, rfl⟩

namespace Interchangeable

variable {e e' : Env} (h : e.Interchangeable e')

include h

theorem openSignature (sig : Signature) :
    (e.openSignature sig).Interchangeable (e'.openSignature sig) :=
  ⟨h.resolver, h.options, h.bindings.push _⟩

theorem sameTables : e.SameTables e' where
  resolver := h.resolver
  options := h.options
  names key := by rw [h.bindings.names]
  elements id := by rw [h.bindings.elements]

end Interchangeable

end Env

namespace LookupM

def equality : LookupRel where
  rel x y := x = y
  env := Env.SameTables
  rel_pure _ := rfl
  rel_fail _ _ := rfl
  rel_bind hx hf := by
    rw [hx, funext hf]
  rel_orFail error _ hx := by
    rw [hx]
  env_answers h := h.sameAnswers
  env_push s h := h.push s
  rel_fetch root h := h.fetch root

theorem equality_fuel (fuel : Nat) : equality.FuelRel fuel fuel :=
  LookupRel.fuelRel Env.SameTables.options rfl fuel

end LookupM

theorem Env.Interchangeable.expandDecl {e e' : Env} (h : e.Interchangeable e') (fuel budget : Nat)
    (decl : ModuleDecl) : expandDecl fuel budget e decl = expandDecl fuel budget e' decl :=
  (LookupM.equality_fuel fuel).expand h.sameTables budget decl

end CrossRef
