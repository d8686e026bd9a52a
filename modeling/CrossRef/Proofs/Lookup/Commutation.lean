import CrossRef.Proofs.Env.Outline
import CrossRef.Proofs.Lookup.Erasure
import CrossRef.Proofs.Lookup.Removal
import CrossRef.Proofs.Signature.Composition
import CrossRef.Proofs.Signature.Independence

/-! Destructive type constraints in either order. Where neither definition applies the type of the
other, one definition unfolded after the other is both unfolded at once. -/

namespace CrossRef

namespace TypeExpr

theorem mapTypes_eq_map (r : LeafMap) (ts : List TypeExpr) :
    mapTypes r ts = ts.map (·.mapLeaves r) := by
  induction ts with
  | nil => rw [mapTypes, List.map_nil]
  | cons t ts ih => rw [mapTypes, List.map_cons, ih]

theorem argument?_mapTypes (r : LeafMap) (params : List String) (args : List TypeExpr)
    (name : String) :
    argument? params (mapTypes r args) name = (argument? params args name).map (·.mapLeaves r) := by
  rw [argument?, mapTypes_eq_map, List.zip_map_right, ← List.map_reverse]
  exact lookup_map_snd _ name _

theorem instantiate_mapLeaves_unfoldType {target : Identifier} {manifest : TypeExpr}
    (hmanifest : manifest.AllLeaves (.unapplied target)) (params params' : List String)
    (args : List TypeExpr) (manifest' : TypeExpr) :
    (manifest.instantiate params args).mapLeaves (.unfoldType target params' manifest') =
      manifest.instantiate params (mapTypes (.unfoldType target params' manifest') args) := by
  refine LeafMap.Composes.typeExprWhere (q := .unapplied target) ?_ manifest hmanifest
  refine ⟨fun _ => rfl, fun _ _ => rfl, fun name => ?_, fun p args hp => ?_⟩
  · dsimp only
    rw [argument?_mapTypes]
    cases argument? params args name with
    | none => rfl
    | some t => rfl
  · rw [TypeExpr.mapLeaves]
    exact if_neg hp

end TypeExpr

namespace LeafMap

def unfoldTypes (a : Identifier) (params : List String) (manifest : TypeExpr) (b : Identifier)
    (params' : List String) (manifest' : TypeExpr) : LeafMap where
  constr := fun path args =>
    if path = .ofIdentifier a then manifest.instantiate params args
    else if path = .ofIdentifier b then manifest'.instantiate params' args
    else .constr path args

section Unfolding

variable {a b : Identifier} {τ υ : TypeExpr} (params params' : List String)

theorem unfoldTypes_comm (hab : a ≠ b) :
    unfoldTypes a params τ b params' υ = unfoldTypes b params' υ a params τ := by
  have hpaths : Path.ofIdentifier a ≠ .ofIdentifier b := by
    intro h
    cases h
    exact hab rfl
  unfold unfoldTypes
  congr 1
  funext path args
  by_cases ha : path = .ofIdentifier a
  · rw [if_pos ha, if_neg (ha ▸ hpaths), if_pos ha]
  · rw [if_neg ha, if_neg ha]

theorem unfoldType_composes (hτ : τ.AllLeaves (.unapplied b)) :
    Composes (.ofPath fun _ => True) (unfoldType a params τ) (unfoldType b params' υ)
      (unfoldTypes a params τ b params' υ) where
  ident _ := rfl
  path _ _ := rfl
  var _ := rfl
  constr path args _ := by
    by_cases ha : path = .ofIdentifier a
    · simp only [unfoldType, unfoldTypes, if_pos ha]
      exact TypeExpr.instantiate_mapLeaves_unfoldType hτ params params' args υ
    · simp only [unfoldType, unfoldTypes, if_neg ha]
      rw [TypeExpr.mapLeaves]

end Unfolding

end LeafMap

theorem Signature.substituteType_comm {a b : Identifier} (hab : a ≠ b) {τ υ : TypeExpr}
    (hτ : τ.AllLeaves (.unapplied b)) (hυ : υ.AllLeaves (.unapplied a))
    (params params' : List String) (sig : Signature) :
    (sig.substituteType a params τ).substituteType b params' υ =
      (sig.substituteType b params' υ).substituteType a params τ := by
  have hfirst := (LeafMap.unfoldType_composes params params' (a := a) (υ := υ) hτ).signature sig
  have hsecond := (LeafMap.unfoldType_composes params' params (a := b) (υ := τ) hυ).signature sig
  rw [LeafMap.unfoldTypes_comm params' params hab.symm] at hsecond
  exact hfirst.trans hsecond.symm

theorem Item.declaresType_mapLeaves_unfoldType (name : String) (target : Identifier)
    (params : List String) (manifest : TypeExpr) (item : Item) :
    (item.mapLeaves (.unfoldType target params manifest)).declaresType name =
      item.declaresType name := by
  cases item <;> rw [Item.mapLeaves] <;> rfl

theorem Signature.remove_substituteType {sig rest : Signature} {name : String} {t : TypeDecl}
    (h : sig.remove (·.declaresType name) = some (.type t, rest)) (target : Identifier)
    (params : List String) (manifest : TypeExpr) :
    ∃ t', t'.id = t.id ∧ (sig.substituteType target params manifest).remove (·.declaresType name) =
      some (.type t', rest.substituteType target params manifest) := by
  refine ⟨t.mapLeaves (.unfoldType target params manifest), rfl, ?_⟩
  have hsame := Item.declaresType_mapLeaves_unfoldType name target params manifest
  rw [Signature.substituteType, Signature.remove_mapLeaves hsame, h, Option.map_some, Prod.map,
    Item.mapLeaves]
  rfl

namespace Lookup

theorem constrain_typeSubst_of_remove {f : ResolvedFragment} {name : String}
    (hf : f.segments = [name]) (fuel : Nat) (env : Env) {sig rest : Signature} {t : TypeDecl}
    (hremove : sig.remove (·.declaresType name) = some (.type t, rest)) {equation : TypeEquation}
    {manifest : TypeExpr} (hmanifest : equation.manifest = some manifest) :
    constrain fuel env (.typeSubst (.resolved f) equation) sig =
      pure (rest.substituteType t.id equation.params manifest) := by
  rw [constrain_single hf fuel env rfl]
  simp only [Steps.constrainMember, hmanifest, hremove]

/-- Two types of different names can be erased in either order. If neither definition applies the
other type, the signature that is left is the same. -/
theorem constrain_typeSubst_comm (fuel : Nat) (env : Env) {sig : Signature}
    {f g : ResolvedFragment} {t u : String} (hf : f.segments = [t]) (hg : g.segments = [u])
    (htu : t ≠ u) {a b : TypeDecl} {restA restB : Signature}
    (ha : sig.remove (·.declaresType t) = some (.type a, restA))
    (hb : sig.remove (·.declaresType u) = some (.type b, restB))
    {equationA equationB : TypeEquation} {τ υ : TypeExpr}
    (hτ : equationA.manifest = some τ) (hυ : equationB.manifest = some υ)
    (hτb : τ.AllLeaves (.unapplied b.id)) (hυa : υ.AllLeaves (.unapplied a.id)) :
    ∃ withoutA withoutB out,
      constrain fuel env (.typeSubst (.resolved f) equationA) sig = pure withoutA ∧
      constrain fuel env (.typeSubst (.resolved g) equationB) sig = pure withoutB ∧
      constrain fuel env (.typeSubst (.resolved g) equationB) withoutA = pure out ∧
      constrain fuel env (.typeSubst (.resolved f) equationA) withoutB = pure out := by
  have hincluded (name : String) (i : Include) : (Item.included i).declaresType name = false := rfl
  have hdisjoint (item : Item) (hitem : item.declaresType t = true) :
      item.declaresType u = false := by
    obtain ⟨d, rfl, hd⟩ := Item.eq_type_of_declaresType hitem
    exact decide_eq_false (hd ▸ htu)
  -- The two declarations are found independently, and the same signature is left.
  have hremovals := Signature.remove_independent (hincluded t) (hincluded u) hdisjoint sig
  obtain ⟨rest, hrestB, hrestA⟩ := hremovals.both ha hb
  obtain ⟨a', ha', hlaterA⟩ :=
    Signature.remove_substituteType hrestA b.id equationB.params υ
  obtain ⟨b', hb', hlaterB⟩ :=
    Signature.remove_substituteType hrestB a.id equationA.params τ
  have hids : a.id ≠ b.id := by
    have hnameA : a.id.name = t := of_decide_eq_true (Signature.remove_accepts ha)
    have hnameB : b.id.name = u := of_decide_eq_true (Signature.remove_accepts hb)
    intro h
    exact htu (by rw [← hnameA, h, hnameB])
  have hcomm := Signature.substituteType_comm hids hτb hυa equationA.params equationB.params rest
  refine ⟨_, _, _, constrain_typeSubst_of_remove hf fuel env ha hτ,
    constrain_typeSubst_of_remove hg fuel env hb hυ,
    constrain_typeSubst_of_remove hg fuel env hlaterB hυ, ?_⟩
  rw [constrain_typeSubst_of_remove hf fuel env hlaterA hτ, ha', hb', hcomm]

def unaryType (owner : Identifier) (name : String) : TypeDecl where
  id := owner.child .type name
  doc := []
  equation := { params := ["a"] }
  representation := none

def crossedSignature (own included : List Item) (type : TypeExpr) : Signature :=
  let owner := (Identifier.root "A").child .moduleType "S"
  let origin := (Identifier.root "B").child .moduleType "T"
  .ofItems (own ++ [.included ⟨owner, [], .typed (.path (.ofIdentifier origin)), none, {},
    .ofItems included⟩, .value ⟨owner.child .value "x", [], type⟩])

theorem constrain_typeSubst_comm_crossed :
    let t := unaryType ((Identifier.root "A").child .moduleType "S") "t"
    let u := unaryType ((Identifier.root "B").child .moduleType "T") "u"
    let int := TypeExpr.constr (.ofIdentifier (.coreType "int")) []
    let erasesT := Constraint.typeSubst (.resolved (.type .root "t"))
      { params := ["a"], manifest := some (.tuple [.var "a", .var "a"]) }
    let erasesU := Constraint.typeSubst (.resolved (.type .root "u"))
      { params := ["a"], manifest := some (.arrow none (.var "a") int) }
    let out := crossedSignature [] [] (.arrow none (.tuple [int, int]) int)
    ∃ withoutT withoutU,
      constrain 0 .empty erasesT (crossedSignature [.type t] [.type u]
        (.constr (.ofIdentifier u.id) [.constr (.ofIdentifier t.id) [int]])) = pure withoutT ∧
      constrain 0 .empty erasesU (crossedSignature [.type t] [.type u]
        (.constr (.ofIdentifier u.id) [.constr (.ofIdentifier t.id) [int]])) = pure withoutU ∧
      constrain 0 .empty erasesU withoutT = pure out ∧
      constrain 0 .empty erasesT withoutU = pure out := by
  intro t u int erasesT erasesU out
  have hint : int.AllLeaves (.unapplied t.id) := by
    refine ⟨fun h => ?_, trivial⟩
    cases h
  have ht : (crossedSignature [.type t] [.type u]
      (.constr (.ofIdentifier u.id) [.constr (.ofIdentifier t.id) [int]])).remove
        (·.declaresType "t") = some (.type t, crossedSignature [] [.type u]
          (.constr (.ofIdentifier u.id) [.constr (.ofIdentifier t.id) [int]])) := rfl
  have hnames : "t" ≠ "u" := by decide
  have hpair : TypeEquation.manifest
      { params := ["a"], manifest := some (.tuple [.var "a", .var "a"]) } =
        some (.tuple [.var "a", .var "a"]) := rfl
  have harrow : TypeEquation.manifest
      { params := ["a"], manifest := some (.arrow none (.var "a") int) } =
        some (.arrow none (.var "a") int) := rfl
  obtain ⟨withoutT, withoutU, left, hT, hU, hleft, hleft'⟩ :=
    constrain_typeSubst_comm 0 .empty (f := .type .root "t") (g := .type .root "u") rfl rfl hnames
      ht rfl hpair harrow ⟨trivial, trivial, trivial⟩ ⟨trivial, hint⟩
  refine ⟨withoutT, withoutU, hT, hU, ?_⟩
  have hout : left = out := by
    have hrun := congrFun hT {}
    cases hrun
    have hrun := congrFun hleft {}
    cases hrun
    rfl
  exact hout ▸ ⟨hleft, hleft'⟩

end Lookup

end CrossRef
