import Mathlib.Data.List.Basic
import CrossRef.Proofs.TypeExpr.Binding

/-! Instantiation and quantifiers. Putting arguments in the place of parameters is substitution that
avoids capture as long as no quantifier on the way binds a parameter or a variable of its argument.
Nothing is done about a quantifier that does. -/

namespace CrossRef

def boundAt? : Scopes → String → Option (Nat × Nat)
  | [], _ => none
  | vars :: scopes, name =>
    if name ∈ vars then some (0, vars.idxOf name)
    else (boundAt? scopes name).map fun (depth, index) => (depth + 1, index)

def Nameless.ofVar (σ : String → Nameless) (scopes : Scopes) (name : String) : Nameless :=
  match boundAt? scopes name with
  | some (depth, index) => .bound depth index
  | none => σ name

section Scopes

variable {inner outer scopes : Scopes} {name other : String}

theorem boundAt?_eq_none : boundAt? scopes name = none ↔ name ∉ scopes.flatten := by
  induction scopes with
  | nil => simp [boundAt?]
  | cons vars scopes ih =>
    rw [boundAt?, List.flatten_cons, List.mem_append, not_or, ← ih]
    by_cases hname : name ∈ vars
    · simp [hname]
    · simp [hname]

theorem exists_boundAt? (h : name ∈ scopes.flatten) :
    ∃ place, boundAt? scopes name = some place := by
  rw [← Option.ne_none_iff_exists', Ne, boundAt?_eq_none, not_not]
  exact h

theorem boundAt?_append (hname : name ∈ inner.flatten) :
    boundAt? (inner ++ outer) name = boundAt? inner name := by
  induction inner with
  | nil => cases hname
  | cons vars inner ih =>
    rw [List.cons_append, boundAt?, boundAt?]
    by_cases hvars : name ∈ vars
    · rw [if_pos hvars, if_pos hvars]
    · rw [List.flatten_cons, List.mem_append] at hname
      rw [if_neg hvars, if_neg hvars, ih (hname.resolve_left hvars)]

theorem boundAt?_injective {place : Nat × Nat} (hname : boundAt? scopes name = some place)
    (hother : boundAt? scopes other = some place) : name = other := by
  induction scopes generalizing place with
  | nil => cases hname
  | cons vars scopes ih =>
    rw [boundAt?] at hname hother
    by_cases hn : name ∈ vars
    · rw [if_pos hn] at hname
      cases hname
      by_cases ho : other ∈ vars
      · rw [if_pos ho] at hother
        have hindex : vars.idxOf other = vars.idxOf name := by simpa using hother
        exact ((List.idxOf_inj ho).mp hindex).symm
      · rw [if_neg ho] at hother
        obtain ⟨_, -, h⟩ := Option.map_eq_some_iff.mp hother
        cases h
    · rw [if_neg hn] at hname
      obtain ⟨at₁, hat₁, rfl⟩ := Option.map_eq_some_iff.mp hname
      by_cases ho : other ∈ vars
      · rw [if_pos ho] at hother
        cases hother
      · rw [if_neg ho] at hother
        obtain ⟨at₂, hat₂, hsame⟩ := Option.map_eq_some_iff.mp hother
        have hat : at₂ = at₁ := by simpa [Prod.ext_iff] using hsame
        exact ih hat₁ (hat ▸ hat₂)

theorem Nameless.ofVar_bound {σ : String → Nameless} {place : Nat × Nat}
    (h : boundAt? scopes name = some place) : ofVar σ scopes name = .bound place.1 place.2 := by
  rw [ofVar, h]

theorem Nameless.ofVar_free {σ : String → Nameless} (h : name ∉ scopes.flatten) :
    ofVar σ scopes name = σ name := by
  rw [ofVar, boundAt?_eq_none.mpr h]

theorem Nameless.ofVar_append_eq_iff :
    ofVar .free (inner ++ outer) name = ofVar .free inner name ↔
      (name ∉ inner.flatten → name ∉ outer.flatten) := by
  by_cases hinner : name ∈ inner.flatten
  · have hsame : boundAt? (inner ++ outer) name = boundAt? inner name := boundAt?_append hinner
    simp [ofVar, hsame, hinner]
  · rw [ofVar_free hinner]
    constructor
    · intro h _ houter
      have hall : name ∈ (inner ++ outer).flatten := by
        rw [List.flatten_append]
        exact List.mem_append_right _ houter
      obtain ⟨place, hplace⟩ := exists_boundAt? hall
      rw [ofVar_bound hplace] at h
      cases h
    · intro h
      refine ofVar_free ?_
      rw [List.flatten_append, List.mem_append, not_or]
      exact ⟨hinner, h hinner⟩

end Scopes

namespace TypeExpr

def nameless (t : TypeExpr) : Nameless := t.render (.ofVar .free)

def substituted (params : List String) (args : List TypeExpr) (t : TypeExpr) : Nameless :=
  t.render (.ofVar fun name => ((argument? params args name).map nameless).getD (.free name))

def Free (t : TypeExpr) (name : String) : Prop :=
  ∃ o ∈ t.occurrences, o.name = name ∧ ¬ o.IsBound

end TypeExpr

/-- A type can stand in the place of a variable: of a bound variable only the variable itself, and
of another only what has no variables that are bound there. -/
def Occurrence.Admits (o : Occurrence) (arg : TypeExpr) : Prop :=
  (o.IsBound → arg = .var o.name) ∧
    (¬ o.IsBound → ∀ name, arg.Free name → name ∉ o.scopes.flatten)

namespace TypeExpr

def Unobstructed (t : TypeExpr) (params : List String) (args : List TypeExpr) : Prop :=
  ∀ o ∈ t.occurrences, ∀ arg, argument? params args o.name = some arg → o.Admits arg

theorem render_eq_bound {t : TypeExpr} {read : Scopes → String → Nameless} {depth index : Nat}
    (h : t.render read = .bound depth index) :
    ∃ name, t = .var name ∧ read [] name = .bound depth index := by
  cases t with
  | var name =>
    rw [render] at h
    exact ⟨name, rfl, h⟩
  | _ =>
    rw [render] at h
    cases h

theorem render_below_eq_iff (t : TypeExpr) (scopes : Scopes) :
    (t.render fun inner => .ofVar .free (inner ++ scopes)) = t.nameless ↔
      ∀ name, t.Free name → name ∉ scopes.flatten := by
  rw [nameless, render_eq_iff]
  constructor
  · rintro h name ⟨o, ho, rfl, hfree⟩
    exact Nameless.ofVar_append_eq_iff.mp (h o ho) hfree
  · intro h o ho
    exact Nameless.ofVar_append_eq_iff.mpr fun hfree => h o.name ⟨o, ho, rfl, hfree⟩

theorem render_argument_eq_iff (o : Occurrence) (arg : TypeExpr) :
    (arg.render fun inner => .ofVar .free (inner ++ o.scopes)) =
        .ofVar (fun _ => arg.nameless) o.scopes o.name ↔ o.Admits arg := by
  by_cases hbound : o.IsBound
  · obtain ⟨place, hplace⟩ := exists_boundAt? hbound
    rw [Nameless.ofVar_bound hplace]
    constructor
    · intro h
      obtain ⟨name, rfl, hname⟩ := render_eq_bound h
      refine ⟨fun _ => ?_, fun hfree => absurd hbound hfree⟩
      rw [List.nil_append] at hname
      cases hat : boundAt? o.scopes name with
      | none =>
        rw [Nameless.ofVar, hat] at hname
        cases hname
      | some other =>
        rw [Nameless.ofVar_bound hat] at hname
        have hsame : other = place := by
          injection hname with hdepth hindex
          exact Prod.ext hdepth hindex
        rw [boundAt?_injective hat (hsame ▸ hplace)]
    · rintro ⟨hself, -⟩
      rw [hself hbound, render, List.nil_append]
      exact Nameless.ofVar_bound hplace
  · rw [Nameless.ofVar_free hbound, render_below_eq_iff]
    exact ⟨fun h => ⟨fun h' => absurd h' hbound, fun _ => h⟩, fun h => h.2 hbound⟩

theorem nameless_instantiate_eq_iff (manifest : TypeExpr) (params : List String)
    (args : List TypeExpr) :
    (manifest.instantiate params args).nameless = manifest.substituted params args ↔
      manifest.Unobstructed params args := by
  have hnameless : (manifest.instantiate params args).nameless = manifest.render (readThrough
      (fun name => (argument? params args name).getD (.var name)) (.ofVar .free)) :=
    manifest.render_replaceVars _ _
  rw [hnameless, substituted, render_eq_iff]
  refine forall₂_congr fun o ho => ?_
  cases harg : argument? params args o.name with
  | none =>
    simp only [readThrough, harg, Option.getD_none, render, List.nil_append, reduceCtorEq,
      false_imp_iff, implies_true, iff_true]
    simp only [Nameless.ofVar, harg, Option.map_none, Option.getD_none]
  | some arg =>
    have hread : Nameless.ofVar
        (fun name => ((argument? params args name).map nameless).getD (.free name)) o.scopes
          o.name = .ofVar (fun _ => arg.nameless) o.scopes o.name := by
      simp only [Nameless.ofVar, harg, Option.map_some, Option.getD_some]
    rw [hread, readThrough, harg, Option.getD_some, render_argument_eq_iff]
    simp only [Option.some.injEq, forall_eq']

theorem free_instantiate_iff {manifest : TypeExpr} {params : List String} {args : List TypeExpr}
    (h : manifest.Unobstructed params args) (name : String) :
    (manifest.instantiate params args).Free name ↔
      manifest.Free name ∧ argument? params args name = none ∨
        ∃ param arg, manifest.Free param ∧ argument? params args param = some arg ∧
          arg.Free name := by
  have hoccurrences : (manifest.instantiate params args).occurrences =
      manifest.occurrences.flatMap
        (·.replaced fun name => (argument? params args name).getD (.var name)) :=
    manifest.occurrences_replaceVars _
  have hmem (o' : Occurrence) : o' ∈ (manifest.instantiate params args).occurrences ↔
      ∃ o ∈ manifest.occurrences, ∃ x ∈ ((argument? params args o.name).getD
        (.var o.name)).occurrences, x.within o.scopes = o' := by
    rw [hoccurrences]
    simp only [List.mem_flatMap, Occurrence.replaced, List.mem_map]
  constructor
  · rintro ⟨o', ho', rfl, hfree⟩
    obtain ⟨o, ho, x, hx, rfl⟩ := (hmem o').mp ho'
    rw [Occurrence.isBound_within, not_or] at hfree
    cases harg : argument? params args o.name with
    | none =>
      rw [harg, Option.getD_none, occurrences, List.mem_singleton] at hx
      subst hx
      exact .inl ⟨⟨o, ho, rfl, hfree.2⟩, harg⟩
    | some arg =>
      rw [harg, Option.getD_some] at hx
      have hadmits := h o ho arg harg
      by_cases hbound : o.IsBound
      · -- A bound variable can only have been replaced by itself, and that is not free.
        rw [hadmits.1 hbound, occurrences, List.mem_singleton] at hx
        subst hx
        exact absurd hbound hfree.2
      · exact .inr ⟨o.name, arg, ⟨o, ho, rfl, hbound⟩, harg, x, hx, rfl, hfree.1⟩
  · rintro (⟨⟨o, ho, rfl, hfree⟩, harg⟩ |
      ⟨param, arg, ⟨o, ho, rfl, hfree⟩, harg, x, hx, rfl, hxfree⟩)
    · refine ⟨o, (hmem o).mpr ⟨o, ho, ⟨[], o.name⟩, ?_, rfl⟩, rfl, hfree⟩
      rw [harg, Option.getD_none, occurrences]
      exact List.mem_singleton.mpr rfl
    · refine ⟨x.within o.scopes, (hmem _).mpr ⟨o, ho, x, ?_, rfl⟩, rfl, ?_⟩
      · rw [harg]
        exact hx
      · have houter := (h o ho arg harg).2 hfree x.name ⟨x, hx, rfl, hxfree⟩
        rw [Occurrence.isBound_within, not_or]
        exact ⟨hxfree, houter⟩

/-- Instantiation is substitution that avoids capture, up to the names of quantified variables, if
and only if no quantifier gets in the way of an argument. Then what is free in the result is free in
the definition and no parameter, or free in the argument of a parameter that is free there. -/
theorem instantiate_avoids_capture_iff (manifest : TypeExpr) (params : List String)
    (args : List TypeExpr) :
    ((manifest.instantiate params args).nameless = manifest.substituted params args ↔
      manifest.Unobstructed params args) ∧
    (manifest.Unobstructed params args → ∀ name,
      ((manifest.instantiate params args).Free name ↔
        manifest.Free name ∧ argument? params args name = none ∨
          ∃ param arg, manifest.Free param ∧ argument? params args param = some arg ∧
            arg.Free name)) :=
  ⟨nameless_instantiate_eq_iff manifest params args, free_instantiate_iff⟩

def methodType (var : String) (arg ret : TypeExpr) : TypeExpr :=
  .object [.method "m" (.poly [var] (.arrow none arg ret))] false

theorem instantiate_avoids_capture_method :
    let manifest := methodType "b" (.var "a") (.var "b")
    let arg := TypeExpr.tuple [.var "c", .var "d"]
    manifest.Unobstructed ["a"] [arg] ∧
      (methodType "b" arg (.var "b")).nameless = manifest.substituted ["a"] [arg] ∧
      (methodType "b" arg (.var "b")).Free "c" := by
  intro manifest arg
  have hfree (name : String) (h : arg.Free name) : name = "c" ∨ name = "d" := by
    obtain ⟨o, ho, rfl, -⟩ := h
    have hnames : ∀ o ∈ [Occurrence.mk [] "c", ⟨[], "d"⟩], o.name = "c" ∨ o.name = "d" := by
      simp
    exact hnames o ho
  have hclear : manifest.Unobstructed ["a"] [arg] := by
    have heach : ∀ o ∈ [Occurrence.mk [["b"]] "a", ⟨[["b"]], "b"⟩], ∀ found,
        argument? ["a"] [arg] o.name = some found → o.Admits found := by
      rw [List.forall_mem_cons, List.forall_mem_singleton]
      refine ⟨?_, ?_⟩
      · rintro found ⟨⟩
        refine ⟨fun hbound => absurd hbound (by simp [Occurrence.IsBound]), fun _ name h => ?_⟩
        rcases hfree name h with rfl | rfl <;> simp
      · rintro found ⟨⟩
    exact heach
  obtain ⟨hform, hvars⟩ := instantiate_avoids_capture_iff manifest ["a"] [arg]
  refine ⟨hclear, hform.mpr hclear, (hvars hclear "c").mpr (.inr ⟨"a", arg, ?_, rfl, ?_⟩)⟩
  · exact ⟨⟨[["b"]], "a"⟩, List.mem_cons_self, rfl, by simp [Occurrence.IsBound]⟩
  · exact ⟨⟨[], "c"⟩, List.mem_cons_self, rfl, by simp [Occurrence.IsBound]⟩

/-- A bound variable with the name of a parameter is replaced, and a variable of an argument is
bound by a quantifier of the definition. -/
theorem instantiate_captures :
    let int := TypeExpr.constr (.ofIdentifier (.coreType "int")) []
    (methodType "a" (.var "a") (.var "a")).instantiate ["a"] [int] = methodType "a" int int ∧
    (methodType "a" int int).nameless ≠
      (methodType "a" (.var "a") (.var "a")).substituted ["a"] [int] ∧
    (methodType "b" (.var "a") (.var "b")).instantiate ["a"] [.var "b"] =
      methodType "b" (.var "b") (.var "b") ∧
    (methodType "b" (.var "b") (.var "b")).nameless ≠
      (methodType "b" (.var "a") (.var "b")).substituted ["a"] [.var "b"] := by
  intro int
  refine ⟨rfl, fun h => ?_, rfl, fun h => ?_⟩
  · have hreplaced : Nameless.constr (.ofIdentifier (.coreType "int")) [] = .bound 0 0 := by
      injection h with hfields
      injection hfields with hmethod
      injection hmethod with _ hpoly
      injection hpoly with _ harrow
      injection harrow
    cases hreplaced
  · have hcaptured : Nameless.bound 0 0 = .free "b" := by
      injection h with hfields
      injection hfields with hmethod
      injection hmethod with _ hpoly
      injection hpoly with _ harrow
      injection harrow
    cases hcaptured

end TypeExpr

end CrossRef
