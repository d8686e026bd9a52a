import CrossRef.Proofs.Compile.Agreement

/-! Compiling a declaration again. What the first run has made of a type, a class or a path is left
alone by every later run in an environment that looks the same. -/

namespace CrossRef

open PassM

namespace PassM

variable {r : Resolver} {α β : Type}

def Settles (r : Resolver) (x : PassM α) (a : α) : Prop :=
  ∀ loads, loads.Faithful r →
    ((x.run loads).1 = .error .outOfFuel ∨ ∃ reports, (x.run loads).1 = .ok (a, reports)) ∧
      (x.run loads).2.Faithful r

theorem settles_pure (a : α) : Settles r (pure a) a :=
  fun _ hl => ⟨.inr ⟨[], rfl⟩, hl⟩

theorem settles_file (report : Report) : Settles r (file report) () :=
  fun _ hl => ⟨.inr ⟨[report], rfl⟩, hl⟩

theorem settles_outOfFuel (a : α) : Settles r (abort .outOfFuel) a :=
  fun _ hl => ⟨.inl rfl, hl⟩

theorem Settles.bind {x : PassM α} {f : α → PassM β} {a : α} {b : β} (hx : x.Settles r a)
    (hf : (f a).Settles r b) : (x >>= f).Settles r b := by
  intro loads hl
  obtain ⟨hout, hafter⟩ := hx loads hl
  rcases hrun : x.run loads with ⟨e | ⟨a', filed⟩, after⟩ <;> rw [hrun] at hout hafter
  · rw [run_bind_error hrun]
    rcases hout with hout | ⟨reports, hout⟩ <;> cases hout
    exact ⟨.inl rfl, hafter⟩
  · rw [run_bind_ok hrun]
    rcases hout with hout | ⟨reports, hout⟩ <;> cases hout
    obtain ⟨hout, hlast⟩ := hf after hafter
    refine ⟨?_, hlast⟩
    rcases hout with hout | ⟨more, hout⟩
    · rw [hout]
      exact .inl rfl
    · rw [hout]
      exact .inr ⟨filed ++ more, rfl⟩

theorem settles_attempt?_pure (a : α) :
    (attempt? (pure a : LookupM α)).Settles r (some a) :=
  (settles_pure _).bind (settles_pure _)

theorem Settles.map {x : PassM α} {a : α} (f : α → β) (hx : x.Settles r a) :
    (f <$> x).Settles r (f a) := by
  rw [map_eq_pure_bind]
  exact hx.bind (settles_pure _)

theorem Settles.quietly {x : PassM α} {a : α} (hx : x.Settles r a) : x.quietly.Settles r a := by
  intro loads hl
  obtain ⟨hout, hafter⟩ := hx loads hl
  rw [run_quietly]
  refine ⟨?_, hafter⟩
  rcases hout with hout | ⟨reports, hout⟩
  · rw [hout]
    exact .inl rfl
  · rw [hout]
    exact .inr ⟨[], rfl⟩

theorem Agree.ensures {x y : PassM α} (h : Agree r x y) :
    x.Ensures (Loads.Faithful r) fun a => y.Settles r a := by
  intro loads hl a reports after hrun
  have hafter := (h loads loads hl hl).2.1
  rw [hrun] at hafter
  refine ⟨hafter, fun loads' hl' => ?_⟩
  obtain ⟨hsame, -, hy⟩ := h loads loads' hl hl'
  refine ⟨?_, hy⟩
  rw [hrun] at hsame
  rcases hsame with hsame | hsame | hsame
  · cases hsame
  · exact .inl hsame
  · exact .inr ⟨reports, hsame.symm⟩

def Stable (r : Resolver) (x : PassM α) (again : α → PassM α) : Prop :=
  x.Ensures (Loads.Faithful r) fun a => (again a).Settles r a

/-- The result of `x`, which is run in `e`, is what `again` makes of it wherever things look as they
do in `e`. -/
def Repeats (r : Resolver) (e : Env) (x : PassM α) (again : Env → α → PassM α) : Prop :=
  x.Ensures (Loads.Faithful r) fun a => ∀ e', e.SameView r e' → (again e' a).Settles r a

theorem Repeats.of_agree {e : Env} (he : e.SameView r e) {x : PassM α} {y : Env → PassM α}
    (h : ∀ e', e.SameView r e' → Agree r x (y e')) : x.Repeats r e fun e' _ => y e' := by
  intro loads hl a reports after hrun
  obtain ⟨hafter, -⟩ := (h e he).ensures loads hl a reports after hrun
  exact ⟨hafter, fun e' he' => ((h e' he').ensures loads hl a reports after hrun).2⟩

end PassM

namespace Repetition

theorem constructor_id (fuel : Nat) (e : Env) (parent : Identifier) (c : Constructor) :
    (c.compile fuel e parent).Yields fun out => out.id = c.id :=
  (yields_true _).bind fun _ _ => (yields_true _).bind fun _ _ => ensures_pure rfl

variable {r : Resolver} {e : Env}

section Lookups

variable (hr : r.Steady) (he : e.SameView r e) (fuel fuel' : Nat)

include hr he

theorem lookupPath (kind : PathKind) (path : Path) :
    (attempt (Lookup.path fuel e kind path)).Repeats r e
      fun e' _ => attempt (Lookup.path fuel' e' kind path) :=
  .of_agree he fun _ he' => .attempt ((LookupM.agreement_fuel hr fuel fuel').path he' kind path)

theorem resolve (kind : PathKind) (path : Path) :
    (Pass.resolve fuel e kind path).Repeats r e fun e' p => Pass.resolve fuel' e' kind p := by
  cases hpath : path.isResolved with
  | true =>
    cases path with
    | resolved p => exact ensures_pure fun e' he' => settles_pure _
    | _ => cases hpath
  | false =>
    rw [Pass.resolve_unresolved fuel e kind hpath]
    refine (lookupPath hr he fuel fuel' kind path).bind fun outcome hout => ?_
    cases outcome with
    | ok p => exact ensures_pure fun e' he' => settles_pure _
    | error error =>
      refine ensures_pure fun e' he' => ?_
      simp only [Pass.resolve_unresolved fuel' e' kind hpath]
      exact (hout e' he').bind (settles_pure _)

theorem resolveOrReport (kind : PathKind) (construct : Construct) (parent : Identifier)
    (path : Path) :
    (Pass.resolveOrReport fuel e kind construct parent path).Repeats r e
      fun e' p => Pass.resolveOrReport fuel' e' kind construct parent p := by
  cases hpath : path.isResolved with
  | true =>
    cases path with
    | resolved p => exact ensures_pure fun e' he' => settles_pure _
    | _ => cases hpath
  | false =>
    rw [Pass.resolveOrReport_unresolved fuel e kind construct parent hpath]
    refine (lookupPath hr he fuel fuel' kind path).bind fun outcome hout => ?_
    cases outcome with
    | ok p => exact ensures_pure fun e' he' => settles_pure _
    | error error =>
      refine (ensures_file _).bind fun _ _ => ensures_pure fun e' he' => ?_
      simp only [Pass.resolveOrReport_unresolved fuel' e' kind construct parent hpath]
      exact (hout e' he').bind ((settles_file _).bind (settles_pure _))

theorem packageRoot (parent : Identifier) (path : Path) :
    (Pass.packageRoot fuel e parent path).Repeats r e
      fun e' _ => Pass.packageRoot fuel' e' parent path :=
  .of_agree he fun _ he' => PassRel.packageRoot (R := agreement hr)
    (LookupM.agreement_fuel hr fuel fuel') he' parent path

theorem packageFragment (parent : Identifier) (root : Option Signature) (f : Fragment) :
    (Pass.packageFragment fuel e parent root f).Repeats r e
      fun e' f => Pass.packageFragment fuel' e' parent root f := by
  cases root with
  | none => exact ensures_pure fun e' he' => settles_pure _
  | some sig =>
    have lookup : (attempt? (Lookup.fragment fuel (e.addFragmentRoot sig) .type f)).Repeats r e
        fun e' _ => attempt? (Lookup.fragment fuel' (e'.addFragmentRoot sig) .type f) := by
      refine .of_agree he fun e' he' => .attempt? ?_
      exact (LookupM.agreement_fuel hr fuel fuel').fragment (he'.push _) rfl .type f
    refine lookup.bind fun found hfound => ?_
    cases found with
    | some resolved =>
      exact ensures_pure fun e' he' => (settles_attempt?_pure resolved).bind (settles_pure _)
    | none =>
      refine (ensures_file _).bind fun _ _ => ensures_pure fun e' he' => ?_
      exact (hfound e' he').bind ((settles_file _).bind (settles_pure _))

end Lookups

mutual

theorem typeExpr (hr : r.Steady) (he : e.SameView r e) (fuel fuel' : Nat) (parent : Identifier) :
    ∀ t : TypeExpr,
    (t.compile fuel e parent).Repeats r e fun e' t => t.compile fuel' e' parent
  | .var name => by
    rw [TypeExpr.compile]
    refine ensures_pure fun e' he' => ?_
    simp only [TypeExpr.compile]
    exact settles_pure _
  | .any => by
    rw [TypeExpr.compile]
    refine ensures_pure fun e' he' => ?_
    simp only [TypeExpr.compile]
    exact settles_pure _
  | .arrow label arg ret => by
    rw [TypeExpr.compile]
    refine (typeExpr hr he fuel fuel' parent arg).bind fun arg harg => ?_
    refine (typeExpr hr he fuel fuel' parent ret).bind fun ret hret => ?_
    refine ensures_pure fun e' he' => ?_
    simp only [TypeExpr.compile]
    exact (harg e' he').bind ((hret e' he').bind (settles_pure _))
  | .tuple ts => by
    rw [TypeExpr.compile]
    refine (types hr he fuel fuel' parent ts).bind fun ts hts => ensures_pure fun e' he' => ?_
    simp only [TypeExpr.compile]
    exact (hts e' he').bind (settles_pure _)
  | .constr path args => by
    rw [TypeExpr.compile]
    refine (resolve hr he fuel fuel' .type path).bind fun path hpath => ?_
    refine (types hr he fuel fuel' parent args).bind fun args hargs => ensures_pure fun e' he' => ?_
    simp only [TypeExpr.compile]
    exact (hpath e' he').bind ((hargs e' he').bind (settles_pure _))
  | .variant kind es => by
    rw [TypeExpr.compile]
    refine (elements hr he fuel fuel' parent es).bind fun es hes => ensures_pure fun e' he' => ?_
    simp only [TypeExpr.compile]
    exact (hes e' he').bind (settles_pure _)
  | .object fs isOpen => by
    rw [TypeExpr.compile]
    refine (fields hr he fuel fuel' parent fs).bind fun fs hfs => ensures_pure fun e' he' => ?_
    simp only [TypeExpr.compile]
    exact (hfs e' he').bind (settles_pure _)
  | .classRef path args => by
    rw [TypeExpr.compile]
    refine (resolve hr he fuel fuel' .classType path).bind fun path hpath => ?_
    refine (types hr he fuel fuel' parent args).bind fun args hargs => ensures_pure fun e' he' => ?_
    simp only [TypeExpr.compile]
    exact (hpath e' he').bind ((hargs e' he').bind (settles_pure _))
  | .poly vars body => by
    rw [TypeExpr.compile]
    refine (typeExpr hr he fuel fuel' parent body).bind fun body hbody =>
      ensures_pure fun e' he' => ?_
    simp only [TypeExpr.compile]
    exact (hbody e' he').bind (settles_pure _)
  | .package path cs => by
    rw [TypeExpr.compile]
    refine (resolve hr he fuel fuel' .moduleType path).bind fun path hpath => ?_
    refine (packageRoot hr he fuel fuel' parent path).bind fun root hroot => ?_
    refine (package hr he fuel fuel' parent root cs).bind fun cs hcs =>
      ensures_pure fun e' he' => ?_
    simp only [TypeExpr.compile]
    exact (hpath e' he').bind ((hroot e' he').bind ((hcs e' he').bind (settles_pure _)))

theorem types (hr : r.Steady) (he : e.SameView r e) (fuel fuel' : Nat) (parent : Identifier) :
    ∀ ts : List TypeExpr,
    (compileTypes fuel e parent ts).Repeats r e fun e' ts => compileTypes fuel' e' parent ts
  | [] => ensures_pure fun e' he' => settles_pure _
  | t :: ts => by
    rw [compileTypes]
    refine (typeExpr hr he fuel fuel' parent t).bind fun t ht => ?_
    refine (types hr he fuel fuel' parent ts).bind fun ts hts => ?_
    refine ensures_pure fun e' he' => ?_
    simp only [compileTypes]
    exact (ht e' he').bind ((hts e' he').bind (settles_pure _))

theorem elements (hr : r.Steady) (he : e.SameView r e) (fuel fuel' : Nat) (parent : Identifier) :
    ∀ es : List VariantElement,
    (compileElements fuel e parent es).Repeats r e fun e' es => compileElements fuel' e' parent es
  | [] => ensures_pure fun e' he' => settles_pure _
  | .type t :: es => by
    rw [compileElements]
    refine (typeExpr hr he fuel fuel' parent t).bind fun t ht => ?_
    refine (elements hr he fuel fuel' parent es).bind fun es hes => ?_
    refine ensures_pure fun e' he' => ?_
    simp only [compileElements]
    exact (ht e' he').bind ((hes e' he').bind (settles_pure _))
  | .constructor name constant args :: es => by
    rw [compileElements]
    refine (types hr he fuel fuel' parent args).bind fun args hargs => ?_
    refine (elements hr he fuel fuel' parent es).bind fun es hes => ?_
    refine ensures_pure fun e' he' => ?_
    simp only [compileElements]
    exact (hargs e' he').bind ((hes e' he').bind (settles_pure _))

theorem fields (hr : r.Steady) (he : e.SameView r e) (fuel fuel' : Nat) (parent : Identifier) :
    ∀ fs : List ObjectField,
    (compileFields fuel e parent fs).Repeats r e fun e' fs => compileFields fuel' e' parent fs
  | [] => ensures_pure fun e' he' => settles_pure _
  | .method name t :: fs => by
    rw [compileFields]
    refine (typeExpr hr he fuel fuel' parent t).bind fun t ht => ?_
    refine (fields hr he fuel fuel' parent fs).bind fun fs hfs => ?_
    refine ensures_pure fun e' he' => ?_
    simp only [compileFields]
    exact (ht e' he').bind ((hfs e' he').bind (settles_pure _))
  | .inherit t :: fs => by
    rw [compileFields]
    refine (typeExpr hr he fuel fuel' parent t).bind fun t ht => ?_
    refine (fields hr he fuel fuel' parent fs).bind fun fs hfs => ?_
    refine ensures_pure fun e' he' => ?_
    simp only [compileFields]
    exact (ht e' he').bind ((hfs e' he').bind (settles_pure _))

theorem package (hr : r.Steady) (he : e.SameView r e) (fuel fuel' : Nat)
    (parent : Identifier) (root : Option Signature) : ∀ cs : List PackageConstraint,
    (compilePackage fuel e parent root cs).Repeats r e
      fun e' cs => compilePackage fuel' e' parent root cs
  | [] => ensures_pure fun e' he' => settles_pure _
  | ⟨fragment, t⟩ :: cs => by
    rw [compilePackage]
    refine (packageFragment hr he fuel fuel' parent root fragment).bind fun fragment hfragment => ?_
    refine (typeExpr hr he fuel fuel' parent t).bind fun t ht => ?_
    refine (package hr he fuel fuel' parent root cs).bind fun cs hcs =>
      ensures_pure fun e' he' => ?_
    simp only [compilePackage]
    exact (hfragment e' he').bind ((ht e' he').bind ((hcs e' he').bind (settles_pure _)))

end

section Declarations

variable (hr : r.Steady) (he : e.SameView r e) (fuel fuel' : Nat)

include hr he

theorem optionalType (parent : Identifier) (t : Option TypeExpr) :
    (compileOptionalType fuel e parent t).Repeats r e
      fun e' t => compileOptionalType fuel' e' parent t := by
  cases t with
  | none => exact ensures_pure fun e' he' => settles_pure _
  | some t =>
    refine (typeExpr hr he fuel fuel' parent t).bind fun t ht => ensures_pure fun e' he' => ?_
    exact (ht e' he').bind (settles_pure _)

theorem typePairs (parent : Identifier) (pairs : List (TypeExpr × TypeExpr)) :
    (compileTypePairs fuel e parent pairs).Repeats r e
      fun e' pairs => compileTypePairs fuel' e' parent pairs := by
  induction pairs with
  | nil => exact ensures_pure fun e' he' => settles_pure _
  | cons pair pairs ih =>
    obtain ⟨l, t⟩ := pair
    refine (typeExpr hr he fuel fuel' parent l).bind fun l hl => ?_
    refine (typeExpr hr he fuel fuel' parent t).bind fun t ht => ?_
    refine ih.bind fun pairs hpairs => ensures_pure fun e' he' => ?_
    exact (hl e' he').bind ((ht e' he').bind ((hpairs e' he').bind (settles_pure _)))

theorem typeEquation (parent : Identifier) (eq : TypeEquation) :
    (eq.compile fuel e parent).Repeats r e fun e' eq => eq.compile fuel' e' parent := by
  refine (optionalType hr he fuel fuel' parent eq.manifest).bind fun manifest hmanifest => ?_
  have pairs := typePairs hr he fuel fuel' parent eq.constraints
  refine pairs.bind fun constraints hconstraints => ensures_pure fun e' he' => ?_
  exact (hmanifest e' he').bind ((hconstraints e' he').bind (settles_pure _))

theorem record (parent : Identifier) (fs : List Field) :
    (compileRecord fuel e parent fs).Repeats r e fun e' fs => compileRecord fuel' e' parent fs := by
  induction fs with
  | nil => exact ensures_pure fun e' he' => settles_pure _
  | cons f fs ih =>
    refine (typeExpr hr he fuel fuel' parent f.type).bind fun type htype => ?_
    refine ih.bind fun fs hfs => ensures_pure fun e' he' => ?_
    exact (htype e' he').bind ((hfs e' he').bind (settles_pure _))

theorem constructorArgs (parent : Identifier) (args : ConstructorArgs) :
    (args.compile fuel e parent).Repeats r e fun e' args => args.compile fuel' e' parent := by
  cases args with
  | tuple ts =>
    refine (types hr he fuel fuel' parent ts).bind fun ts hts => ensures_pure fun e' he' => ?_
    exact (hts e' he').bind (settles_pure _)
  | record fs =>
    refine (record hr he fuel fuel' parent fs).bind fun fs hfs => ensures_pure fun e' he' => ?_
    exact (hfs e' he').bind (settles_pure _)

theorem constructor (parent : Identifier) (c : Constructor) :
    (c.compile fuel e parent).Repeats r e fun e' c => c.compile fuel' e' parent := by
  refine (constructorArgs hr he fuel fuel' parent c.args).bind fun args hargs => ?_
  have result := optionalType hr he fuel fuel' parent c.res
  refine result.bind fun res hres => ensures_pure fun e' he' => ?_
  exact (hargs e' he').bind ((hres e' he').bind (settles_pure _))

theorem constructors (parent : Identifier) (cs : List Constructor) :
    (compileConstructors fuel e parent cs).Repeats r e
      fun e' cs => compileConstructors fuel' e' parent cs := by
  induction cs with
  | nil => exact ensures_pure fun e' he' => settles_pure _
  | cons c cs ih =>
    refine (constructor hr he fuel fuel' parent c).bind fun c hc => ?_
    refine ih.bind fun cs hcs => ensures_pure fun e' he' => ?_
    exact (hc e' he').bind ((hcs e' he').bind (settles_pure _))

theorem typeRepr (parent : Identifier) (repr : TypeRepr) :
    (repr.compile fuel e parent).Repeats r e fun e' repr => repr.compile fuel' e' parent := by
  cases repr with
  | variant cs =>
    refine (constructors hr he fuel fuel' parent cs).bind fun cs hcs =>
      ensures_pure fun e' he' => ?_
    exact (hcs e' he').bind (settles_pure _)
  | record fs =>
    refine (record hr he fuel fuel' parent fs).bind fun fs hfs => ensures_pure fun e' he' => ?_
    exact (hfs e' he').bind (settles_pure _)
  | extensible => exact ensures_pure fun e' he' => settles_pure _

theorem typeDecl (t : TypeDecl) :
    (t.compile fuel e).Repeats r e fun e' t => t.compile fuel' e' := by
  obtain ⟨id, doc, equation, representation⟩ := t
  refine (typeEquation hr he fuel fuel' id equation).bind fun equation hequation => ?_
  cases representation with
  | none =>
    refine ensures_pure fun e' he' => ?_
    exact (hequation e' he').bind (settles_pure _)
  | some repr =>
    refine (typeRepr hr he fuel fuel' id repr).bind fun repr hrepr => ensures_pure fun e' he' => ?_
    exact (hequation e' he').bind ((hrepr e' he').bind (settles_pure _))

theorem value (v : Value) : (v.compile fuel e).Repeats r e fun e' v => v.compile fuel' e' := by
  refine (typeExpr hr he fuel fuel' v.id v.type).bind fun type htype =>
    ensures_pure fun e' he' => ?_
  exact (htype e' he').bind (settles_pure _)

theorem external (x : External) :
    (x.compile fuel e).Repeats r e fun e' x => x.compile fuel' e' := by
  refine (typeExpr hr he fuel fuel' x.id x.type).bind fun type htype =>
    ensures_pure fun e' he' => ?_
  exact (htype e' he').bind (settles_pure _)

theorem ownConstructor (c : Constructor) :
    (c.compile fuel e c.id).Repeats r e fun e' c => c.compile fuel' e' c.id := by
  refine ((constructor hr he fuel fuel' c.id c).and_yields (constructor_id fuel e c.id c)).mono ?_
  rintro out ⟨hout, hid⟩ e' he'
  simp only [hid]
  exact hout e' he'

theorem extended (cs : List Constructor) :
    (compileExtended fuel e cs).Repeats r e fun e' cs => compileExtended fuel' e' cs := by
  induction cs with
  | nil => exact ensures_pure fun e' he' => settles_pure _
  | cons c cs ih =>
    refine (ownConstructor hr he fuel fuel' c).bind fun c hc => ?_
    refine ih.bind fun cs hcs => ensures_pure fun e' he' => ?_
    exact (hc e' he').bind ((hcs e' he').bind (settles_pure _))

theorem extension (x : Extension) :
    (x.compile fuel e).Repeats r e fun e' x => x.compile fuel' e' := by
  refine (resolve hr he fuel fuel' .type x.typePath).bind fun path hpath => ?_
  refine (extended hr he fuel fuel' x.constructors).bind fun cs hcs => ensures_pure fun e' he' => ?_
  exact (hpath e' he').bind ((hcs e' he').bind (settles_pure _))

end Declarations

mutual

theorem classTypeExpr (hr : r.Steady) (he : e.SameView r e) (fuel fuel' : Nat) (id : Identifier) :
    ∀ expr : ClassTypeExpr,
    (expr.compile fuel e id).Repeats r e fun e' expr => expr.compile fuel' e' id
  | .constr path args => by
    rw [ClassTypeExpr.compile]
    have resolved := resolveOrReport hr he fuel fuel' .classType .classDecl id path
    refine resolved.bind fun path hpath => ?_
    refine (types hr he fuel fuel' id args).bind fun args hargs => ensures_pure fun e' he' => ?_
    simp only [ClassTypeExpr.compile]
    exact (hpath e' he').bind ((hargs e' he').bind (settles_pure _))
  | .signature sig => by
    rw [ClassTypeExpr.compile]
    refine (classSignature hr he fuel fuel' id sig).bind fun sig hsig =>
      ensures_pure fun e' he' => ?_
    simp only [ClassTypeExpr.compile]
    exact (hsig e' he').bind (settles_pure _)

theorem classSignature (hr : r.Steady) (he : e.SameView r e) (fuel fuel' : Nat) (id : Identifier) :
    ∀ sig : ClassSignature,
    (sig.compile fuel e id).Repeats r e fun e' sig => sig.compile fuel' e' id
  | ⟨self, items⟩ => by
    rw [ClassSignature.compile]
    refine (optionalType hr he fuel fuel' id self).bind fun self hself => ?_
    refine (classItems hr he fuel fuel' id items).bind fun items hitems =>
      ensures_pure fun e' he' => ?_
    simp only [ClassSignature.compile]
    exact (hself e' he').bind ((hitems e' he').bind (settles_pure _))

theorem classItems (hr : r.Steady) (he : e.SameView r e) (fuel fuel' : Nat) (id : Identifier) :
    ∀ items : List ClassItem,
    (compileClassItems fuel e id items).Repeats r e
      fun e' items => compileClassItems fuel' e' id items
  | [] => by
    rw [compileClassItems]
    refine ensures_pure fun e' he' => ?_
    simp only [compileClassItems]
    exact settles_pure _
  | item :: items => by
    rw [compileClassItems]
    refine (classItem hr he fuel fuel' id item).bind fun item hitem => ?_
    refine (classItems hr he fuel fuel' id items).bind fun items hitems =>
      ensures_pure fun e' he' => ?_
    simp only [compileClassItems]
    exact (hitem e' he').bind ((hitems e' he').bind (settles_pure _))

theorem classItem (hr : r.Steady) (he : e.SameView r e) (fuel fuel' : Nat) (id : Identifier) :
    ∀ item : ClassItem,
    (item.compile fuel e id).Repeats r e fun e' item => item.compile fuel' e' id
  | .method m => by
    rw [ClassItem.compile]
    refine (typeExpr hr he fuel fuel' id m.type).bind fun t ht => ensures_pure fun e' he' => ?_
    simp only [ClassItem.compile]
    exact (ht e' he').bind (settles_pure _)
  | .instanceVariable v => by
    rw [ClassItem.compile]
    refine (typeExpr hr he fuel fuel' id v.type).bind fun t ht => ensures_pure fun e' he' => ?_
    simp only [ClassItem.compile]
    exact (ht e' he').bind (settles_pure _)
  | .constraint lhs rhs => by
    rw [ClassItem.compile]
    refine (typeExpr hr he fuel fuel' id lhs).bind fun lhs hlhs => ?_
    refine (typeExpr hr he fuel fuel' id rhs).bind fun rhs hrhs => ensures_pure fun e' he' => ?_
    simp only [ClassItem.compile]
    exact (hlhs e' he').bind ((hrhs e' he').bind (settles_pure _))
  | .inherit expr => by
    rw [ClassItem.compile]
    refine (classTypeExpr hr he fuel fuel' id expr).bind fun expr hexpr =>
      ensures_pure fun e' he' => ?_
    simp only [ClassItem.compile]
    exact (hexpr e' he').bind (settles_pure _)
  | .comment text => by
    rw [ClassItem.compile]
    refine ensures_pure fun e' he' => ?_
    simp only [ClassItem.compile]
    exact settles_pure _

end

section Classes

variable (hr : r.Steady) (he : e.SameView r e) (fuel fuel' : Nat)

include hr he

theorem classDecl (id : Identifier) (decl : ClassDecl) :
    (decl.compile fuel e id).Repeats r e fun e' decl => decl.compile fuel' e' id := by
  induction decl with
  | classType expr =>
    refine (classTypeExpr hr he fuel fuel' id expr).bind fun expr hexpr =>
      ensures_pure fun e' he' => ?_
    exact (hexpr e' he').bind (settles_pure _)
  | arrow label arg body ih =>
    refine (typeExpr hr he fuel fuel' id arg).bind fun arg harg => ?_
    refine ih.bind fun body hbody => ensures_pure fun e' he' => ?_
    exact (harg e' he').bind ((hbody e' he').bind (settles_pure _))

theorem classExpansion (id : Identifier) (expr : ClassTypeExpr) (previous : Option ClassSignature) :
    (compileClassExpansion fuel e id expr previous).Repeats r e
      fun e' previous => compileClassExpansion fuel' e' id expr previous := by
  have hfuel := LookupM.agreement_fuel hr fuel fuel'
  cases expr with
  | signature sig => exact ensures_pure fun e' he' => settles_pure _
  | constr path args =>
    have lookup : (attempt? (Lookup.classSignature fuel e (.constr path args))).Repeats r e
        fun e' _ => attempt? (Lookup.classSignature fuel' e' (.constr path args)) := by
      refine .of_agree he fun e' he' => .attempt? ?_
      exact hfuel.classSignature he' _
    refine lookup.bind fun found hfound => ?_
    cases found with
    | some sig =>
      have compiled : ((sig.compile fuel e id).quietly).Repeats r e
          fun e' _ => (sig.compile fuel' e' id).quietly :=
        .of_agree he fun e' he' =>
          (PassRel.classSignature (R := agreement hr) hfuel he' id sig).quietly
      refine compiled.bind fun sig hsig => ensures_pure fun e' he' => ?_
      exact (hfound e' he').bind ((hsig e' he').bind (settles_pure _))
    | none =>
      cases previous with
      | none => exact ensures_pure fun e' he' => (hfound e' he').bind (settles_pure _)
      | some sig =>
        refine (classSignature hr he fuel fuel' id sig).quietly.bind fun sig hsig =>
          ensures_pure fun e' he' => ?_
        exact (hfound e' he').bind ((hsig e' he').quietly.bind (settles_pure _))

theorem class_repeats (c : Class) :
    (c.compile fuel e).Repeats r e fun e' c => c.compile fuel' e' := by
  refine (classDecl hr he fuel fuel' c.id c.decl).bind fun decl hdecl => ?_
  have expanded := classExpansion hr he fuel fuel' c.id decl.body c.expansion
  refine expanded.bind fun expansion hexpansion => ensures_pure fun e' he' => ?_
  exact (hdecl e' he').bind ((hexpansion e' he').bind (settles_pure _))

theorem classType (c : ClassType) :
    (c.compile fuel e).Repeats r e fun e' c => c.compile fuel' e' := by
  refine (classTypeExpr hr he fuel fuel' c.id c.expr).bind fun expr hexpr => ?_
  have expanded := classExpansion hr he fuel fuel' c.id expr c.expansion
  refine expanded.bind fun expansion hexpansion => ensures_pure fun e' he' => ?_
  exact (hexpr e' he').bind ((hexpansion e' he').bind (settles_pure _))

end Classes
end Repetition

end CrossRef
