import CrossRef.Proofs.Compile.Postcondition
import CrossRef.Proofs.Signature.Sites

/-! What the pass reports. Over plain syntax it files one report for each site that it has to leave
unresolved, in the order of the sites, and no other. -/

namespace CrossRef

open PassM

namespace PassM

variable {α β : Type}

def Files (x : PassM α) (Q : α → List Report → Prop) : Prop :=
  ∀ loads a reports after, x.run loads = (.ok (a, reports), after) → Q a reports

abbrev Silent (x : PassM α) : Prop := x.Files fun _ reports => reports = []

theorem files_pure {a : α} {Q : α → List Report → Prop} (h : Q a []) :
    (pure a : PassM α).Files Q := by
  intro loads b reports after hrun
  cases hrun
  exact h

theorem Files.bind {x : PassM α} {f : α → PassM β} {P : α → List Report → Prop}
    {Q : β → List Report → Prop} (hx : x.Files P)
    (hf : ∀ a filed, P a filed → (f a).Files fun b more => Q b (filed ++ more)) :
    (x >>= f).Files Q := by
  intro loads b reports after hrun
  obtain ⟨a, filed, middle, more, hxrun, hfrun, rfl⟩ := run_bind_eq_ok.mp hrun
  exact hf a filed (hx loads a filed middle hxrun) middle b more after hfrun

theorem Files.bind_pure {x : PassM α} {f : α → β} {P : α → List Report → Prop}
    {Q : β → List Report → Prop} (hx : x.Files P) (hf : ∀ a reports, P a reports → Q (f a) reports) :
    (x >>= fun a => pure (f a)).Files Q := by
  refine hx.bind fun a filed ha => files_pure ?_
  rw [List.append_nil]
  exact hf a filed ha

theorem Files.bind_of_silent {x : PassM α} {f : α → PassM β} {Q : β → List Report → Prop}
    (hx : x.Silent) (hf : ∀ a, (f a).Files Q) : (x >>= f).Files Q := by
  refine hx.bind fun a filed hfiled => ?_
  subst hfiled
  exact hf a

theorem silent_quietly (x : PassM α) : x.quietly.Silent := by
  intro loads a reports after hrun
  rw [run, quietly] at hrun
  rcases hxrun : x loads with ⟨error | ⟨b, filed⟩, last⟩ <;> rw [hxrun] at hrun <;> cases hrun
  rfl

theorem Files.attempt {x : LookupM α} {f : Except ResolveError α → PassM β}
    {Q : β → List Report → Prop} (hok : ∀ a, (f (.ok a)).Files Q)
    (herror : ∀ error, error.fetch? = none → (f (.error error)).Files Q) :
    (attempt x >>= f).Files Q := by
  intro loads b reports after hrun
  rcases run_attempt_bind_eq_ok.mp hrun with ⟨a, middle, -, hfrun⟩ | ⟨error, middle, hsoft, -, hfrun⟩
  · exact hok a middle b reports after hfrun
  · exact herror error hsoft middle b reports after hfrun

theorem silent_attempt? (x : LookupM α) : (attempt? x).Silent :=
  Files.attempt (fun _ => files_pure rfl) fun _ _ => files_pure rfl

theorem files_file (report : Report) : (file report).Files fun _ reports => reports = [report] := by
  intro loads a reports after hrun
  cases hrun
  rfl

end PassM

namespace Pass

theorem resolve_silent (fuel : Nat) (e : Env) (kind : PathKind) (path : Path) :
    (resolve fuel e kind path).Silent := by
  cases hpath : path.isResolved with
  | true =>
    cases path with
    | resolved p => exact files_pure rfl
    | _ => cases hpath
  | false =>
    rw [resolve_unresolved fuel e kind hpath]
    exact Files.attempt (fun _ => files_pure rfl) fun _ _ => files_pure rfl

theorem resolveOrReport_files (fuel : Nat) (e : Env) (kind : PathKind) (construct : Construct)
    (parent : Identifier) (path : Path) :
    (resolveOrReport fuel e kind construct parent path).Files fun out reports =>
      Accounted [⟨construct, parent, path⟩] [⟨construct, parent, out⟩] reports := by
  cases hpath : path.isResolved with
  | true =>
    cases path with
    | resolved p => exact files_pure (.ofResolved ⟨_, _, _⟩ (.inl rfl) hpath)
    | _ => cases hpath
  | false =>
    rw [resolveOrReport_unresolved fuel e kind construct parent hpath]
    refine Files.attempt (fun p => ?_) fun error hsoft => ?_
    · exact files_pure (.ofResolved ⟨_, _, _⟩ (.inr ⟨hpath, rfl⟩) rfl)
    · refine (files_file _).bind_pure fun _ reports hreports => ?_
      subst hreports
      exact .ofReport ⟨_, _, _⟩ hpath hsoft

end Pass

section Declarations

variable (fuel : Nat) (e : Env)

mutual

theorem TypeExpr.compile_silent (parent : Identifier) :
    ∀ t : TypeExpr, t.Plain → (t.compile fuel e parent).Silent
  | .var name, _ => by
    rw [TypeExpr.compile]
    exact files_pure rfl
  | .any, _ => by
    rw [TypeExpr.compile]
    exact files_pure rfl
  | .arrow label arg ret, .arrow _ harg hret => by
    rw [TypeExpr.compile]
    refine (arg.compile_silent parent harg).bind_of_silent fun _ => ?_
    exact (ret.compile_silent parent hret).bind_of_silent fun _ => files_pure rfl
  | .tuple ts, .tuple hts => by
    rw [TypeExpr.compile]
    exact (compileTypes_silent parent ts hts).bind_of_silent fun _ => files_pure rfl
  | .constr path args, .constr _ hargs => by
    rw [TypeExpr.compile]
    refine (Pass.resolve_silent fuel e .type path).bind_of_silent fun _ => ?_
    exact (compileTypes_silent parent args hargs).bind_of_silent fun _ => files_pure rfl
  | .variant kind es, .variant _ hes => by
    rw [TypeExpr.compile]
    exact (compileElements_silent parent es hes).bind_of_silent fun _ => files_pure rfl
  | .object fs isOpen, .object _ hfs => by
    rw [TypeExpr.compile]
    exact (compileFields_silent parent fs hfs).bind_of_silent fun _ => files_pure rfl
  | .classRef path args, .classRef _ hargs => by
    rw [TypeExpr.compile]
    refine (Pass.resolve_silent fuel e .classType path).bind_of_silent fun _ => ?_
    exact (compileTypes_silent parent args hargs).bind_of_silent fun _ => files_pure rfl
  | .poly vars body, .poly _ hbody => by
    rw [TypeExpr.compile]
    exact (body.compile_silent parent hbody).bind_of_silent fun _ => files_pure rfl

theorem compileTypes_silent (parent : Identifier) :
    ∀ ts : List TypeExpr, (∀ t ∈ ts, t.Plain) → (compileTypes fuel e parent ts).Silent
  | [], _ => files_pure rfl
  | t :: ts, h => by
    obtain ⟨ht, hts⟩ := List.forall_mem_cons.mp h
    rw [compileTypes]
    refine (t.compile_silent parent ht).bind_of_silent fun _ => ?_
    exact (compileTypes_silent parent ts hts).bind_of_silent fun _ => files_pure rfl

theorem compileElements_silent (parent : Identifier) :
    ∀ es : List VariantElement, (∀ element ∈ es, element.Plain) →
      (compileElements fuel e parent es).Silent
  | [], _ => files_pure rfl
  | .type t :: es, h => by
    have ⟨.type ht, hes⟩ := List.forall_mem_cons.mp h
    rw [compileElements]
    refine (t.compile_silent parent ht).bind_of_silent fun _ => ?_
    exact (compileElements_silent parent es hes).bind_of_silent fun _ => files_pure rfl
  | .constructor name constant args :: es, h => by
    have ⟨.constructor _ _ hargs, hes⟩ := List.forall_mem_cons.mp h
    rw [compileElements]
    refine (compileTypes_silent parent args hargs).bind_of_silent fun _ => ?_
    exact (compileElements_silent parent es hes).bind_of_silent fun _ => files_pure rfl

theorem compileFields_silent (parent : Identifier) :
    ∀ fs : List ObjectField, (∀ f ∈ fs, f.Plain) → (compileFields fuel e parent fs).Silent
  | [], _ => files_pure rfl
  | .method name t :: fs, h => by
    have ⟨.method _ ht, hfs⟩ := List.forall_mem_cons.mp h
    rw [compileFields]
    refine (t.compile_silent parent ht).bind_of_silent fun _ => ?_
    exact (compileFields_silent parent fs hfs).bind_of_silent fun _ => files_pure rfl
  | .inherit t :: fs, h => by
    have ⟨.inherit ht, hfs⟩ := List.forall_mem_cons.mp h
    rw [compileFields]
    refine (t.compile_silent parent ht).bind_of_silent fun _ => ?_
    exact (compileFields_silent parent fs hfs).bind_of_silent fun _ => files_pure rfl

end

theorem compileOptionalType_silent (parent : Identifier) {t : Option TypeExpr}
    (h : ∀ t' ∈ t, t'.Plain) : (compileOptionalType fuel e parent t).Silent := by
  cases t with
  | none => exact files_pure rfl
  | some t => exact (t.compile_silent fuel e parent (h t rfl)).bind_of_silent fun _ => files_pure rfl

theorem compileTypePairs_silent (parent : Identifier) {pairs : List (TypeExpr × TypeExpr)}
    (h : ∀ pair ∈ pairs, pair.1.Plain ∧ pair.2.Plain) :
    (compileTypePairs fuel e parent pairs).Silent := by
  induction pairs with
  | nil => exact files_pure rfl
  | cons pair pairs ih =>
    obtain ⟨l, t⟩ := pair
    obtain ⟨⟨hl, ht⟩, hpairs⟩ := List.forall_mem_cons.mp h
    refine (l.compile_silent fuel e parent hl).bind_of_silent fun _ => ?_
    refine (t.compile_silent fuel e parent ht).bind_of_silent fun _ => ?_
    exact (ih hpairs).bind_of_silent fun _ => files_pure rfl

theorem TypeEquation.Plain.compile_silent {eq : TypeEquation} (h : eq.Plain) (parent : Identifier) :
    (eq.compile fuel e parent).Silent := by
  refine (compileOptionalType_silent fuel e parent h.manifest).bind_of_silent fun _ => ?_
  exact (compileTypePairs_silent fuel e parent h.constraints).bind_of_silent fun _ => files_pure rfl

theorem compileRecord_silent (parent : Identifier) {fs : List Field}
    (h : ∀ f ∈ fs, f.type.Plain) : (compileRecord fuel e parent fs).Silent := by
  induction fs with
  | nil => exact files_pure rfl
  | cons f fs ih =>
    obtain ⟨hf, hfs⟩ := List.forall_mem_cons.mp h
    refine (f.type.compile_silent fuel e parent hf).bind_of_silent fun _ => ?_
    exact (ih hfs).bind_of_silent fun _ => files_pure rfl

theorem ConstructorArgs.Plain.compile_silent {args : ConstructorArgs} (h : args.Plain)
    (parent : Identifier) : (args.compile fuel e parent).Silent := by
  cases h with
  | tuple hts =>
    exact (compileTypes_silent fuel e parent _ hts).bind_of_silent fun _ => files_pure rfl
  | record hfs => exact (compileRecord_silent fuel e parent hfs).bind_of_silent fun _ => files_pure rfl

theorem Constructor.Plain.compile_silent {c : Constructor} (h : c.Plain) (parent : Identifier) :
    (c.compile fuel e parent).Silent := by
  refine (h.args.compile_silent fuel e parent).bind_of_silent fun _ => ?_
  exact (compileOptionalType_silent fuel e parent h.res).bind_of_silent fun _ => files_pure rfl

theorem compileConstructors_silent (parent : Identifier) {cs : List Constructor}
    (h : ∀ c ∈ cs, c.Plain) : (compileConstructors fuel e parent cs).Silent := by
  induction cs with
  | nil => exact files_pure rfl
  | cons c cs ih =>
    obtain ⟨hc, hcs⟩ := List.forall_mem_cons.mp h
    refine (hc.compile_silent fuel e parent).bind_of_silent fun _ => ?_
    exact (ih hcs).bind_of_silent fun _ => files_pure rfl

theorem TypeRepr.Plain.compile_silent {repr : TypeRepr} (h : repr.Plain) (parent : Identifier) :
    (repr.compile fuel e parent).Silent := by
  cases h with
  | variant hcs =>
    exact (compileConstructors_silent fuel e parent hcs).bind_of_silent fun _ => files_pure rfl
  | record hfs => exact (compileRecord_silent fuel e parent hfs).bind_of_silent fun _ => files_pure rfl
  | extensible => exact files_pure rfl

theorem TypeDecl.Plain.compile_silent {t : TypeDecl} (h : t.Plain) : (t.compile fuel e).Silent := by
  obtain ⟨id, doc, equation, representation⟩ := t
  refine (h.equation.compile_silent fuel e id).bind_of_silent fun _ => ?_
  cases representation with
  | none => exact files_pure rfl
  | some repr =>
    have hrepr := h.representation repr rfl
    exact (hrepr.compile_silent fuel e id).bind_of_silent fun _ => files_pure rfl

theorem Value.compile_silent {v : Value} (h : v.type.Plain) : (v.compile fuel e).Silent :=
  (v.type.compile_silent fuel e v.id h).bind_of_silent fun _ => files_pure rfl

theorem External.compile_silent {x : External} (h : x.type.Plain) : (x.compile fuel e).Silent :=
  (x.type.compile_silent fuel e x.id h).bind_of_silent fun _ => files_pure rfl

theorem compileExtended_silent {cs : List Constructor} (h : ∀ c ∈ cs, c.Plain) :
    (compileExtended fuel e cs).Silent := by
  induction cs with
  | nil => exact files_pure rfl
  | cons c cs ih =>
    obtain ⟨hc, hcs⟩ := List.forall_mem_cons.mp h
    refine (hc.compile_silent fuel e c.id).bind_of_silent fun _ => ?_
    exact (ih hcs).bind_of_silent fun _ => files_pure rfl

theorem Extension.compile_silent {x : Extension} (h : ∀ c ∈ x.constructors, c.Plain) :
    (x.compile fuel e).Silent := by
  refine (Pass.resolve_silent fuel e .type x.typePath).bind_of_silent fun _ => ?_
  exact (compileExtended_silent fuel e h).bind_of_silent fun _ => files_pure rfl

mutual

theorem ClassTypeExpr.compile_files (id : Identifier) :
    ∀ expr : ClassTypeExpr, expr.Plain → (expr.compile fuel e id).Files fun out reports =>
      Accounted (expr.sites id) (out.sites id) reports
  | .constr path args, .constr _ hargs => by
    rw [ClassTypeExpr.compile]
    have resolved := Pass.resolveOrReport_files fuel e .classType .classDecl id path
    refine resolved.bind fun out filed hfiled => ?_
    refine (compileTypes_silent fuel e id args hargs).bind_of_silent fun _ => files_pure ?_
    rw [List.append_nil]
    exact hfiled
  | .signature sig, .signature hsig => by
    rw [ClassTypeExpr.compile]
    exact (sig.compile_files id hsig).bind_pure fun _ _ h => h

theorem ClassSignature.compile_files (id : Identifier) :
    ∀ sig : ClassSignature, sig.Plain → (sig.compile fuel e id).Files fun out reports =>
      Accounted (sig.sites id) (out.sites id) reports
  | ⟨self, items⟩, .mk hself hitems => by
    rw [ClassSignature.compile]
    refine (compileOptionalType_silent fuel e id hself).bind_of_silent fun _ => ?_
    exact (compileClassItems_files id items hitems).bind_pure fun _ _ h => h

theorem compileClassItems_files (id : Identifier) :
    ∀ items : List ClassItem, (∀ item ∈ items, item.Plain) →
      (compileClassItems fuel e id items).Files fun out reports =>
        Accounted (sitesOfClassItems id items) (sitesOfClassItems id out) reports
  | [], _ => by
    rw [compileClassItems]
    exact files_pure .nil
  | item :: items, h => by
    obtain ⟨hitem, hitems⟩ := List.forall_mem_cons.mp h
    rw [compileClassItems]
    refine (item.compile_files id hitem).bind fun _ _ hfiled => ?_
    exact (compileClassItems_files id items hitems).bind_pure fun _ _ hmore => hfiled.append hmore

theorem ClassItem.compile_files (id : Identifier) :
    ∀ item : ClassItem, item.Plain → (item.compile fuel e id).Files fun out reports =>
      Accounted (item.sites id) (out.sites id) reports
  | .method m, .method htype => by
    rw [ClassItem.compile]
    exact (m.type.compile_silent fuel e id htype).bind_of_silent fun _ => files_pure .nil
  | .instanceVariable v, .instanceVariable htype => by
    rw [ClassItem.compile]
    exact (v.type.compile_silent fuel e id htype).bind_of_silent fun _ => files_pure .nil
  | .constraint lhs rhs, .constraint hlhs hrhs => by
    rw [ClassItem.compile]
    refine (lhs.compile_silent fuel e id hlhs).bind_of_silent fun _ => ?_
    exact (rhs.compile_silent fuel e id hrhs).bind_of_silent fun _ => files_pure .nil
  | .inherit expr, .inherit hexpr => by
    rw [ClassItem.compile]
    exact (expr.compile_files id hexpr).bind_pure fun _ _ h => h
  | .comment text, _ => by
    rw [ClassItem.compile]
    exact files_pure .nil

end

theorem ClassDecl.Plain.compile_files {decl : ClassDecl} (h : decl.Plain) (id : Identifier) :
    (decl.compile fuel e id).Files fun out reports =>
      Accounted (decl.body.sites id) (out.body.sites id) reports := by
  induction h with
  | @classType expr hexpr => exact (expr.compile_files fuel e id hexpr).bind_pure fun _ _ h => h
  | @arrow label arg body harg _ ih =>
    refine (arg.compile_silent fuel e id harg).bind_of_silent fun _ => ?_
    exact ih.bind_pure fun _ _ h => h

/-- A signature that is found through a path is compiled a second time, and its failures are
reported where it is declared. -/
theorem compileClassExpansion_silent (id : Identifier) (expr : ClassTypeExpr)
    (previous : Option ClassSignature) :
    (compileClassExpansion fuel e id expr previous).Silent := by
  cases expr with
  | signature sig => exact files_pure rfl
  | constr path args =>
    refine (silent_attempt? _).bind_of_silent fun found => ?_
    cases found.or previous with
    | none => exact files_pure rfl
    | some sig => exact (silent_quietly _).bind_of_silent fun _ => files_pure rfl

theorem Class.compile_files {c : Class} (h : c.decl.Plain) :
    (c.compile fuel e).Files fun out reports =>
      Accounted (Item.classDecl c).sites (Item.classDecl out).sites reports := by
  refine (h.compile_files fuel e c.id).bind fun decl filed hfiled => ?_
  have expansion := compileClassExpansion_silent fuel e c.id decl.body c.expansion
  refine expansion.bind_of_silent fun _ => files_pure ?_
  rw [List.append_nil]
  exact hfiled

theorem ClassType.compile_files {c : ClassType} (h : c.expr.Plain) :
    (c.compile fuel e).Files fun out reports =>
      Accounted (Item.classType c).sites (Item.classType out).sites reports := by
  refine (c.expr.compile_files fuel e c.id h).bind fun expr filed hfiled => ?_
  have expansion := compileClassExpansion_silent fuel e c.id expr c.expansion
  refine expansion.bind_of_silent fun _ => files_pure ?_
  rw [List.append_nil]
  exact hfiled

end Declarations

section Signatures

variable (p : Pass)

mutual

theorem Signature.pass_files : ∀ (sig : Signature) (e : Env), sig.Plain →
    (sig.pass p e).Files fun out reports => Accounted sig.sites out.sites reports
  | ⟨items, false, doc⟩, e, .mk _ hitems => by
    rw [Signature.pass]
    exact (passItems_files items _ hitems).bind_pure fun _ _ h => h

theorem passItems_files : ∀ (items : List Item) (e : Env), (∀ item ∈ items, item.Plain) →
    (passItems p e items).Files fun out reports =>
      Accounted (sitesOfItems items) (sitesOfItems out.1) reports
  | [], e, _ => by
    rw [passItems]
    exact files_pure .nil
  | item :: items, e, h => by
    obtain ⟨hitem, hitems⟩ := List.forall_mem_cons.mp h
    rw [passItems]
    refine (item.pass_files e hitem).bind fun ⟨_, next⟩ _ hfiled => ?_
    exact (passItems_files items next hitems).bind_pure fun _ _ hmore => hfiled.append hmore

theorem Item.pass_files : ∀ (item : Item) (e : Env), item.Plain →
    (item.pass p e).Files fun out reports => Accounted item.sites out.1.sites reports
  | .module m, e, .module hm => by
    rw [Item.pass]
    exact (m.pass_files e hm).bind_pure fun _ _ h => h
  | .moduleSubstitution m, e, _ => by
    rw [Item.pass]
    have manifest := Pass.resolve_silent p.fuel e .module m.manifest
    exact manifest.bind_of_silent fun _ => files_pure .nil
  | .moduleType m, e, .moduleType hm => by
    rw [Item.pass]
    exact (m.pass_files e hm).bind_pure fun _ _ h => h
  | .type t, e, .type ht => by
    rw [Item.pass]
    exact (ht.compile_silent p.fuel _).bind_of_silent fun _ => files_pure .nil
  | .typeSubstitution t, e, .typeSubstitution ht => by
    rw [Item.pass]
    exact (ht.compile_silent p.fuel e).bind_of_silent fun _ => files_pure .nil
  | .value v, e, .value htype => by
    rw [Item.pass]
    exact (Value.compile_silent p.fuel e htype).bind_of_silent fun _ => files_pure .nil
  | .external x, e, .external htype => by
    rw [Item.pass]
    exact (External.compile_silent p.fuel e htype).bind_of_silent fun _ => files_pure .nil
  | .classDecl c, e, .classDecl hdecl => by
    rw [Item.pass]
    exact (Class.compile_files p.fuel e hdecl).bind_pure fun _ _ h => h
  | .classType c, e, .classType hexpr => by
    rw [Item.pass]
    exact (ClassType.compile_files p.fuel e hexpr).bind_pure fun _ _ h => h
  | .extension x, e, .extension hconstructors => by
    rw [Item.pass]
    exact (Extension.compile_silent p.fuel e hconstructors).bind_of_silent fun _ => files_pure .nil
  | .exception c, e, .exception hc => by
    rw [Item.pass]
    exact (hc.compile_silent p.fuel e c.id).bind_of_silent fun _ => files_pure .nil
  | .opened doc sig, e, .opened _ hsig => by
    rw [Item.pass]
    exact (sig.pass_files e hsig).bind_pure fun _ _ h => h
  | .comment text, e, _ => by
    rw [Item.pass]
    exact files_pure .nil

theorem Module.pass_files : ∀ (m : Module) (e : Env), m.Plain →
    (m.pass p e).Files fun out reports => Accounted m.sites out.sites reports
  | ⟨id, doc, decl, false⟩, e, .mk _ _ hdecl => by
    rw [Module.pass]
    exact (decl.pass_files id _ hdecl).bind_pure fun _ _ h => h

theorem ModuleDecl.pass_files : ∀ (decl : ModuleDecl) (id : Identifier) (e : Env), decl.Plain →
    (decl.pass p e id).Files fun out reports => Accounted (decl.sites id) (out.sites id) reports
  | .aliasOf path stored, id, e, .aliasOf _ hstored => by
    rw [ModuleDecl.pass]
    have resolved := Pass.resolveOrReport_files p.fuel e .module .modulePath id path
    refine resolved.bind fun _ _ hfiled => ?_
    exact (passExpansion_files stored e hstored).bind_pure fun _ _ hmore => hfiled.append hmore
  | .typed expr, id, e, .typed hexpr => by
    rw [ModuleDecl.pass]
    exact (expr.pass_files id e hexpr).bind_pure fun _ _ h => h

theorem ModuleType.pass_files : ∀ (m : ModuleType) (e : Env), m.Plain →
    (m.pass p e).Files fun out reports => Accounted m.sites out.sites reports
  | ⟨id, doc, none⟩, e, _ => by
    rw [ModuleType.pass]
    exact files_pure .nil
  | ⟨id, doc, some expr⟩, e, .mk _ _ hexpr => by
    rw [ModuleType.pass]
    exact (expr.pass_files id e (hexpr expr rfl)).bind_pure fun _ _ h => h

theorem passExpansion_files : ∀ (stored : Option StoredExpansion) (e : Env),
    (∀ expansion ∈ stored, expansion.Plain) → (passExpansion p e stored).Files fun out reports =>
      Accounted (sitesOfExpansion stored) (sitesOfExpansion out) reports
  | none, e, _ => by
    rw [passExpansion]
    exact files_pure .nil
  | some stored, e, h => by
    rw [passExpansion]
    exact (stored.pass_files e (h stored rfl)).bind_pure fun _ _ h => h

theorem StoredExpansion.pass_files : ∀ (stored : StoredExpansion) (e : Env), stored.Plain →
    (stored.pass p e).Files fun out reports => Accounted stored.sites out.sites reports
  | .signature sig, e, .signature hsig => by
    rw [StoredExpansion.pass]
    exact (sig.pass_files e hsig).bind_pure fun _ _ h => h
  | .functor param body, e, .functor hparam hbody => by
    rw [StoredExpansion.pass]
    refine (param.pass_files e hparam).bind fun _ _ hfiled => ?_
    exact (body.pass_files _ hbody).bind_pure fun _ _ hmore => hfiled.append hmore

theorem FunctorParameter.pass_files : ∀ (param : FunctorParameter) (e : Env), param.Plain →
    (param.pass p e).Files fun out reports => Accounted param.sites out.sites reports
  | .unit, e, _ => by
    rw [FunctorParameter.pass]
    exact files_pure .nil
  | .named id expr, e, .named _ hexpr => by
    rw [FunctorParameter.pass]
    exact (expr.pass_files id e hexpr).bind_pure fun _ _ h => h

theorem ModuleTypeExpr.pass_files : ∀ (expr : ModuleTypeExpr) (id : Identifier) (e : Env),
    expr.Plain →
    (expr.pass p e id).Files fun out reports => Accounted (expr.sites id) (out.sites id) reports
  | .path path stored, id, e, .path _ hstored => by
    rw [ModuleTypeExpr.pass]
    have resolved := Pass.resolveOrReport_files p.fuel e .moduleType .moduleTypePath id path
    refine resolved.bind fun _ _ hfiled => ?_
    exact (passExpansion_files stored e hstored).bind_pure fun _ _ hmore => hfiled.append hmore
  | .signature sig, id, e, .signature hsig => by
    rw [ModuleTypeExpr.pass]
    exact (sig.pass_files e hsig).bind_pure fun _ _ h => h
  | .functor param body, id, e, .functor hparam hbody => by
    rw [ModuleTypeExpr.pass]
    refine (param.pass_files e hparam).bind fun _ _ hfiled => ?_
    -- What the body reports is filed under the anonymous result of the functor.
    exact (body.pass_files id.result _ hbody).bind_pure fun _ _ hmore => hfiled.append hmore
  | .typeOf origin stored, id, e, .typeOf _ hstored => by
    rw [ModuleTypeExpr.pass]
    have resolved := Pass.resolveOrReport_files p.fuel e .module .modulePath id origin.path
    refine resolved.bind fun path _ hfiled => ?_
    refine (passExpansion_files stored e hstored).bind_pure fun _ _ hmore => ?_
    rw [ModuleTypeExpr.sites, ModuleTypeExpr.sites, TypeOfOrigin.path_withPath]
    exact hfiled.append hmore

end

end Signatures

/-- Compiling plain items resolves some of their sites, reports the others, one by one and in order,
and reports nothing else. -/
theorem compileItems_reports (fuel : Nat) (env : Env) (items : List Item) (loads : Loads)
    (out : List Item) (last : Env) (reports : List Report) (after : Loads)
    (hplain : ∀ item ∈ items, item.Plain)
    (h : (compileItems fuel env items).run loads = (.ok ((out, last), reports), after)) :
    Accounted (sitesOfItems items) (sitesOfItems out) reports :=
  passItems_files (.start fuel) items env hplain loads (out, last) reports after h

def Item.withGaps (path : Path) : List Item :=
  let a := Identifier.root "A"
  let f := a.child .module "F"
  let sig : ClassSignature := ⟨none, [.inherit (.constr (.root "gone") [])]⟩
  [.moduleType ⟨a.child .moduleType "S", [], none⟩,
    .module ⟨f, [], .typed (.functor (.named (f.child .parameter "X") (.path path none))
      (.path (.root "Gone") none)), false⟩,
    .classDecl ⟨a.child .classDecl "c", [], false, [], .classType (.signature sig), some sig⟩]

theorem Item.withGaps_plain (path : Path) : ∀ item ∈ Item.withGaps path, item.Plain := by
  have hfunctor : (ModuleTypeExpr.functor
      (.named (((Identifier.root "A").child .module "F").child .parameter "X") (.path path none))
      (.path (.root "Gone") none)).Plain :=
    .functor (.named _ (.path path (by simp))) (.path _ (by simp))
  have hclass : (ClassDecl.classType
      (.signature ⟨none, [.inherit (.constr (.root "gone") [])]⟩)).Plain := by
    refine .classType (.signature (.mk (by simp) ?_))
    simpa using .inherit (.constr _ (by simp))
  simp only [Item.withGaps, List.forall_mem_cons]
  have habstract : ∀ expr ∈ (none : Option ModuleTypeExpr), expr.Plain := by simp
  exact ⟨.moduleType (.mk _ _ habstract), .module (.mk _ _ (.typed hfunctor)), .classDecl hclass,
    by simp⟩

theorem compileItems_reports_gaps :
    let a := Identifier.root "A"
    let f := a.child .module "F"
    let site (path : Path) : Site := ⟨.moduleTypePath, f.child .parameter "X", path⟩
    let result : Site := ⟨.moduleTypePath, f.result, .root "Gone"⟩
    let parent : Site := ⟨.classDecl, a.child .classDecl "c", .root "gone"⟩
    Accounted [site (.root "S"), result, parent]
      [site (.ofIdentifier (a.child .moduleType "S")), result, parent]
      [result.report (.notFound .moduleType "Gone"), parent.report (.notFound .classType "gone")] :=
  compileItems_reports 0 .empty (Item.withGaps (.root "S")) {}
    (Item.withGaps (.ofIdentifier ((Identifier.root "A").child .moduleType "S"))) _ _ {}
    (Item.withGaps_plain _) rfl

end CrossRef
