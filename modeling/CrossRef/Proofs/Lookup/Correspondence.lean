import CrossRef.Lookup
import CrossRef.Proofs.Env.Outline

/-! Two lookups side by side. A relation between lookups that holds of fetching a unit and is kept
when lookups are put together holds of all of them. -/

namespace CrossRef

namespace LookupM

def orFail {α : Type} (error : ResolveError) (x : LookupM α) : LookupM α := do
  match ← x.result? with
  | some a => pure a
  | none => fail error

theorem orFail_apply {α : Type} (error : ResolveError) (x : LookupM α) (loads : Loads) :
    x.orFail error loads =
      match x loads with
      | (.ok a, after) => (.ok a, after)
      | (.error .outOfFuel, after) => (.error .outOfFuel, after)
      | (.error (.fault cause), after) =>
        match cause.fetch? with
        | some _ => (.error (.fault cause), after)
        | none => (.error (.fault error), after) := by
  simp only [orFail, result?, bind_apply, attempt]
  rcases h : x loads with ⟨(cause | _) | a, after⟩
  · cases h' : cause.fetch? <;> simp [h', pure_apply, fail_apply, Except.toOption]
  · rfl
  · rfl

end LookupM

theorem Steps.resolveFragment_eq (s : Steps) (env : Env) (c : Constraint) :
    s.resolveFragment env c = (do
      let resolved ← (s.fragment env c.space c.fragment).orFail c.missing
      pure (c.withFragment (.resolved resolved))) := by
  rw [resolveFragment, LookupM.orFail, bind_assoc]
  congr 1
  funext found
  cases found with
  | none => rfl
  | some resolved => rw [pure_bind]

theorem Steps.identifier_eq (s : Steps) (env : Env) (id : Identifier) :
    s.identifier env id =
      match (env.lookupById id).bind Component.opened? with
      | some (.module m) => s.moduleDecl env m.decl
      | some (.parameter arg) => s.moduleTypeExpr env arg.expr
      | some (.unit unit) => pure (.signature unit.content.signature)
      | _ => s.outerIdentifier env id := by
  rw [identifier]
  rcases env.lookupById id with _ | component
  · rfl
  · cases component <;> rfl

theorem Steps.findModuleType_identifier (s : Steps) (env : Env) (id : Identifier) :
    s.findModuleType env (.identifier id) =
      match (env.lookupById id).bind Component.opened?, id.parent? with
      | some (.moduleType m), _ => pure (m, env)
      | _, some parent => do
        moduleTypeAmong env (.identifier id) id.name (← s.signatureOfContainer env parent)
      | _, none => LookupM.fail (.notFound .moduleType id.text) := by
  rw [findModuleType]
  rcases env.lookupById id with _ | component
  · rfl
  · cases component <;> cases id.parent? <;> rfl

theorem Steps.classComponent_identifier (s : Steps) (env : Env) (id : Identifier) :
    s.classComponent env (.identifier id) =
      match (env.lookupById id).bind Component.opened?, id.parent? with
      | some (.classDecl c), _ => pure (.classDecl c)
      | some (.classType c), _ => pure (.classType c)
      | _, some parent => do
        classAmong (.identifier id) id.name (← s.signatureOfContainer env parent)
      | _, none => LookupM.fail (.notFound .classType id.text) := by
  rw [classComponent]
  rcases env.lookupById id with _ | component
  · rfl
  · cases component <;> cases id.parent? <;> rfl

/-- A relation between lookups, together with the relation between environments under which it
can be relied on. -/
structure LookupRel where
  rel : {α : Type} → LookupM α → LookupM α → Prop
  env : Env → Env → Prop
  rel_pure : ∀ {α : Type} (a : α), rel (pure a) (pure a)
  rel_fail : ∀ {α : Type} (error : ResolveError), error.fetch? = none →
    rel (LookupM.fail error : LookupM α) (LookupM.fail error)
  rel_bind : ∀ {α β : Type} {x y : LookupM α} {f g : α → LookupM β},
    rel x y → (∀ a, rel (f a) (g a)) → rel (x >>= f) (y >>= g)
  rel_orFail : ∀ {α : Type} {x y : LookupM α} (error : ResolveError), error.fetch? = none →
    rel x y → rel (x.orFail error) (y.orFail error)
  env_answers : ∀ {e e' : Env}, env e e' → e.SameAnswers e'
  env_push : ∀ {e e' : Env} (s : Scope), env e e' → env (e.push s) (e'.push s)
  rel_fetch : ∀ {e e' : Env} (root : Identifier), env e e' → rel (e.fetch root) (e'.fetch root)

namespace LookupRel

variable (R : LookupRel)

theorem map {α β : Type} {x y : LookupM α} (f : α → β) (h : R.rel x y) :
    R.rel (f <$> x) (f <$> y) := by
  rw [map_eq_pure_bind, map_eq_pure_bind]
  exact R.rel_bind h fun a => R.rel_pure (f a)

theorem openSignature {e e' : Env} (sig : Signature) (h : R.env e e') :
    R.env (e.openSignature sig) (e'.openSignature sig) := R.env_push _ h

theorem addFragmentRoot {e e' : Env} (sig : Signature) (h : R.env e e') :
    R.env (e.addFragmentRoot sig) (e'.addFragmentRoot sig) := R.env_push _ h

theorem addParameter {e e' : Env} (param : FunctorParameter) (h : R.env e e') :
    R.env (e.addParameter param) (e'.addParameter param) := by
  cases param with
  | unit => exact h
  | named id expr => exact R.env_push _ h

theorem asSignature (e : Expansion) : R.rel e.asSignature e.asSignature := by
  cases e with
  | signature sig => exact R.rel_pure sig
  | functor param body => exact R.rel_fail _ rfl

theorem fetchByName {e e' : Env} (he : R.env e e') (name : String) :
    R.rel (e.fetchByName name) (e'.fetchByName name) := by
  rw [Env.fetchByName, Env.fetchByName, (R.env_answers he).lookupUnit]
  cases e'.lookupUnit name with
  | found root => exact R.map _ (R.rel_fetch root he)
  | notFound => exact R.rel_pure _
  | forwardReference => exact R.rel_pure _

structure StepsRel (s s' : Steps) : Prop where
  follow : ∀ {e e' : Env}, R.env e e' → ∀ target, R.rel (s.follow e target) (s'.follow e' target)
  reopen : ∀ {e e' : Env}, R.env e e' → ∀ decl, R.rel (s.reopen e decl) (s'.reopen e' decl)
  restart : ∀ {e e' : Env}, R.env e e' → ∀ decl, R.rel (s.restart e decl) (s'.restart e' decl)

namespace StepsRel

variable {R} {s s' : Steps} {e e' : Env} (h : R.StepsRel s s') (he : R.env e e')

include h he

theorem signatureOfModule (path : ResolvedPath) :
    R.rel (s.signatureOfModule e path) (s'.signatureOfModule e' path) :=
  R.rel_bind (h.follow he _) R.asSignature

theorem signatureOfContainer (id : Identifier) :
    R.rel (s.signatureOfContainer e id) (s'.signatureOfContainer e' id) :=
  R.rel_bind (h.follow he _) R.asSignature

omit h in
theorem boundName (ns : Namespace) (name : String) {x y : LookupM ResolvedPath}
    (hxy : R.rel x y) :
    R.rel
      (match e.lookupByName ns name with
        | some (id, _) => pure (.identifier id)
        | none => x)
      (match e'.lookupByName ns name with
        | some (id, _) => pure (.identifier id)
        | none => y) := by
  have hid := (R.env_answers he).boundId? ns name
  rw [Env.boundId?, Env.boundId?] at hid
  rcases h₁ : e.lookupByName ns name with _ | ⟨id, c⟩ <;>
    rcases h₂ : e'.lookupByName ns name with _ | ⟨id', c'⟩ <;>
    rw [h₁, h₂] at hid
  · exact hxy
  · cases hid
  · cases hid
  · cases hid
    exact R.rel_pure _

theorem modulePath (path : Path) : R.rel (s.modulePath e path) (s'.modulePath e' path) := by
  induction path with
  | resolved path => exact R.rel_pure path
  | root name =>
    simp only [Steps.modulePath]
    refine boundName he .module name ?_
    rw [(R.env_answers he).lookupUnit]
    cases e'.lookupUnit name with
    | found root => exact R.rel_pure _
    | notFound => exact R.rel_fail _ rfl
    | forwardReference => exact R.rel_fail _ rfl
  | dot parent name ih =>
    simp only [Steps.modulePath]
    refine R.rel_bind ih fun owner => R.rel_bind (h.signatureOfModule he owner) fun sig => ?_
    cases sig.find? .module name with
    | none => exact R.rel_fail _ rfl
    | some item => exact R.rel_pure _
  | apply f a ihf iha =>
    simp only [Steps.modulePath]
    refine R.rel_bind ihf fun functor => R.rel_bind iha fun argument => ?_
    refine R.rel_bind (h.follow he _) fun found => ?_
    cases found with
    | signature sig => exact R.rel_fail _ rfl
    | functor param body => exact R.rel_pure _

theorem memberPath (kind : PathKind) (ns : Namespace) (path : Path) :
    R.rel (s.memberPath e kind ns path) (s'.memberPath e' kind ns path) := by
  cases path with
  | resolved path => exact R.rel_pure path
  | root name => exact R.rel_fail _ rfl
  | dot parent name =>
    simp only [Steps.memberPath]
    refine R.rel_bind (h.modulePath he parent) fun owner =>
      R.rel_bind (h.signatureOfModule he owner) fun sig => ?_
    cases sig.find? ns name with
    | none => exact R.rel_fail _ rfl
    | some item => exact R.rel_pure _
  | apply f a => exact R.rel_fail _ rfl

theorem moduleTypePath (path : Path) :
    R.rel (s.moduleTypePath e path) (s'.moduleTypePath e' path) := by
  cases path with
  | root name => exact boundName he .moduleType name (R.rel_fail _ rfl)
  | resolved path => exact h.memberPath he .moduleType .moduleType (.resolved path)
  | dot parent name => exact h.memberPath he .moduleType .moduleType (.dot parent name)
  | apply f a => exact h.memberPath he .moduleType .moduleType (.apply f a)

theorem typePath (path : Path) : R.rel (s.typePath e path) (s'.typePath e' path) := by
  cases path with
  | root name =>
    refine boundName he .type name ?_
    split
    · exact R.rel_pure _
    · exact R.rel_fail _ rfl
  | resolved path => exact h.memberPath he .type .type (.resolved path)
  | dot parent name => exact h.memberPath he .type .type (.dot parent name)
  | apply f a => exact h.memberPath he .type .type (.apply f a)

theorem classTypePath (path : Path) :
    R.rel (s.classTypePath e path) (s'.classTypePath e' path) := by
  cases path with
  | root name => exact boundName he .classType name (R.rel_fail _ rfl)
  | resolved path => exact h.memberPath he .classType .classType (.resolved path)
  | dot parent name => exact h.memberPath he .classType .classType (.dot parent name)
  | apply f a => exact h.memberPath he .classType .classType (.apply f a)

theorem path (kind : PathKind) (path : Path) :
    R.rel (s.path e kind path) (s'.path e' kind path) := by
  cases kind with
  | module => exact h.modulePath he path
  | moduleType => exact h.moduleTypePath he path
  | type => exact h.typePath he path
  | classType => exact h.classTypePath he path

omit he in
theorem locate (ns : Namespace) {fault : ResolveError} (hfault : fault.fetch? = none)
    (names : List String) :
    ∀ {e e' : Env}, R.env e e' → ∀ sig here,
      R.rel (s.locate ns fault e sig here names) (s'.locate ns fault e' sig here names) := by
  induction names with
  | nil => intro e e' _ sig here; exact R.rel_fail _ hfault
  | cons name rest ih =>
    intro e e' he sig here
    cases rest with
    | nil =>
      simp only [Steps.locate]
      split
      · exact R.rel_pure _
      · exact R.rel_pure _
      · exact R.rel_fail _ hfault
    | cons next rest =>
      simp only [Steps.locate]
      cases sig.module? name with
      | none => exact R.rel_fail _ hfault
      | some m =>
        have scope := R.openSignature sig he
        refine R.rel_bind (h.restart scope m.decl) fun found => R.rel_bind (R.asSignature found) ?_
        intro inner
        exact ih scope inner (here.module name)

theorem fragment (hroot : e.fragmentRoot? = e'.fragmentRoot?) (ns : Namespace) (f : Fragment) :
    R.rel (s.fragment e ns f) (s'.fragment e' ns f) := by
  simp only [Steps.fragment, hroot]
  cases f.resolved? with
  | some resolved => exact R.rel_pure _
  | none =>
    cases e'.fragmentRoot? with
    | none => exact R.rel_fail _ rfl
    | some sig => exact h.locate ns rfl _ he sig _

theorem resolveFragment (hroot : e.fragmentRoot? = e'.fragmentRoot?) (c : Constraint) :
    R.rel (s.resolveFragment e c) (s'.resolveFragment e' c) := by
  rw [Steps.resolveFragment_eq, Steps.resolveFragment_eq]
  exact R.rel_bind (R.rel_orFail _ rfl (h.fragment he hroot _ _)) fun resolved => R.rel_pure _

theorem constrainMember (c : Constraint) (name : String) (sig : Signature) :
    R.rel (s.constrainMember e c name sig) (s'.constrainMember e' c name sig) := by
  cases c with
  | moduleEq f decl =>
    simp only [Steps.constrainMember]
    split
    · exact R.rel_pure _
    · exact R.rel_fail _ rfl
  | moduleSubst f path =>
    simp only [Steps.constrainMember]
    refine R.rel_bind (h.modulePath he path) fun target => ?_
    split
    · exact R.rel_pure _
    · exact R.rel_fail _ rfl
  | typeEq f eq =>
    simp only [Steps.constrainMember]
    split
    · exact R.rel_pure _
    · exact R.rel_fail _ rfl
  | typeSubst f eq =>
    simp only [Steps.constrainMember]
    split
    · exact R.rel_fail _ rfl
    · split
      · exact R.rel_pure _
      · exact R.rel_fail _ rfl

omit he in
theorem constrainAt (c : Constraint) (names : List String) :
    ∀ {e e' : Env}, R.env e e' → ∀ sig,
      R.rel (s.constrainAt c e names sig) (s'.constrainAt c e' names sig) := by
  induction names with
  | nil => intro e e' _ sig; exact R.rel_fail _ rfl
  | cons name rest ih =>
    intro e e' he sig
    cases rest with
    | nil => exact h.constrainMember he c name sig
    | cons next rest =>
      simp only [Steps.constrainAt]
      cases sig.module? name with
      | none => exact R.rel_fail _ rfl
      | some m =>
        have scope := R.openSignature sig he
        refine R.rel_bind (h.reopen scope m.decl) fun found => R.rel_bind (R.asSignature found) ?_
        intro inner
        refine R.rel_bind (ih scope inner) fun changed => ?_
        split
        · exact R.rel_pure _
        · exact R.rel_fail _ rfl

theorem constrain (c : Constraint) (sig : Signature) :
    R.rel (s.constrain e c sig) (s'.constrain e' c sig) := by
  simp only [Steps.constrain]
  cases c.fragment.resolved? with
  | none => exact R.rel_fail _ rfl
  | some resolved => exact h.constrainAt c _ he sig

theorem constrainAll (cs : List Constraint) (sig : Signature) :
    R.rel (s.constrainAll e cs sig) (s'.constrainAll e' cs sig) := by
  induction cs generalizing sig with
  | nil => exact R.rel_pure sig
  | cons c cs ih =>
    refine R.rel_bind (h.resolveFragment (R.addFragmentRoot sig he) rfl c) fun resolved => ?_
    exact R.rel_bind (h.constrain he resolved sig) ih

theorem signatureExpr (expr : SignatureExpr) :
    R.rel (s.signatureExpr e expr) (s'.signatureExpr e' expr) := by
  cases expr with
  | path path =>
    refine R.rel_bind (h.moduleTypePath he path) fun target => ?_
    exact R.rel_bind (h.follow he _) R.asSignature
  | signature sig => exact R.rel_pure sig
  | constrained cs base =>
    rw [Steps.signatureExpr, Steps.signatureExpr]
    exact R.rel_bind (signatureExpr base) (h.constrainAll he cs)
  | typeOf origin =>
    exact R.rel_bind (h.modulePath he origin.path) (h.signatureOfModule he)

theorem moduleTypeExpr (expr : ModuleTypeExpr) :
    R.rel (s.moduleTypeExpr e expr) (s'.moduleTypeExpr e' expr) := by
  cases expr with
  | path path expansion =>
    cases expansion with
    | some expansion => exact R.rel_pure _
    | none =>
      simp only [Steps.moduleTypeExpr]
      exact R.rel_bind (h.moduleTypePath he path) fun target => h.follow he _
  | signature sig => exact R.rel_pure _
  | functor param body => exact R.rel_pure _
  | constrained cs base expansion =>
    cases expansion with
    | some expansion => exact R.rel_pure _
    | none =>
      simp only [Steps.moduleTypeExpr]
      exact R.map _ (h.signatureExpr he _)
  | typeOf origin expansion =>
    cases expansion with
    | some expansion => exact R.rel_pure _
    | none =>
      simp only [Steps.moduleTypeExpr]
      exact R.map _ (h.signatureExpr he _)

theorem moduleDecl (decl : ModuleDecl) : R.rel (s.moduleDecl e decl) (s'.moduleDecl e' decl) := by
  cases decl with
  | aliasOf path expansion =>
    cases expansion with
    | some expansion => exact R.rel_pure _
    | none => exact h.follow he _
  | typed expr => exact h.moduleTypeExpr he expr

theorem moduleType (m : ModuleType) : R.rel (s.moduleType e m) (s'.moduleType e' m) := by
  simp only [Steps.moduleType]
  split
  · exact h.moduleTypeExpr he _
  · exact R.rel_fail _ rfl

theorem functorResult (param : FunctorParameter) (body : ModuleTypeExpr) :
    R.rel (s.functorResult e param body) (s'.functorResult e' param body) :=
  h.moduleTypeExpr (R.addParameter param he) body

theorem memberModule (sig : Signature) (name : String) :
    R.rel (s.memberModule e sig name) (s'.memberModule e' sig name) := by
  simp only [Steps.memberModule]
  split
  · exact h.moduleDecl (R.openSignature sig he) _
  · exact R.rel_fail _ rfl

theorem outerIdentifier (id : Identifier) :
    R.rel (s.outerIdentifier e id) (s'.outerIdentifier e' id) := by
  simp only [Steps.outerIdentifier]
  split
  · exact R.rel_bind (R.rel_fetch id he) fun unit => R.rel_pure _
  · exact R.rel_bind (h.signatureOfContainer he _) fun sig => h.memberModule he sig _
  · refine R.rel_bind (h.follow he _) fun found => ?_
    split
    · split
      · exact h.moduleTypeExpr he _
      · exact R.rel_fail _ rfl
    · exact R.rel_fail _ rfl
  · exact R.rel_fail _ rfl
  · exact R.rel_fail _ rfl
  · exact R.rel_fail _ rfl

theorem identifier (id : Identifier) : R.rel (s.identifier e id) (s'.identifier e' id) := by
  rw [Steps.identifier_eq, Steps.identifier_eq, (R.env_answers he).lookupOpened]
  split
  · exact h.moduleDecl he _
  · exact h.moduleTypeExpr he _
  · exact R.rel_pure _
  · exact h.outerIdentifier he id

theorem module (path : ResolvedPath) : R.rel (s.module e path) (s'.module e' path) := by
  cases path with
  | identifier id => exact h.identifier he id
  | apply functor argument =>
    simp only [Steps.module]
    refine R.rel_bind (h.follow he _) fun found => ?_
    cases found with
    | signature sig => exact R.rel_fail _ rfl
    | functor param body =>
      refine R.rel_bind (h.functorResult he param body) fun result => ?_
      cases param with
      | unit => exact R.rel_pure _
      | named id expr => exact R.rel_pure _
  | dot parent kind name =>
    exact R.rel_bind (h.signatureOfModule he parent) fun sig => h.memberModule he sig name

omit h in
theorem moduleTypeAmong {β : Type} {k k' : ModuleType → Env → LookupM β}
    (hk : ∀ {e e' : Env}, R.env e e' → ∀ m, R.rel (k m e) (k' m e'))
    (path : ResolvedPath) (name : String) (sig : Signature) :
    R.rel (Steps.moduleTypeAmong e path name sig >>= fun found => k found.1 found.2)
      (Steps.moduleTypeAmong e' path name sig >>= fun found => k' found.1 found.2) := by
  rw [Steps.moduleTypeAmong, Steps.moduleTypeAmong]
  split
  · rw [pure_bind, pure_bind]
    exact hk (R.openSignature sig he) _
  · exact R.rel_fail _ rfl

/-- The environments that are found correspond, so the result is stated for what comes after. -/
theorem findModuleType {β : Type} {k k' : ModuleType → Env → LookupM β}
    (hk : ∀ {e e' : Env}, R.env e e' → ∀ m, R.rel (k m e) (k' m e')) (path : ResolvedPath) :
    R.rel (s.findModuleType e path >>= fun found => k found.1 found.2)
      (s'.findModuleType e' path >>= fun found => k' found.1 found.2) := by
  cases path with
  | identifier id =>
    rw [Steps.findModuleType_identifier, Steps.findModuleType_identifier,
      (R.env_answers he).lookupOpened]
    split
    · rw [pure_bind, pure_bind]
      exact hk he _
    · rw [bind_assoc, bind_assoc]
      exact R.rel_bind (h.signatureOfContainer he _) (moduleTypeAmong he hk _ _)
    · exact R.rel_fail _ rfl
  | dot parent kind name =>
    rw [Steps.findModuleType, Steps.findModuleType, bind_assoc, bind_assoc]
    exact R.rel_bind (h.signatureOfModule he parent) (moduleTypeAmong he hk _ name)
  | apply functor argument => exact R.rel_fail _ rfl

theorem container (id : Identifier) : R.rel (s.container e id) (s'.container e' id) := by
  simp only [Steps.container]
  split
  · exact h.follow he _
  · exact h.follow he _
  · exact h.follow he _
  · exact h.follow he _
  · refine R.rel_bind (h.follow he _) fun found => ?_
    cases found with
    | signature sig => exact R.rel_fail _ rfl
    | functor param body => exact h.functorResult he param body
  · exact R.rel_fail _ rfl

theorem step (target : Target) : R.rel (s.step e target) (s'.step e' target) := by
  cases target with
  | module path => exact h.module he path
  | moduleType path => exact h.findModuleType he (fun he m => h.moduleType he m) path
  | container id => exact h.container he id
  | aliased path => exact R.rel_bind (h.modulePath he path) fun target => h.follow he _

omit h he in
theorem classAmong (path : ResolvedPath) (name : String) (sig : Signature) :
    R.rel (Steps.classAmong path name sig) (Steps.classAmong path name sig) := by
  rw [Steps.classAmong]
  split
  · exact R.rel_pure _
  · exact R.rel_fail _ rfl

theorem classComponent (path : ResolvedPath) :
    R.rel (s.classComponent e path) (s'.classComponent e' path) := by
  cases path with
  | identifier id =>
    rw [Steps.classComponent_identifier, Steps.classComponent_identifier,
      (R.env_answers he).lookupOpened]
    split
    · exact R.rel_pure _
    · exact R.rel_pure _
    · exact R.rel_bind (h.signatureOfContainer he _) (classAmong _ _)
    · exact R.rel_fail _ rfl
  | dot parent kind name => exact R.rel_bind (h.signatureOfModule he parent) (classAmong _ name)
  | apply functor argument => exact R.rel_fail _ rfl

end StepsRel

def ExpandRel (expand expand' : Nat → Env → ModuleDecl → LookupM Expansion) : Prop :=
  ∀ {e e' : Env}, R.env e e' → ∀ budget decl,
    R.rel (expand budget e decl) (expand' budget e' decl)

section Allowance

variable {R} {expand expand' : Nat → Env → ModuleDecl → LookupM Expansion}
  (hlimit : ∀ {e e' : Env}, R.env e e' → e.options.limit = e'.options.limit)
  (hexpand : R.ExpandRel expand expand')

include hlimit hexpand

theorem stepsRel_ofFollow (budget : Nat) {follow follow' : Env → Target → LookupM Expansion}
    (hfollow : ∀ {e e' : Env}, R.env e e' → ∀ target,
      R.rel (follow e target) (follow' e' target)) :
    R.StepsRel (.ofFollow expand budget follow) (.ofFollow expand' budget follow') where
  follow := hfollow
  reopen he decl := hexpand he budget decl
  restart {e e'} he decl := by
    have hl := hexpand he e'.options.limit decl
    simpa only [Steps.ofFollow, hlimit he] using hl

theorem followTarget_rel (budget : Nat) {e e' : Env} (he : R.env e e') (target : Target) :
    R.rel (followTarget expand budget e target) (followTarget expand' budget e' target) := by
  induction budget generalizing e e' target with
  | zero =>
    rw [followTarget, followTarget, hlimit he]
    exact R.rel_fail _ rfl
  | succ budget ih => exact (stepsRel_ofFollow hlimit hexpand budget ih).step he target

theorem stepsRel_within (budget : Nat) :
    R.StepsRel (.within expand budget) (.within expand' budget) :=
  stepsRel_ofFollow hlimit hexpand budget (followTarget_rel hlimit hexpand budget)

end Allowance

structure FuelRel (fuel fuel' : Nat) : Prop where
  options : ∀ {e e' : Env}, R.env e e' → e.options = e'.options
  expand : R.ExpandRel (expandDecl fuel) (expandDecl fuel')

namespace FuelRel

variable {R} {fuel fuel' : Nat} {e e' : Env} (h : R.FuelRel fuel fuel') (he : R.env e e')

include h

theorem limit {e e' : Env} (he : R.env e e') : e.options.limit = e'.options.limit :=
  congrArg _ (h.options he)

theorem succ : R.FuelRel (fuel + 1) (fuel' + 1) where
  options := h.options
  expand he budget decl := (stepsRel_within h.limit h.expand budget).moduleDecl he decl

include he

theorem start : R.StepsRel (.start fuel e) (.start fuel' e') := by
  rw [Steps.start, Steps.start, h.limit he]
  exact stepsRel_within h.limit h.expand _

theorem path (kind : PathKind) (p : Path) :
    R.rel (Lookup.path fuel e kind p) (Lookup.path fuel' e' kind p) :=
  (h.start he).path he kind p

theorem moduleTypeExpansion (p : ResolvedPath) :
    R.rel (Lookup.moduleTypeExpansion fuel e p) (Lookup.moduleTypeExpansion fuel' e' p) :=
  (h.start he).follow he _

theorem fragment (hroot : e.fragmentRoot? = e'.fragmentRoot?) (ns : Namespace) (f : Fragment) :
    R.rel (Lookup.fragment fuel e ns f) (Lookup.fragment fuel' e' ns f) :=
  (h.start he).fragment he hroot ns f

theorem signatureExpr (expr : SignatureExpr) :
    R.rel (Lookup.signatureExpr fuel e expr) (Lookup.signatureExpr fuel' e' expr) :=
  (h.start he).signatureExpr he expr

theorem constrain (c : Constraint) (sig : Signature) :
    R.rel (Lookup.constrain fuel e c sig) (Lookup.constrain fuel' e' c sig) :=
  (h.start he).constrain he c sig

theorem aliasExpansion (p : Path) (strengthen : Bool) :
    R.rel (Lookup.aliasExpansion fuel e p strengthen)
      (Lookup.aliasExpansion fuel' e' p strengthen) := by
  refine R.rel_bind (h.path he .module p) fun target => ?_
  refine R.rel_bind ((h.start he).follow he _) fun found => ?_
  split
  · exact R.rel_pure _
  · exact R.rel_pure _

theorem classTypeSignature (budget : Nat) (expr : ClassTypeExpr) :
    R.rel (classTypeSignature fuel budget e expr)
      (CrossRef.classTypeSignature fuel' budget e' expr) := by
  induction budget generalizing expr with
  | zero =>
    cases expr with
    | signature sig => exact R.rel_pure sig
    | constr path args =>
      rw [CrossRef.classTypeSignature, CrossRef.classTypeSignature, h.limit he]
      exact R.rel_fail _ rfl
  | succ budget ih =>
    cases expr with
    | signature sig => exact R.rel_pure sig
    | constr path args =>
      have steps := stepsRel_within h.limit h.expand budget
      rw [CrossRef.classTypeSignature, CrossRef.classTypeSignature]
      refine R.rel_bind (steps.classTypePath he path) fun target => ?_
      refine R.rel_bind (steps.classComponent he target) fun component => ?_
      split
      · split
        · exact R.rel_pure _
        · exact ih _
      · split
        · exact R.rel_pure _
        · exact ih _
      · exact R.rel_fail _ rfl

theorem classSignature (expr : ClassTypeExpr) :
    R.rel (Lookup.classSignature fuel e expr) (Lookup.classSignature fuel' e' expr) := by
  rw [Lookup.classSignature, Lookup.classSignature, h.limit he]
  exact h.classTypeSignature he _ expr

end FuelRel

theorem fuelRel {R : LookupRel} (hoptions : ∀ {e e' : Env}, R.env e e' → e.options = e'.options)
    (hout : R.rel (throw .outOfFuel : LookupM Expansion) (throw .outOfFuel)) (fuel : Nat) :
    R.FuelRel fuel fuel := by
  induction fuel with
  | zero => exact ⟨hoptions, fun _ _ _ => hout⟩
  | succ fuel ih => exact ih.succ

end LookupRel

end CrossRef
