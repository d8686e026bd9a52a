import CrossRef.TypeExpr.LeafMap

/-! Quantified variables. In its nameless form a type says of each variable which quantifier binds
it, if any, so that types which differ in the names of bound variables only have one form. An
argument that takes the place of a free variable keeps its own free variables free there. -/

namespace CrossRef

mutual

/-- A type without names for what is quantified. A bound variable is given by the number of
quantifiers between it and its own, and by its position among those bound there. -/
inductive Nameless where
  | bound (depth index : Nat)
  | free (name : String)
  | any
  | arrow (label : Option Label) (arg ret : Nameless)
  | tuple (types : List Nameless)
  | constr (path : Path) (args : List Nameless)
  | variant (kind : VariantKind) (elements : List NamelessElement)
  | object (fields : List NamelessField) (isOpen : Bool)
  | classRef (path : Path) (args : List Nameless)
  | poly (arity : Nat) (body : Nameless)
  | package (path : Path) (constraints : List NamelessConstraint)

inductive NamelessElement where
  | type (type : Nameless)
  | constructor (name : String) (constant : Bool) (arguments : List Nameless)

inductive NamelessField where
  | method (name : String) (type : Nameless)
  | inherit (type : Nameless)

structure NamelessConstraint where
  fragment : Fragment
  type : Nameless

end

abbrev Scopes := List (List String)

section Render

mutual

def TypeExpr.render (read : Scopes → String → Nameless) : TypeExpr → Nameless
  | .var name => read [] name
  | .any => .any
  | .arrow label arg ret => .arrow label (arg.render read) (ret.render read)
  | .tuple types => .tuple (renderTypes read types)
  | .constr path args => .constr path (renderTypes read args)
  | .variant kind elements => .variant kind (renderElements read elements)
  | .object fields isOpen => .object (renderFields read fields) isOpen
  | .classRef path args => .classRef path (renderTypes read args)
  | .poly vars body => .poly vars.length (body.render fun inner => read (inner ++ [vars]))
  | .package path constraints => .package path (renderConstraints read constraints)

def renderTypes (read : Scopes → String → Nameless) : List TypeExpr → List Nameless
  | [] => []
  | t :: ts => t.render read :: renderTypes read ts

def renderElements (read : Scopes → String → Nameless) :
    List VariantElement → List NamelessElement
  | [] => []
  | .type t :: es => .type (t.render read) :: renderElements read es
  | .constructor name constant args :: es =>
    .constructor name constant (renderTypes read args) :: renderElements read es

def renderFields (read : Scopes → String → Nameless) : List ObjectField → List NamelessField
  | [] => []
  | .method name t :: fs => .method name (t.render read) :: renderFields read fs
  | .inherit t :: fs => .inherit (t.render read) :: renderFields read fs

def renderConstraints (read : Scopes → String → Nameless) :
    List PackageConstraint → List NamelessConstraint
  | [] => []
  | ⟨fragment, t⟩ :: cs => ⟨fragment, t.render read⟩ :: renderConstraints read cs

end

end Render

structure Occurrence where
  scopes : Scopes
  name : String

namespace Occurrence

def within (outer : Scopes) (o : Occurrence) : Occurrence := { o with scopes := o.scopes ++ outer }

def IsBound (o : Occurrence) : Prop := o.name ∈ o.scopes.flatten

theorem isBound_within (outer : Scopes) (o : Occurrence) :
    (o.within outer).IsBound ↔ o.IsBound ∨ o.name ∈ outer.flatten := by
  rw [IsBound, within, List.flatten_append, List.mem_append]
  rfl

end Occurrence

mutual

def TypeExpr.occurrences : TypeExpr → List Occurrence
  | .var name => [⟨[], name⟩]
  | .any => []
  | .arrow _ arg ret => arg.occurrences ++ ret.occurrences
  | .tuple types => occurrencesOfTypes types
  | .constr _ args => occurrencesOfTypes args
  | .variant _ elements => occurrencesOfElements elements
  | .object fields _ => occurrencesOfFields fields
  | .classRef _ args => occurrencesOfTypes args
  | .poly vars body => body.occurrences.map (·.within [vars])
  | .package _ constraints => occurrencesOfConstraints constraints

def occurrencesOfTypes : List TypeExpr → List Occurrence
  | [] => []
  | t :: ts => t.occurrences ++ occurrencesOfTypes ts

def occurrencesOfElements : List VariantElement → List Occurrence
  | [] => []
  | .type t :: es => t.occurrences ++ occurrencesOfElements es
  | .constructor _ _ args :: es => occurrencesOfTypes args ++ occurrencesOfElements es

def occurrencesOfFields : List ObjectField → List Occurrence
  | [] => []
  | .method _ t :: fs => t.occurrences ++ occurrencesOfFields fs
  | .inherit t :: fs => t.occurrences ++ occurrencesOfFields fs

def occurrencesOfConstraints : List PackageConstraint → List Occurrence
  | [] => []
  | ⟨_, t⟩ :: cs => t.occurrences ++ occurrencesOfConstraints cs

end

section Agree

def AgreeOn (f g : Scopes → String → Nameless) (os : List Occurrence) : Prop :=
  ∀ o ∈ os, f o.scopes o.name = g o.scopes o.name

theorem agreeOn_append {f g : Scopes → String → Nameless} {os os' : List Occurrence} :
    AgreeOn f g (os ++ os') ↔ AgreeOn f g os ∧ AgreeOn f g os' := List.forall_mem_append

theorem agreeOn_nil (f g : Scopes → String → Nameless) : AgreeOn f g [] :=
  fun _ h => absurd h List.not_mem_nil

mutual

/-- The results are the same if and only if the readings agree on every variable. -/
theorem TypeExpr.render_eq_iff : ∀ (t : TypeExpr) (f g : Scopes → String → Nameless),
    t.render f = t.render g ↔ AgreeOn f g t.occurrences
  | .var name, f, g => by
    simp only [TypeExpr.render, TypeExpr.occurrences, AgreeOn, List.forall_mem_singleton]
  | .any, f, g => by
    simp only [TypeExpr.render, TypeExpr.occurrences, agreeOn_nil]
  | .arrow _ arg ret, f, g => by
    simp only [TypeExpr.render, TypeExpr.occurrences, agreeOn_append, Nameless.arrow.injEq,
      true_and, arg.render_eq_iff f g, ret.render_eq_iff f g]
  | .tuple ts, f, g => by
    simp only [TypeExpr.render, TypeExpr.occurrences, Nameless.tuple.injEq,
      renderTypes_eq_iff ts f g]
  | .constr _ args, f, g => by
    simp only [TypeExpr.render, TypeExpr.occurrences, Nameless.constr.injEq, true_and,
      renderTypes_eq_iff args f g]
  | .variant _ es, f, g => by
    simp only [TypeExpr.render, TypeExpr.occurrences, Nameless.variant.injEq, true_and,
      renderElements_eq_iff es f g]
  | .object fs _, f, g => by
    simp only [TypeExpr.render, TypeExpr.occurrences, Nameless.object.injEq, and_true,
      renderFields_eq_iff fs f g]
  | .classRef _ args, f, g => by
    simp only [TypeExpr.render, TypeExpr.occurrences, Nameless.classRef.injEq, true_and,
      renderTypes_eq_iff args f g]
  | .poly vars body, f, g => by
    simp only [TypeExpr.render, TypeExpr.occurrences, Nameless.poly.injEq, true_and,
      body.render_eq_iff, AgreeOn, List.forall_mem_map, Occurrence.within]
  | .package _ cs, f, g => by
    simp only [TypeExpr.render, TypeExpr.occurrences, Nameless.package.injEq, true_and,
      renderConstraints_eq_iff cs f g]

theorem renderTypes_eq_iff : ∀ (ts : List TypeExpr) (f g : Scopes → String → Nameless),
    renderTypes f ts = renderTypes g ts ↔ AgreeOn f g (occurrencesOfTypes ts)
  | [], f, g => by simp only [renderTypes, occurrencesOfTypes, agreeOn_nil]
  | t :: ts, f, g => by
    simp only [renderTypes, occurrencesOfTypes, agreeOn_append, List.cons.injEq,
      t.render_eq_iff f g, renderTypes_eq_iff ts f g]

theorem renderElements_eq_iff : ∀ (es : List VariantElement) (f g : Scopes → String → Nameless),
    renderElements f es = renderElements g es ↔ AgreeOn f g (occurrencesOfElements es)
  | [], f, g => by simp only [renderElements, occurrencesOfElements, agreeOn_nil]
  | .type t :: es, f, g => by
    simp only [renderElements, occurrencesOfElements, agreeOn_append, List.cons.injEq,
      NamelessElement.type.injEq, t.render_eq_iff f g, renderElements_eq_iff es f g]
  | .constructor _ _ args :: es, f, g => by
    simp only [renderElements, occurrencesOfElements, agreeOn_append, List.cons.injEq,
      NamelessElement.constructor.injEq, true_and, renderTypes_eq_iff args f g,
      renderElements_eq_iff es f g]

theorem renderFields_eq_iff : ∀ (fs : List ObjectField) (f g : Scopes → String → Nameless),
    renderFields f fs = renderFields g fs ↔ AgreeOn f g (occurrencesOfFields fs)
  | [], f, g => by simp only [renderFields, occurrencesOfFields, agreeOn_nil]
  | .method _ t :: fs, f, g => by
    simp only [renderFields, occurrencesOfFields, agreeOn_append, List.cons.injEq,
      NamelessField.method.injEq, true_and, t.render_eq_iff f g, renderFields_eq_iff fs f g]
  | .inherit t :: fs, f, g => by
    simp only [renderFields, occurrencesOfFields, agreeOn_append, List.cons.injEq,
      NamelessField.inherit.injEq, t.render_eq_iff f g, renderFields_eq_iff fs f g]

theorem renderConstraints_eq_iff :
    ∀ (cs : List PackageConstraint) (f g : Scopes → String → Nameless),
      renderConstraints f cs = renderConstraints g cs ↔ AgreeOn f g (occurrencesOfConstraints cs)
  | [], f, g => by simp only [renderConstraints, occurrencesOfConstraints, agreeOn_nil]
  | ⟨_, t⟩ :: cs, f, g => by
    simp only [renderConstraints, occurrencesOfConstraints, agreeOn_append, List.cons.injEq,
      NamelessConstraint.mk.injEq, true_and, t.render_eq_iff f g, renderConstraints_eq_iff cs f g]

end

end Agree

section Replace

def LeafMap.replaceVars (v : String → TypeExpr) : LeafMap where
  var := v

variable (v : String → TypeExpr)

def readThrough (read : Scopes → String → Nameless) : Scopes → String → Nameless :=
  fun scopes name => (v name).render fun inner => read (inner ++ scopes)

theorem readThrough_poly (read : Scopes → String → Nameless) (vars : List String) :
    (fun inner => readThrough v read (inner ++ [vars])) =
      readThrough v fun inner => read (inner ++ [vars]) := by
  funext inner name
  simp only [readThrough, List.append_assoc]

mutual

theorem TypeExpr.render_replaceVars : ∀ (t : TypeExpr) (read : Scopes → String → Nameless),
    (t.mapLeaves (.replaceVars v)).render read = t.render (readThrough v read)
  | .var name, read => by
    simp only [TypeExpr.mapLeaves, TypeExpr.render, LeafMap.replaceVars, readThrough,
      List.append_nil]
  | .any, read => by simp only [TypeExpr.mapLeaves, TypeExpr.render]
  | .arrow _ arg ret, read => by
    simp only [TypeExpr.mapLeaves, TypeExpr.render, arg.render_replaceVars,
      ret.render_replaceVars]
  | .tuple ts, read => by
    simp only [TypeExpr.mapLeaves, TypeExpr.render, renderTypes_replaceVars ts]
  | .constr _ args, read => by
    simp only [TypeExpr.mapLeaves, TypeExpr.render, LeafMap.replaceVars, id]
    exact congrArg _ (renderTypes_replaceVars args read)
  | .variant _ es, read => by
    simp only [TypeExpr.mapLeaves, TypeExpr.render, renderElements_replaceVars es]
  | .object fs _, read => by
    simp only [TypeExpr.mapLeaves, TypeExpr.render, renderFields_replaceVars fs]
  | .classRef _ args, read => by
    simp only [TypeExpr.mapLeaves, TypeExpr.render, renderTypes_replaceVars args]
    rfl
  | .poly vars body, read => by
    simp only [TypeExpr.mapLeaves, TypeExpr.render, body.render_replaceVars, readThrough_poly]
  | .package _ cs, read => by
    simp only [TypeExpr.mapLeaves, TypeExpr.render, renderConstraints_replaceVars cs]
    rfl

theorem renderTypes_replaceVars : ∀ (ts : List TypeExpr) (read : Scopes → String → Nameless),
    renderTypes read (mapTypes (.replaceVars v) ts) = renderTypes (readThrough v read) ts
  | [], read => by simp only [mapTypes, renderTypes]
  | t :: ts, read => by
    simp only [mapTypes, renderTypes, t.render_replaceVars, renderTypes_replaceVars ts]

theorem renderElements_replaceVars :
    ∀ (es : List VariantElement) (read : Scopes → String → Nameless),
      renderElements read (mapElements (.replaceVars v) es) =
        renderElements (readThrough v read) es
  | [], read => by simp only [mapElements, renderElements]
  | .type t :: es, read => by
    simp only [mapElements, renderElements, t.render_replaceVars, renderElements_replaceVars es]
  | .constructor _ _ args :: es, read => by
    simp only [mapElements, renderElements, renderTypes_replaceVars args,
      renderElements_replaceVars es]

theorem renderFields_replaceVars : ∀ (fs : List ObjectField) (read : Scopes → String → Nameless),
    renderFields read (mapFields (.replaceVars v) fs) = renderFields (readThrough v read) fs
  | [], read => by simp only [mapFields, renderFields]
  | .method _ t :: fs, read => by
    simp only [mapFields, renderFields, t.render_replaceVars, renderFields_replaceVars fs]
  | .inherit t :: fs, read => by
    simp only [mapFields, renderFields, t.render_replaceVars, renderFields_replaceVars fs]

theorem renderConstraints_replaceVars :
    ∀ (cs : List PackageConstraint) (read : Scopes → String → Nameless),
      renderConstraints read (mapConstraints (.replaceVars v) cs) =
        renderConstraints (readThrough v read) cs
  | [], read => by simp only [mapConstraints, renderConstraints]
  | ⟨_, t⟩ :: cs, read => by
    simp only [mapConstraints, renderConstraints, t.render_replaceVars,
      renderConstraints_replaceVars cs]

end

def Occurrence.replaced (o : Occurrence) : List Occurrence :=
  (v o.name).occurrences.map (·.within o.scopes)

theorem Occurrence.replaced_within (outer : Scopes) (o : Occurrence) :
    (o.within outer).replaced v = (o.replaced v).map (·.within outer) := by
  simp only [replaced, within, List.map_map, Function.comp_def, List.append_assoc]

mutual

theorem TypeExpr.occurrences_replaceVars : ∀ t : TypeExpr,
    (t.mapLeaves (.replaceVars v)).occurrences = t.occurrences.flatMap (·.replaced v)
  | .var name => by
    simp only [TypeExpr.mapLeaves, TypeExpr.occurrences, LeafMap.replaceVars, Occurrence.replaced,
      Occurrence.within, List.flatMap_singleton, List.append_nil, List.map_id']
  | .any => by simp only [TypeExpr.mapLeaves, TypeExpr.occurrences, List.flatMap_nil]
  | .arrow _ arg ret => by
    simp only [TypeExpr.mapLeaves, TypeExpr.occurrences, List.flatMap_append,
      arg.occurrences_replaceVars, ret.occurrences_replaceVars]
  | .tuple ts => by
    simp only [TypeExpr.mapLeaves, TypeExpr.occurrences, occurrencesOfTypes_replaceVars ts]
  | .constr _ args => by
    simp only [TypeExpr.mapLeaves, TypeExpr.occurrences]
    exact occurrencesOfTypes_replaceVars args
  | .variant _ es => by
    simp only [TypeExpr.mapLeaves, TypeExpr.occurrences, occurrencesOfElements_replaceVars es]
  | .object fs _ => by
    simp only [TypeExpr.mapLeaves, TypeExpr.occurrences, occurrencesOfFields_replaceVars fs]
  | .classRef _ args => by
    simp only [TypeExpr.mapLeaves, TypeExpr.occurrences, occurrencesOfTypes_replaceVars args]
  | .poly vars body => by
    simp only [TypeExpr.mapLeaves, TypeExpr.occurrences, body.occurrences_replaceVars,
      List.map_flatMap, List.flatMap_map, Occurrence.replaced_within]
  | .package _ cs => by
    simp only [TypeExpr.mapLeaves, TypeExpr.occurrences, occurrencesOfConstraints_replaceVars cs]

theorem occurrencesOfTypes_replaceVars : ∀ ts : List TypeExpr,
    occurrencesOfTypes (mapTypes (.replaceVars v) ts) =
      (occurrencesOfTypes ts).flatMap (·.replaced v)
  | [] => by simp only [mapTypes, occurrencesOfTypes, List.flatMap_nil]
  | t :: ts => by
    simp only [mapTypes, occurrencesOfTypes, List.flatMap_append, t.occurrences_replaceVars,
      occurrencesOfTypes_replaceVars ts]

theorem occurrencesOfElements_replaceVars : ∀ es : List VariantElement,
    occurrencesOfElements (mapElements (.replaceVars v) es) =
      (occurrencesOfElements es).flatMap (·.replaced v)
  | [] => by simp only [mapElements, occurrencesOfElements, List.flatMap_nil]
  | .type t :: es => by
    simp only [mapElements, occurrencesOfElements, List.flatMap_append, t.occurrences_replaceVars,
      occurrencesOfElements_replaceVars es]
  | .constructor _ _ args :: es => by
    simp only [mapElements, occurrencesOfElements, List.flatMap_append,
      occurrencesOfTypes_replaceVars args, occurrencesOfElements_replaceVars es]

theorem occurrencesOfFields_replaceVars : ∀ fs : List ObjectField,
    occurrencesOfFields (mapFields (.replaceVars v) fs) =
      (occurrencesOfFields fs).flatMap (·.replaced v)
  | [] => by simp only [mapFields, occurrencesOfFields, List.flatMap_nil]
  | .method _ t :: fs => by
    simp only [mapFields, occurrencesOfFields, List.flatMap_append, t.occurrences_replaceVars,
      occurrencesOfFields_replaceVars fs]
  | .inherit t :: fs => by
    simp only [mapFields, occurrencesOfFields, List.flatMap_append, t.occurrences_replaceVars,
      occurrencesOfFields_replaceVars fs]

theorem occurrencesOfConstraints_replaceVars : ∀ cs : List PackageConstraint,
    occurrencesOfConstraints (mapConstraints (.replaceVars v) cs) =
      (occurrencesOfConstraints cs).flatMap (·.replaced v)
  | [] => by simp only [mapConstraints, occurrencesOfConstraints, List.flatMap_nil]
  | ⟨_, t⟩ :: cs => by
    simp only [mapConstraints, occurrencesOfConstraints, List.flatMap_append,
      t.occurrences_replaceVars, occurrencesOfConstraints_replaceVars cs]

end

end Replace

end CrossRef
