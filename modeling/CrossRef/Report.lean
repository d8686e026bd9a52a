import CrossRef.Error

/-! Reports: failures that a run survives, filed under the declaration they concern. -/

namespace CrossRef

inductive Phase where
  | resolve
  | compile
  | expand
  | lookup
deriving DecidableEq

namespace Phase

def text : Phase → String
  | resolve => "resolve"
  | compile => "compile"
  | expand => "expand"
  | lookup => "lookup"

end Phase

inductive Construct where
  | modulePath
  | moduleTypePath
  | moduleType
  | moduleFragment
  | typeFragment
  | includeItem
  | package
  | substitution
  | classDecl
deriving DecidableEq

namespace Construct

def text : Construct → String
  | modulePath => "module path"
  | moduleTypePath => "module type path"
  | moduleType => "module type"
  | moduleFragment => "module fragment"
  | typeFragment => "type fragment"
  | includeItem => "include"
  | package => "package"
  | substitution => "substitution"
  | classDecl => "class"

end Construct

structure Report where
  construct : Construct
  subject : String
  phase : Phase
  parent : Option Identifier := none
  error : Option ResolveError := none
deriving DecidableEq

namespace Report

def tag (r : Report) : String := (r.parent.map (·.displayName)).getD ""

def text (r : Report) : String :=
  r.phase.text ++ ": " ++ r.construct.text ++ " `" ++ r.subject ++ "`" ++
    (r.parent.map fun p => " in " ++ p.displayName).getD "" ++
    (r.error.map fun e => ": " ++ e.text).getD ""

def diagnosis (r : Report) : Diagnosis where
  text := r.text
  code := "sigref_resolve::unresolved"
  isWarning := true
  source := r.error.map (·.text)

def countPhase (phase : Phase) (reports : List Report) : Nat :=
  reports.countP (·.phase = phase)

end Report

end CrossRef
