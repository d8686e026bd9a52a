import CrossRef.Path

/-! Failures and their wording. -/

namespace CrossRef

structure Diagnosis where
  text : String
  code : String
  help : Option String := none
  isWarning : Bool := false
  source : Option String := none
  related : Option String := none
deriving DecidableEq

inductive FetchError where
  | unitNotFound (unit : String)
  | loadFailed (unit reason : String)
deriving DecidableEq

namespace FetchError

def text : FetchError → String
  | unitNotFound unit => "Unit `" ++ unit ++ "` could not be found"
  | loadFailed unit reason => "Unit `" ++ unit ++ "` failed to load: " ++ reason

def diagnosis (e : FetchError) : Diagnosis :=
  match e with
  | unitNotFound unit =>
    { text := e.text
      code := "sigref_resolve::unit_not_found"
      help := some ("Was `" ++ unit ++ "` compiled before the units that depend on it?") }
  | loadFailed _ _ => { text := e.text, code := "sigref_resolve::load_failed" }

end FetchError

/-- Why a path, a fragment or an expansion could not be worked out. Only `fetch` ends a run. -/
inductive ResolveError where
  | notFound (kind : PathKind) (name : String)
  | notAModule (path : String)
  | unexpectedFunctor
  | applicationOfNonFunctor (path : String)
  | abstractModuleType (path : String)
  | unresolvedPath (path : String)
  | unresolvedFragment (fragment : String)
  | missingManifest (fragment : String)
  | aliasDepthExceeded (limit : Nat)
  | fetch (error : FetchError)
deriving DecidableEq

namespace ResolveError

def text : ResolveError → String
  | notFound kind name => kind.text ++ " `" ++ name ++ "` not found"
  | notAModule path => "`" ++ path ++ "` is not a module"
  | unexpectedFunctor => "Expected a signature but found a functor"
  | applicationOfNonFunctor path => "`" ++ path ++ "` is applied but is not a functor"
  | abstractModuleType path => "Module type `" ++ path ++ "` is abstract and has no signature"
  | unresolvedPath path => "Path `" ++ path ++ "` is unresolved"
  | unresolvedFragment fragment =>
    "Fragment `" ++ fragment ++ "` does not name a member of the signature"
  | missingManifest fragment =>
    "Destructive substitution of `" ++ fragment ++ "` has no right-hand side"
  | aliasDepthExceeded limit => "Gave up after following " ++ toString limit ++ " aliases"
  | fetch error => error.text

def code : ResolveError → String
  | notFound _ _ => "sigref_resolve::not_found"
  | notAModule _ => "sigref_resolve::not_a_module"
  | unexpectedFunctor => "sigref_resolve::unexpected_functor"
  | applicationOfNonFunctor _ => "sigref_resolve::application_of_non_functor"
  | abstractModuleType _ => "sigref_resolve::opaque_module_type"
  | unresolvedPath _ => "sigref_resolve::unresolved_path"
  | unresolvedFragment _ => "sigref_resolve::unresolved_fragment"
  | missingManifest _ => "sigref_resolve::missing_manifest"
  | aliasDepthExceeded _ => "sigref_resolve::alias_depth_exceeded"
  | fetch error => error.diagnosis.code

def help? : ResolveError → Option String
  | unexpectedFunctor => some "Only structures can be included; apply the functor first"
  | aliasDepthExceeded _ =>
    some "The aliases are probably cyclic; `max_alias_depth` raises the limit"
  | fetch error => error.diagnosis.help
  | _ => none

def diagnosis (e : ResolveError) : Diagnosis := { text := e.text, code := e.code, help := e.help? }

def fetch? : ResolveError → Option FetchError
  | fetch error => some error
  | _ => none

end ResolveError

structure CompileError where
  unit : String
  source : FetchError
deriving DecidableEq

namespace CompileError

def diagnosis (e : CompileError) : Diagnosis where
  text := "Failed to compile unit `" ++ e.unit ++ "`"
  code := "sigref_resolve::compile_failed"
  source := some e.source.text
  related := some e.source.text

end CompileError

inductive ConfigError where
  | read (message : String)
  | parse (message : String)
deriving DecidableEq

namespace ConfigError

def diagnosis : ConfigError → Diagnosis
  | read message =>
    { text := "Error reading resolver options: " ++ message
      code := "sigref_resolve::config_read"
      help := some "Check that the options file exists and is readable" }
  | parse message =>
    { text := "Invalid resolver options: " ++ message
      code := "sigref_resolve::config_parse"
      help := some
        "Known keys are `open_modules`, `max_alias_depth` and `strengthen_includes`" }

end ConfigError

end CrossRef
