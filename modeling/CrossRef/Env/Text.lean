import CrossRef.Env
import CrossRef.Text.Quoted

/-! Environments in one line of text. -/

namespace CrossRef

namespace ResolverOptions

def text (o : ResolverOptions) : String :=
  "ResolverOptions \x7b open_modules: " ++ Text.quoteAll o.openModules ++
    ", max_alias_depth: " ++ toString o.limit ++
    ", strengthen_includes: " ++ toString o.strengthenIncludes ++ " \x7d"

end ResolverOptions

namespace Env

def text (env : Env) (loads : Loads) : String :=
  "Env \x7b has_resolver: " ++ toString env.resolver.isSome ++ ", options: " ++ env.options.text ++
    ", depth: " ++ toString env.scopes.length ++
    ", loaded_units: " ++ toString loads.units.length ++ " \x7d"

end Env

end CrossRef
