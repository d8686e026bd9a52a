import CrossRef.Lookup.Path

/-! Class types by path. -/

namespace CrossRef.Steps

def classAmong (path : ResolvedPath) (name : String) (sig : Signature) : LookupM Component :=
  match (sig.find? .classType name).bind Component.ofItem? with
  | some component => pure component
  | none => LookupM.fail (.notFound .classType path.text)

def classComponent (s : Steps) (env : Env) : ResolvedPath → LookupM Component
  | .identifier id =>
    match env.lookupById id, id.parent? with
    | some (.classDecl c), _ => pure (.classDecl c)
    | some (.classType c), _ => pure (.classType c)
    | _, some parent => do
      classAmong (.identifier id) id.name (← s.signatureOfContainer env parent)
    | _, none => LookupM.fail (.notFound .classType id.text)
  | .dot parent kind name => do
    classAmong (.dot parent kind name) name (← s.signatureOfModule env parent)
  | .apply functor argument => LookupM.fail (.notFound .classType (functor.apply argument).text)

end CrossRef.Steps
