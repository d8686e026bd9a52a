import CrossRef.Lookup

/-! Everything that can be looked up, as one type of questions, so that a law of all lookups is one
statement. -/

namespace CrossRef

/-- A question that lookups answer, with the type of its answers. -/
inductive Query : Type → Type 1 where
  | path (kind : PathKind) (p : Path) : Query ResolvedPath
  | moduleExpansion (p : ResolvedPath) : Query Expansion
  | moduleTypeExpansion (p : ResolvedPath) : Query Expansion
  | signatureOf (component : Component) : Query Signature
  | classSignatureOf (component : Component) : Query (Option ClassSignature)
  | fragment (ns : Namespace) (f : Fragment) : Query (Option ResolvedFragment)
  | moduleTypeExpr (expr : ModuleTypeExpr) : Query Expansion
  | signatureExpr (expr : SignatureExpr) : Query Signature
  | aliasExpansion (p : Path) (strengthen : Bool) : Query Expansion
  | constrain (c : Constraint) (sig : Signature) : Query Signature

namespace Query

def ask (fuel : Nat) (env : Env) : {α : Type} → Query α → LookupM α
  | _, path kind p => Lookup.path fuel env kind p
  | _, moduleExpansion p => Lookup.moduleExpansion fuel env p
  | _, moduleTypeExpansion p => Lookup.moduleTypeExpansion fuel env p
  | _, signatureOf component => Lookup.signatureOf fuel env component
  | _, classSignatureOf component => Lookup.classSignatureOf fuel env component
  | _, fragment ns f => (Lookup.fragment fuel env ns f).result?
  | _, moduleTypeExpr expr => Lookup.moduleTypeExpr fuel env expr
  | _, signatureExpr expr => Lookup.signatureExpr fuel env expr
  | _, aliasExpansion p strengthen => Lookup.aliasExpansion fuel env p strengthen
  | _, constrain c sig => Lookup.constrain fuel env c sig

def Found : {α : Type} → Query α → α → Prop
  | _, classSignatureOf _, answer => answer.isSome = true
  | _, fragment _ _, answer => answer.isSome = true
  | _, _, _ => True

end Query

end CrossRef
