import CrossRef.Signature.Basic

/-! Strengthening: a signature that is known to belong to a module has its abstract types made
equal to the types of that module. -/

namespace CrossRef

def TypeDecl.selfReference (path : ResolvedPath) (t : TypeDecl) : TypeExpr :=
  .constr (.resolved (path.child .type t.id.name))
    (t.equation.params.map fun p => if p = "_" then .any else .var p)

def TypeDecl.strengthen (path : ResolvedPath) (t : TypeDecl) : TypeDecl :=
  if t.equation.manifest.isNone && !t.id.isHidden then
    { t with equation := { t.equation with manifest := some (t.selfReference path) } }
  else t

mutual

/-- Visible abstract types get a manifest; visible modules with a written signature are entered. -/
def Signature.strengthen (path : ResolvedPath) : Signature → Signature
  | ⟨items, compiled, doc⟩ => ⟨strengthenItems path items, compiled, doc⟩

def strengthenItems (path : ResolvedPath) : List Item → List Item
  | [] => []
  | item :: items => item.strengthen path :: strengthenItems path items

def Item.strengthen (path : ResolvedPath) : Item → Item
  | .type t => .type (t.strengthen path)
  | .module ⟨id, doc, .typed (.signature sig), hidden⟩ =>
    if id.isHidden then .module ⟨id, doc, .typed (.signature sig), hidden⟩
    else
      let inner := sig.strengthen (path.child .module id.name)
      .module ⟨id, doc, .typed (.signature inner), hidden⟩
  | .included ⟨parent, doc, decl, strengthened, shadowed, content⟩ =>
    .included ⟨parent, doc, decl, strengthened, shadowed, content.strengthen path⟩
  | item => item

end

end CrossRef
