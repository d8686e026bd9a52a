import CrossRef.Signature.Basic

/-! Members of a signature. An include stands for the members of its content, and of two members
with one name the later one counts. -/

namespace CrossRef

inductive Namespace where
  | module
  | moduleType
  | type
  | classType
  | value
deriving DecidableEq

mutual

def Signature.members : Signature → List Item
  | ⟨items, _, _⟩ => membersOfItems items

def membersOfItems : List Item → List Item
  | [] => []
  | item :: items => item.members ++ membersOfItems items

def Item.members : Item → List Item
  | .included i => i.members
  | item => [item]

def Include.members : Include → List Item
  | ⟨_, _, _, _, _, content⟩ => content.members

end

namespace Item

def namespaces : Item → List Namespace
  | module _ => [.module]
  | moduleType _ => [.moduleType]
  | type _ => [.type]
  | classDecl _ | classType _ => [.type, .classType]
  | value _ | external _ => [.value]
  | _ => []

def binds (item : Item) (ns : Namespace) (name : String) : Bool :=
  ns ∈ item.namespaces && item.identifier?.any (·.name = name)

def declaresModule (name : String) : Item → Bool
  | module m => m.id.name = name
  | _ => false

def declaresType (name : String) : Item → Bool
  | type t => t.id.name = name
  | _ => false

end Item

namespace Signature

def find? (sig : Signature) (ns : Namespace) (name : String) : Option Item :=
  sig.members.reverse.find? (·.binds ns name)

def module? (sig : Signature) (name : String) : Option Module :=
  match sig.find? .module name with
  | some (.module m) => some m
  | _ => none

def moduleType? (sig : Signature) (name : String) : Option ModuleType :=
  match sig.find? .moduleType name with
  | some (.moduleType m) => some m
  | _ => none

end Signature

mutual

def Signature.updateLast (pick : Item → Bool) (f : Item → Item) : Signature → Option Signature
  | ⟨items, compiled, doc⟩ => (updateLastItem pick f items).map (⟨·, compiled, doc⟩)

def updateLastItem (pick : Item → Bool) (f : Item → Item) : List Item → Option (List Item)
  | [] => none
  | item :: items =>
    match updateLastItem pick f items with
    | some changed => some (item :: changed)
    | none => (item.updateLast pick f).map (· :: items)

def Item.updateLast (pick : Item → Bool) (f : Item → Item) : Item → Option Item
  | .included i => (i.updateLast pick f).map .included
  | item => if pick item then some (f item) else none

def Include.updateLast (pick : Item → Bool) (f : Item → Item) : Include → Option Include
  | ⟨parent, doc, decl, strengthened, shadowed, content⟩ =>
    (content.updateLast pick f).map (⟨parent, doc, decl, strengthened, shadowed, ·⟩)

end

def takeLast (pick : Item → Bool) : List Item → Option (Item × List Item)
  | [] => none
  | item :: items =>
    match takeLast pick items with
    | some (taken, rest) => some (taken, item :: rest)
    | none => if pick item then some (item, items) else none

mutual

/-- Takes one accepted member out of a signature. The items of the signature itself come before
the content of its includes, and of several the last is taken. -/
def Signature.remove (pick : Item → Bool) : Signature → Option (Item × Signature)
  | ⟨items, compiled, doc⟩ =>
    match takeLast pick items with
    | some (taken, rest) => some (taken, ⟨rest, compiled, doc⟩)
    | none =>
      (removeFromIncludes pick items).map fun (taken, rest) => (taken, ⟨rest, compiled, doc⟩)

def removeFromIncludes (pick : Item → Bool) : List Item → Option (Item × List Item)
  | [] => none
  | item :: items =>
    match removeFromIncludes pick items with
    | some (taken, rest) => some (taken, item :: rest)
    | none => (item.removeIncluded pick).map fun (taken, changed) => (taken, changed :: items)

def Item.removeIncluded (pick : Item → Bool) : Item → Option (Item × Item)
  | .included i => (i.remove pick).map fun (taken, changed) => (taken, .included changed)
  | _ => none

def Include.remove (pick : Item → Bool) : Include → Option (Item × Include)
  | ⟨parent, doc, decl, strengthened, shadowed, content⟩ =>
    (content.remove pick).map fun (taken, changed) =>
      (taken, ⟨parent, doc, decl, strengthened, shadowed, changed⟩)

end

namespace Signature

def setModuleDecl (sig : Signature) (name : String) (decl : ModuleDecl) : Option Signature :=
  sig.updateLast (·.declaresModule name) fun
    | .module m => .module { m with decl }
    | item => item

def setTypeEquation (sig : Signature) (name : String) (equation : TypeEquation) :
    Option Signature :=
  sig.updateLast (·.declaresType name) fun
    | .type t => .type { t with equation }
    | item => item

end Signature

end CrossRef
