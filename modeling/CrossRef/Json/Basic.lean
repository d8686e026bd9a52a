/-! JSON values and how the parts of a stored tree are read from them. -/

namespace CrossRef

/-- `num m e` is the number `m` with the decimal point moved `e` places to the left. -/
inductive Json where
  | null
  | bool (value : Bool)
  | num (mantissa : Int) (places : Nat)
  | str (text : String)
  | arr (values : List Json)
  | obj (members : List (String × Json))
deriving Inhabited

namespace Json

def nat (n : Nat) : Json := num n 0

def strings (texts : List String) : Json := arr (texts.map str)

def tagged (tag : String) (value : Json) : Json := obj [(tag, value)]

def ofOption : Option Json → Json
  | none => null
  | some j => j

mutual

def depth : Json → Nat
  | null | bool _ | num _ _ | str _ => 1
  | arr values => depthOfValues values + 1
  | obj members => depthOfMembers members + 1

def depthOfValues : List Json → Nat
  | [] => 0
  | j :: js => max j.depth (depthOfValues js)

def depthOfMembers : List (String × Json) → Nat
  | [] => 0
  | (_, j) :: ms => max j.depth (depthOfMembers ms)

end

/-- A member of an object. A member that is not there reads as `null`. -/
def field? : Json → String → Option Json
  | obj members, key => some ((members.lookup key).getD null)
  | _, _ => none

def bool? : Json → Option Bool
  | bool b => some b
  | _ => none

def nat? : Json → Option Nat
  | num (.ofNat n) 0 => some n
  | _ => none

def str? : Json → Option String
  | str s => some s
  | _ => none

def values? : Json → Option (List Json)
  | arr values => some values
  | _ => none

def list? {α : Type} (read : Json → Option α) (j : Json) : Option (List α) := do
  (← j.values?).mapM read

def strings? : Json → Option (List String) := list? str?

def optional? {α : Type} (read : Json → Option α) : Json → Option (Option α)
  | null => some none
  | j => (read j).map some

def tag? : Json → Option String
  | str s => some s
  | obj [(tag, null)] => some tag
  | _ => none

def tagged? : Json → Option (String × Json)
  | obj [(tag, value)] => some (tag, value)
  | _ => none

def pair? : Json → Option (Json × Json)
  | arr [a, b] => some (a, b)
  | _ => none

def get? {α : Type} (j : Json) (key : String) (read : Json → Option α) : Option α := do
  read (← j.field? key)

@[simp] theorem nat?_nat (n : Nat) : (nat n).nat? = some n := rfl

@[simp] theorem tagged?_tagged (tag : String) (value : Json) :
    (tagged tag value).tagged? = some (tag, value) := rfl

theorem list?_map {α : Type} {read : Json → Option α} {write : α → Json} {as : List α}
    (h : ∀ a ∈ as, read (write a) = some a) : (arr (as.map write)).list? read = some as := by
  change (as.map write).mapM read = some as
  induction as with
  | nil => simp
  | cons a as ih =>
    have ha := h a (by simp)
    have has := ih fun b hb => h b (by simp [hb])
    rw [List.map_cons, List.mapM_cons, ha, has]
    rfl

@[simp] theorem strings?_strings (texts : List String) : (strings texts).strings? = some texts :=
  list?_map fun _ _ => rfl

end Json

end CrossRef
