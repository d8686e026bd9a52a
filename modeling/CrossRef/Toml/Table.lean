/-! TOML values and the tables that headers and dotted keys build up. -/

namespace CrossRef.Toml

/-- How a table came to be, which decides what can still be added to it. A table is `mentioned` when
it only stands in the header of a table below it. -/
inductive Origin where
  | inline
  | header
  | mentioned
  | dotted
deriving DecidableEq

inductive Value where
  | str (text : String)
  | int (value : Int)
  | bool (value : Bool)
  | float
  | dateTime
  | array (values : List Value)
  | table (origin : Origin) (entries : List (String × Value))
  | tables (newest : List (String × Value)) (older : List Value)

structure Table where
  origin : Origin
  entries : List (String × Value)

namespace Table

def get? (t : Table) (key : String) : Option Value := t.entries.lookup key

def set (t : Table) (key : String) (value : Value) : Table :=
  { t with entries := (key, value) :: t.entries.filter (·.1 ≠ key) }

/-- Changes the table that a path leads to. Tables on the way that are not there are made, and of
repeated tables the newest is meant. A dotted key cannot pass through a table that has a header. -/
def modifyAt (dotted : Bool) (change : Table → Option Table) : List String → Table → Option Table
  | [], t => change t
  | key :: path, t =>
    match t.get? key with
    | none => do
      let made ← modifyAt dotted change path ⟨if dotted then .dotted else .mentioned, []⟩
      return t.set key (.table made.origin made.entries)
    | some (.table origin entries) =>
      if origin = .inline ∨ (dotted ∧ origin = .header) then none
      else do
        let made ← modifyAt dotted change path ⟨origin, entries⟩
        return t.set key (.table made.origin made.entries)
    | some (.tables newest older) => do
      let made ← modifyAt dotted change path ⟨.header, newest⟩
      return t.set key (.tables made.entries older)
    | some _ => none

def insert (path : List String) (key : String) (value : Value) : Table → Option Table :=
  modifyAt true
    (fun t =>
      if (t.origin = .dotted ↔ path ≠ []) ∧ (t.get? key).isNone then some (t.set key value)
      else none)
    path

def addHeader (path : List String) (key : String) : Table → Option Table :=
  modifyAt false
    (fun t =>
      match t.get? key with
      | none => some (t.set key (.table .header []))
      | some (.table .mentioned entries) => some (t.set key (.table .header entries))
      | some _ => none)
    path

def addRepeated (path : List String) (key : String) : Table → Option Table :=
  modifyAt false
    (fun t =>
      match t.get? key with
      | none => some (t.set key (.tables [] []))
      | some (.tables newest older) =>
        some (t.set key (.tables [] (.table .header newest :: older)))
      | some _ => none)
    path

end Table

end CrossRef.Toml
