import CrossRef.Toml.DateTime
import CrossRef.Toml.Number
import CrossRef.Toml.Table

/-! Reading TOML documents. -/

namespace CrossRef.Toml

def isBare (c : Char) : Bool := c.isAlphanum || c = '_' || c = '-'

def isWord (c : Char) : Bool := isBare c || c = '+' || c = '.'

def readSimpleKey (cs : List Char) : Option (String × List Char) :=
  match cs with
  | '"' :: rest => (readQuoted false .plain rest).map fun (s, rest) => (.ofList s, rest)
  | '\'' :: rest => (readLiteral false rest).map fun (s, rest) => (.ofList s, rest)
  | _ =>
    let name := cs.takeWhile isBare
    if name.isEmpty then none else some (.ofList name, cs.dropWhile isBare)

def readNames : (fuel : Nat) → List Char → Option (List String × String × List Char)
  | 0, _ => none
  | fuel + 1, cs => do
    let (name, rest) ← readSimpleKey cs
    match skipBlanks rest with
    | '.' :: rest =>
      let (path, last, rest) ← readNames fuel (skipBlanks rest)
      return (name :: path, last, rest)
    | rest => return ([], name, rest)

def maxLevels : Nat := 79

def readKey (cs : List Char) : Option (List String × String × List Char) := do
  let (path, last, rest) ← readNames cs.length cs
  if path.length < maxLevels then return (path, last, rest) else none

def readWord (cs : List Char) : Option Value :=
  if cs = ['t', 'r', 'u', 'e'] then some (.bool true)
  else if cs = ['f', 'a', 'l', 's', 'e'] then some (.bool false)
  else match integer? cs with
    | some n => some (.int n)
    | none => if isFloat cs then some .float else none

def readElements (read : List Char → Option (Value × List Char)) :
    (fuel : Nat) → List Char → Option (List Value × List Char)
  | 0, _ => none
  | fuel + 1, cs => do
    match ← skipGaps false cs with
    | ']' :: rest => return ([], rest)
    | cs =>
      let (value, rest) ← read cs
      match ← skipGaps false rest with
      | ']' :: rest => return ([value], rest)
      | ',' :: rest =>
        let (values, rest) ← readElements read fuel rest
        return (value :: values, rest)
      | _ => none

def readEntry (read : List Char → Option (Value × List Char)) (cs : List Char) :
    Option (List String × String × Value × List Char) := do
  let (path, key, rest) ← readKey cs
  match rest with
  | '=' :: rest =>
    let (value, rest) ← read (skipBlanks rest)
    return (path, key, value, rest)
  | _ => none

def readInline (read : List Char → Option (Value × List Char)) :
    (fuel : Nat) → Table → List Char → Option (Table × List Char)
  | 0, _, _ => none
  | fuel + 1, table, cs => do
    let (path, key, value, rest) ← readEntry read (skipBlanks cs)
    let table ← table.insert path key value
    match skipBlanks rest with
    | ',' :: rest => readInline read fuel table rest
    | '\x7d' :: rest => return (table, rest)
    | _ => none

def readValue : (levels : Nat) → List Char → Option (Value × List Char)
  | levels, cs =>
    match readString cs with
    | some read => read.map fun (s, rest) => (.str (.ofList s), rest)
    | none =>
      match levels, cs with
      | levels + 1, '[' :: rest =>
        (readElements (readValue levels) rest.length.succ rest).map fun (values, rest) =>
          (.array values, rest)
      | levels + 1, '\x7b' :: rest =>
        match skipBlanks rest with
        | '\x7d' :: rest => some (.table .inline [], rest)
        | rest =>
          (readInline (readValue levels) rest.length.succ ⟨.header, []⟩ rest).map
            fun (table, rest) => (.table .inline table.entries, rest)
      | _, cs =>
        match skipDateTime cs with
        | some rest => some (.dateTime, rest)
        | none => (readWord (cs.takeWhile isWord)).map (·, cs.dropWhile isWord)

def readHeader (brackets : List Char) (cs : List Char) :
    Option (List String × String × List Char) := do
  let (path, key, rest) ← readKey (skipBlanks cs)
  if brackets.isPrefixOf rest then
    return (path, key, ← skipLineEnd false (rest.drop brackets.length))
  else none

/-- Reads a document line by line. `here` is the path of the table that entries are added to. -/
def readLines : (fuel : Nat) → (here : List String) → Table → List Char → Option Table
  | 0, _, _, _ => none
  | fuel + 1, here, root, cs => do
    match ← skipGaps false cs with
    | [] => return root
    | '[' :: '[' :: rest =>
      let (path, key, rest) ← readHeader [']', ']'] rest
      readLines fuel (path ++ [key]) (← root.addRepeated path key) rest
    | '[' :: rest =>
      let (path, key, rest) ← readHeader [']'] rest
      readLines fuel (path ++ [key]) (← root.addHeader path key) rest
    | cs =>
      let (path, key, value, rest) ← readEntry (readValue maxLevels) cs
      let root ← root.modifyAt false (·.insert path key value) here
      readLines fuel here root (← skipLineEnd false rest)

def parse? (text : String) : Option Table :=
  let cs := text.toList
  let cs := if cs.head? = some '\ufeff' then cs.tail else cs
  readLines cs.length.succ [] ⟨.header, []⟩ cs

end CrossRef.Toml
