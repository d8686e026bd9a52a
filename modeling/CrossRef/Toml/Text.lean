/-! The lexical layer of TOML: blanks, comments and strings. -/

namespace CrossRef.Toml

def isText (c : Char) : Bool := c = '\t' || (0x20 ≤ c.toNat && c.toNat ≠ 0x7F)

def isBlank (c : Char) : Bool := c = ' ' || c = '\t'

def skipBlanks (cs : List Char) : List Char := cs.dropWhile isBlank

def skipGaps (inComment : Bool) : List Char → Option (List Char)
  | [] => some []
  | c :: cs =>
    if c = '\n' then skipGaps false cs
    else if c = '\r' then if cs.head? = some '\n' then skipGaps inComment cs else none
    else if inComment then if isText c then skipGaps true cs else none
    else if isBlank c then skipGaps false cs
    else if c = '#' then skipGaps true cs
    else some (c :: cs)

def skipLineEnd (inComment : Bool) : List Char → Option (List Char)
  | [] => some []
  | c :: cs =>
    if c = '\n' then some cs
    else if c = '\r' then if cs.head? = some '\n' then skipLineEnd inComment cs else none
    else if inComment then if isText c then skipLineEnd true cs else none
    else if isBlank c then skipLineEnd false cs
    else if c = '#' then skipLineEnd true cs
    else none

def hexValue? (c : Char) : Option Nat :=
  if c.isDigit then some (c.toNat - '0'.toNat)
  else if 'a' ≤ c ∧ c ≤ 'f' then some (c.toNat - 'a'.toNat + 10)
  else if 'A' ≤ c ∧ c ≤ 'F' then some (c.toNat - 'A'.toNat + 10)
  else none

def char? (code : Nat) : Option Char :=
  if code.isValidChar then some (.ofNat code) else none

def escape? (c : Char) : Option Char :=
  match c with
  | 'b' => some '\x08'
  | 't' => some '\t'
  | 'n' => some '\n'
  | 'f' => some '\x0c'
  | 'r' => some '\r'
  | '"' => some '"'
  | '\\' => some '\\'
  | _ => none

/-- Where the reader of a string in double quotes stands. Behind a backslash and blanks the line
must end, and the white space after that is passed over. -/
inductive Quoted where
  | plain
  | escaped
  | numeric (digits value : Nat)
  | trailing
  | folding

/-- The end of a string at its closing delimiter of three quotes, before which up to two quotes
can stand. -/
def closing? (quote : Char) (cs : List Char) : Option (List Char × List Char) :=
  let run := min (cs.takeWhile (· = quote)).length 5
  if 3 ≤ run then some (List.replicate (run - 3) quote, cs.drop run) else none

def readQuoted (multiline : Bool) : Quoted → List Char → Option (List Char × List Char)
  | _, [] => none
  | state, c :: cs =>
    let next (char : Char) : Option (List Char × List Char) := do
      let (text, rest) ← readQuoted multiline .plain cs
      return (char :: text, rest)
    let atPlain : Option (List Char × List Char) :=
      if c = '"' then
        if multiline then
          match closing? '"' (c :: cs) with
          | some done => some done
          | none => next '"'
        else some ([], cs)
      else if c = '\\' then readQuoted multiline .escaped cs
      else if c = '\n' then if multiline then next '\n' else none
      else if c = '\r' then
        if multiline && cs.head? = some '\n' then readQuoted multiline .plain cs else none
      else if isText c then next c
      else none
    match state with
    | .plain => atPlain
    | .escaped =>
      match escape? c with
      | some char => next char
      | none =>
        if c = 'u' then readQuoted multiline (.numeric 4 0) cs
        else if c = 'U' then readQuoted multiline (.numeric 8 0) cs
        else if !multiline then none
        else if isBlank c || (c = '\r' && cs.head? = some '\n') then
          readQuoted multiline .trailing cs
        else if c = '\n' then readQuoted multiline .folding cs
        else none
    | .numeric digits value => do
      let value := 16 * value + (← hexValue? c)
      if digits ≤ 1 then next (← char? value)
      else readQuoted multiline (.numeric (digits - 1) value) cs
    | .trailing =>
      if c = '\n' then readQuoted multiline .folding cs
      else if isBlank c || (c = '\r' && cs.head? = some '\n') then
        readQuoted multiline .trailing cs
      else none
    | .folding =>
      if isBlank c || c = '\n' || (c = '\r' && cs.head? = some '\n') then
        readQuoted multiline .folding cs
      else atPlain

def readLiteral (multiline : Bool) : List Char → Option (List Char × List Char)
  | [] => none
  | c :: cs =>
    let next (char : Char) : Option (List Char × List Char) := do
      let (text, rest) ← readLiteral multiline cs
      return (char :: text, rest)
    if c = '\'' then
      if multiline then
        match closing? '\'' (c :: cs) with
        | some done => some done
        | none => next '\''
      else some ([], cs)
    else if c = '\n' then if multiline then next '\n' else none
    else if c = '\r' then
      if multiline && cs.head? = some '\n' then readLiteral multiline cs else none
    else if isText c then next c
    else none

def skipFirstBreak : List Char → List Char
  | '\n' :: cs => cs
  | '\r' :: '\n' :: cs => cs
  | cs => cs

def readString (cs : List Char) : Option (Option (List Char × List Char)) :=
  match cs with
  | '"' :: '"' :: '"' :: rest => some (readQuoted true .plain (skipFirstBreak rest))
  | '\'' :: '\'' :: '\'' :: rest => some (readLiteral true (skipFirstBreak rest))
  | '"' :: rest => some (readQuoted false .plain rest)
  | '\'' :: rest => some (readLiteral false rest)
  | _ => none

end CrossRef.Toml
