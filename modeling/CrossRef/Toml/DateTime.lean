/-! Dates and times of TOML: where they end, and whether the calendar has them. -/

namespace CrossRef.Toml

def expect (c : Char) : List Char → Option (List Char)
  | [] => none
  | d :: cs => if d = c then some cs else none

def readPair (low high : Nat) : List Char → Option (Nat × List Char)
  | tens :: ones :: cs =>
    let value := 10 * (tens.toNat - '0'.toNat) + (ones.toNat - '0'.toNat)
    if tens.isDigit && ones.isDigit && low ≤ value && value ≤ high then some (value, cs) else none
  | _ => none

def isLeapYear (year : Nat) : Bool := year % 4 = 0 && (year % 100 ≠ 0 || year % 400 = 0)

def daysIn (year month : Nat) : Nat :=
  match month with
  | 2 => if isLeapYear year then 29 else 28
  | 4 | 6 | 9 | 11 => 30
  | _ => 31

def skipDate (cs : List Char) : Option (List Char) := do
  let (century, cs) ← readPair 0 99 cs
  let (year, cs) ← readPair 0 99 cs
  let (month, cs) ← readPair 1 12 (← expect '-' cs)
  let (_, cs) ← readPair 1 (daysIn (100 * century + year) month) (← expect '-' cs)
  return cs

def skipFraction (cs : List Char) : List Char :=
  match cs with
  | '.' :: c :: rest => if c.isDigit then rest.dropWhile Char.isDigit else cs
  | _ => cs

def skipTime (cs : List Char) : Option (List Char) := do
  let (_, cs) ← readPair 0 23 cs
  let (_, cs) ← readPair 0 59 (← expect ':' cs)
  let (_, cs) ← readPair 0 60 (← expect ':' cs)
  return skipFraction cs

def skipOffset : List Char → Option (List Char)
  | [] => none
  | c :: cs =>
    if c = 'Z' || c = 'z' then some cs
    else if c = '+' || c = '-' then do
      let (_, cs) ← readPair 0 23 cs
      let (_, cs) ← readPair 0 59 (← expect ':' cs)
      return cs
    else none

def skipDateTime (cs : List Char) : Option (List Char) :=
  match skipDate cs with
  | none => skipTime cs
  | some [] => some []
  | some (c :: rest) =>
    if c = 'T' || c = 't' || c = ' ' then
      match skipTime rest with
      | some rest => some ((skipOffset rest).getD rest)
      | none => some (c :: rest)
    else some (c :: rest)

end CrossRef.Toml
