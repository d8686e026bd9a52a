import CrossRef.Toml.Text

/-! Numbers of TOML. Integers have 64 bits. Of other numbers only the range matters here, which is
that of binary numbers of 64 bits. -/

namespace CrossRef.Toml

def digits? (isDigit : Char → Bool) : List Char → Option (List Char)
  | [] => none
  | [c] => if isDigit c then some [c] else none
  | c :: '_' :: cs => if isDigit c then (digits? isDigit cs).map (c :: ·) else none
  | c :: cs => if isDigit c then (digits? isDigit cs).map (c :: ·) else none

def valueOf (base : Nat) (cs : List Char) : Nat :=
  cs.foldl (fun n c => base * n + (hexValue? c).getD 0) 0

def wholeDigits? (cs : List Char) : Option (List Char) := do
  let digits ← digits? Char.isDigit cs
  if digits.length ≠ 1 ∧ digits.head? = some '0' then none else some digits

def unsign : List Char → Bool × List Char
  | '-' :: cs => (true, cs)
  | '+' :: cs => (false, cs)
  | cs => (false, cs)

def withSign (negative : Bool) (n : Nat) : Int := if negative then -n else n

def integer? (cs : List Char) : Option Int := do
  let n : Int ←
    match cs with
    | '0' :: 'x' :: cs => (digits? (fun c => (hexValue? c).isSome) cs).map (valueOf 16 ·)
    | '0' :: 'o' :: cs => (digits? (fun c => '0' ≤ c ∧ c ≤ '7') cs).map (valueOf 8 ·)
    | '0' :: 'b' :: cs => (digits? (fun c => c = '0' ∨ c = '1') cs).map (valueOf 2 ·)
    | cs =>
      let (negative, cs) := unsign cs
      (wholeDigits? cs).map fun digits => withSign negative (valueOf 10 digits)
  if -Int.pow 2 63 ≤ n ∧ n < Int.pow 2 63 then some n else none

/-- From here on numbers are rounded to infinity: halfway between the greatest finite number and
the power of two above it. -/
def floatBound : Nat := Nat.pow 2 1024 - Nat.pow 2 970

/-- Whether a number, given by its digits and a power of ten, is below `floatBound`. The bound has
309 places, so that only numbers of 309 places have to be computed. -/
def isFinite (digits : List Char) (exponent : Int) : Bool :=
  let significant := digits.dropWhile (· = '0')
  let places := significant.length + exponent
  if significant.isEmpty ∨ places < 309 then true
  else if 309 < places then false
  else
    valueOf 10 significant * Nat.pow 10 exponent.toNat < floatBound * Nat.pow 10 (-exponent).toNat

def scientific? (cs : List Char) : Option (List Char × Int) := do
  let isMark (c : Char) : Bool := c = 'e' || c = 'E'
  let mantissa := cs.takeWhile (!isMark ·)
  let whole ← wholeDigits? (mantissa.takeWhile (· ≠ '.'))
  let fraction ←
    match mantissa.dropWhile (· ≠ '.') with
    | [] => some []
    | _ :: cs => digits? Char.isDigit cs
  let exponent ←
    match cs.dropWhile (!isMark ·) with
    | [] => some 0
    | _ :: cs =>
      let (negative, cs) := unsign cs
      (digits? Char.isDigit cs).map fun digits => withSign negative (valueOf 10 digits)
  if cs.any fun c => c = '.' || isMark c then
    return (whole ++ fraction, exponent - fraction.length)
  else none

def isFloat (cs : List Char) : Bool :=
  let (negative, number) := unsign cs
  if number = ['i', 'n', 'f'] ∨ number = ['n', 'a', 'n'] then true
  else match scientific? number with
    | some (digits, exponent) => negative || isFinite digits exponent
    | none => false

end CrossRef.Toml
