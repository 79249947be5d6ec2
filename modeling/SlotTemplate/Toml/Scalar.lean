import SlotTemplate.Toml

/-!
# TOML scalars

Integers, floats, booleans, dates and times, each recognised from the whole of its text.
-/

namespace SlotTemplate.Toml

/-- Digits in which single underscores may stand between two digits; the result is without them. -/
def separated? (isDigit : Char → Bool) : List Char → Option (List Char)
  | [] => none
  | [c] => if isDigit c then some [c] else none
  | c :: '_' :: rest => if isDigit c then (separated? isDigit rest).map (c :: ·) else none
  | c :: d :: rest => if isDigit c then (separated? isDigit (d :: rest)).map (c :: ·) else none

/-- Decimal digits without a leading zero, unless zero is all there is. -/
def wholeDigits? (cs : List Char) : Option (List Char) :=
  match cs with
  | '0' :: _ :: _ => none
  | cs => separated? Char.isDigit cs

/-- Splits off a sign. -/
def splitSign : List Char → Bool × List Char
  | '-' :: rest => (true, rest)
  | '+' :: rest => (false, rest)
  | rest => (false, rest)

def hexValue (c : Char) : Nat :=
  if c.isDigit then c.toNat - '0'.toNat else c.toLower.toNat - 'a'.toNat + 10

def isHex (c : Char) : Bool := c.isDigit || ('a' ≤ c.toLower && c.toLower ≤ 'f')

def isOctal (c : Char) : Bool := '0' ≤ c && c ≤ '7'

def isBinary (c : Char) : Bool := c == '0' || c == '1'

/-- The integer of digits to a base. -/
def based? (base : Nat) (isDigit : Char → Bool) (cs : List Char) : Option Int64 :=
  (separated? isDigit cs).bind fun digits =>
    Int64.ofInt? (digits.foldl (fun n c => base * n + hexValue c) 0)

def integer? : List Char → Option Int64
  | '0' :: 'x' :: rest => based? 16 isHex rest
  | '0' :: 'o' :: rest => based? 8 isOctal rest
  | '0' :: 'b' :: rest => based? 2 isBinary rest
  | cs =>
    let (negative, digits) := splitSign cs
    (wholeDigits? digits).bind fun ds =>
      let n : Int := Digits.value ds
      Int64.ofInt? (if negative then -n else n)

/-- The text up to the first character of a kind, and what follows that character. -/
def splitAt? (p : Char → Bool) (cs : List Char) : Option (List Char × List Char) :=
  match cs.dropWhile (!p ·) with
  | [] => none
  | _ :: rest => some (cs.takeWhile (!p ·), rest)

/-- The exponent behind an `e`. -/
def exponent? (cs : List Char) : Option Int :=
  let (negative, digits) := splitSign cs
  (separated? Char.isDigit digits).map fun ds =>
    let n : Int := Digits.value ds
    if negative then -n else n

/-- A finite float with a point or an exponent. One that rounds to positive infinity is refused. -/
def finite? (negative : Bool) (cs : List Char) : Option Binary64 := do
  let (mantissa, exponent, scaled) ← match splitAt? (fun c => c == 'e' || c == 'E') cs with
    | some (mantissa, rest) => (exponent? rest).map fun e => (mantissa, e, true)
    | none => some (cs, 0, false)
  let (whole, fraction) ← match splitAt? (· == '.') mantissa with
    | some (whole, rest) => (separated? Char.isDigit rest).map fun f => (whole, f)
    | none => if scaled then some (mantissa, []) else none
  let ds ← wholeDigits? whole
  let x := Binary64.ofDigits negative ds fraction exponent
  if x.isInfinite && !negative then none else some x

def float? (cs : List Char) : Option Binary64 :=
  let (negative, rest) := splitSign cs
  match rest with
  | ['i', 'n', 'f'] => some (Binary64.infinity negative)
  | ['n', 'a', 'n'] => some { Binary64.nan with negative }
  | rest => finite? negative rest

/-! ## Dates and times -/

/-- The value of exactly two digits, if it lies in a range. -/
def twoDigits? (low high : Nat) (a b : Char) : Option Nat :=
  if a.isDigit && b.isDigit then
    let n := Digits.value [a, b]
    if low ≤ n ∧ n ≤ high then some n else none
  else none

def isLeapYear (year : Nat) : Bool := year % 4 == 0 && (year % 100 != 0 || year % 400 == 0)

def daysIn (year month : Nat) : Nat :=
  if month = 2 then (if isLeapYear year then 29 else 28)
  else if month = 4 ∨ month = 6 ∨ month = 9 ∨ month = 11 then 30
  else 31

/-- A date and what follows it. -/
def date? : List Char → Option (List Char × List Char)
  | a :: b :: c :: d :: '-' :: e :: f :: '-' :: g :: h :: rest => do
    let year ← Digits.value? [a, b, c, d]
    let month ← twoDigits? 1 12 e f
    let _ ← twoDigits? 1 (daysIn year month) g h
    return ([a, b, c, d, '-', e, f, '-', g, h], rest)
  | _ => none

/-- The part of a second, to nine digits, without the zeros at its end. -/
def secondFraction (digits : List Char) : List Char :=
  let kept := ((digits.take 9).reverse.dropWhile (· == '0')).reverse
  if kept.isEmpty then [] else '.' :: kept

/-- A time and what follows it. -/
def time? : List Char → Option (List Char × List Char)
  | a :: b :: ':' :: c :: d :: ':' :: e :: f :: rest => do
    let _ ← twoDigits? 0 23 a b
    let _ ← twoDigits? 0 59 c d
    let _ ← twoDigits? 0 60 e f
    let (fraction, rest) ← match rest with
      | '.' :: more =>
        let digits := more.takeWhile Char.isDigit
        if digits.isEmpty then none
        else some (secondFraction digits, more.dropWhile Char.isDigit)
      | rest => some ([], rest)
    return ([a, b, ':', c, d, ':', e, f] ++ fraction, rest)
  | _ => none

/-- The offset of a time zone, up to the end. -/
def offset? : List Char → Option (List Char)
  | [] => some []
  | ['Z'] => some ['Z']
  | ['z'] => some ['Z']
  | [sign, a, b, ':', c, d] =>
    if (sign = '+' ∨ sign = '-') ∧ (twoDigits? 0 23 a b).isSome ∧ (twoDigits? 0 59 c d).isSome then
      some (if [a, b, c, d].all (· == '0') then "+00:00".toList else [sign, a, b, ':', c, d])
    else none
  | _ => none

/-- A date, a time or both in normal form. -/
def datetime? (cs : List Char) : Option String :=
  match date? cs with
  | some (date, []) => some (String.ofList date)
  | some (date, mark :: rest) =>
    if mark = 'T' ∨ mark = 't' ∨ mark = ' ' then do
      let (time, rest) ← time? rest
      let zone ← offset? rest
      return String.ofList (date ++ 'T' :: (time ++ zone))
    else none
  | none =>
    match time? cs with
    | some (time, []) => some (String.ofList time)
    | _ => none

/-- The scalar of a text that is not quoted. -/
def scalar? (cs : List Char) : Option Toml :=
  if cs = "true".toList then some (.boolean true)
  else if cs = "false".toList then some (.boolean false)
  else match datetime? cs, integer? cs, float? cs with
    | some t, _, _ => some (.datetime t)
    | _, some n, _ => some (.integer n)
    | _, _, some x => some (.float x)
    | _, _, _ => none

end SlotTemplate.Toml
