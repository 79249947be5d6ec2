import SlotTemplate.Decimal.Shortest

/-!
# Reading numbers

Digits, integers with a sign, and the written forms of double-precision numbers.
-/

namespace SlotTemplate

namespace Digits

/-- The value of a run of decimal digits. -/
def value (cs : List Char) : Nat := cs.foldl (fun n c => 10 * n + (c.toNat - '0'.toNat)) 0

/-- The value of a text of digits alone, at least one. -/
def value? (cs : List Char) : Option Nat :=
  if !cs.isEmpty && cs.all Char.isDigit then some (value cs) else none

end Digits

/-- An integer that fits 64 bits with sign. -/
def Int64.ofInt? (n : Int) : Option Int64 :=
  if Int64.minValue.toInt ≤ n ∧ n ≤ Int64.maxValue.toInt then some (Int64.ofInt n) else none

/-- The 64-bit integer of digits behind an optional minus sign. -/
def Int64.ofText? : List Char → Option Int64
  | '-' :: cs => (Digits.value? cs).bind fun n => Int64.ofInt? (-(n : Int))
  | cs => (Digits.value? cs).bind fun n => Int64.ofInt? n

/-- The index that a text of digits stands for: a plus sign may precede it and it fits 64 bits. -/
def indexOfText? (cs : List Char) : Option Nat :=
  let digits := match cs with
    | '+' :: rest => rest
    | rest => rest
  (Digits.value? digits).bind fun n => if n < UInt64.size then some n else none

namespace Binary64

/-- The number that digits around a point stand for, with an exponent of ten. -/
def ofDigits (negative : Bool) (whole fraction : List Char) (exponent : Int) : Binary64 :=
  ofDecimal negative (Digits.value (whole ++ fraction)) (exponent - fraction.length)

/-- The exponent that follows an `e`. -/
def exponentOfText? : List Char → Option Int
  | '-' :: cs => (Digits.value? cs).map fun n => -(n : Int)
  | '+' :: cs => (Digits.value? cs).map Int.ofNat
  | cs => (Digits.value? cs).map Int.ofNat

/-- Reads a magnitude: digits with an optional point and an optional exponent, or a name. -/
def magnitudeOfText? (negative : Bool) (cs : List Char) : Option Binary64 :=
  let lower := cs.map Char.toLower
  if lower == "inf".toList || lower == "infinity".toList then some (infinity negative)
  else if lower == "nan".toList then some { nan with negative }
  else
    let whole := cs.takeWhile Char.isDigit
    let rest := cs.dropWhile Char.isDigit
    let (fraction, rest) := match rest with
      | '.' :: rest => (rest.takeWhile Char.isDigit, rest.dropWhile Char.isDigit)
      | rest => ([], rest)
    if whole.isEmpty && fraction.isEmpty then none
    else match rest with
      | [] => some (ofDigits negative whole fraction 0)
      | c :: exponent =>
        if c == 'e' || c == 'E' then
          (exponentOfText? exponent).map (ofDigits negative whole fraction)
        else none

/-- Reads a number with an optional sign. -/
def ofText? : List Char → Option Binary64
  | '-' :: cs => magnitudeOfText? true cs
  | '+' :: cs => magnitudeOfText? false cs
  | cs => magnitudeOfText? false cs

end Binary64

end SlotTemplate
