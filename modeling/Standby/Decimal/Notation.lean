import Standby.Decimal.Shortest

/-!
# Decimal notation

Two ways of writing a number in double precision, both with the digits of its
shortest decimal. A metric sample is always written out in full. A log value has
at least one decimal place, and an exponent below 0.0001 and from 10 to the 16th
on.
-/

namespace Standby.Decimal

/-- Digits written out in full, with at least the given number of places after
the point. -/
def positional (decimal : Shortest) (places : Nat) : List Char :=
  let digits := Nat.toDigits 10 decimal.digits
  if 0 ≤ decimal.exponent then
    digits ++ List.replicate decimal.exponent.toNat '0'
      ++ (if places = 0 then [] else '.' :: List.replicate places '0')
  else
    let shift := (-decimal.exponent).toNat
    let filled := List.replicate (shift + 1 - digits.length) '0' ++ digits
    let whole := filled.take (filled.length - shift)
    whole ++ '.' :: filled.drop (filled.length - shift)

/-- One digit, a point, the other digits, and the exponent of ten. -/
def scientific (decimal : Shortest) : List Char :=
  let digits := Nat.toDigits 10 decimal.digits
  let exponent := decimal.exponent + (digits.length - 1 : Nat)
  let mantissa :=
    match digits with
    | [] | [_] => digits
    | first :: rest => first :: '.' :: rest
  mantissa ++ 'e' :: (toString exponent).toList

/-- A sign is written in front of negative numbers, zero included. -/
def signed (negative : Bool) (digits : List Char) : String :=
  String.ofList (if negative then '-' :: digits else digits)

/-- The names of the numbers that have no digits. -/
def infinityName (negative : Bool) : String := signed negative "inf".toList

/-- The text of a metric sample. -/
def Binary.sample : Binary → String
  | .finite negative mantissa exponent =>
    signed negative (positional (.of mantissa exponent) 0)
  | .infinite negative => infinityName negative
  | .notNumber => "NaN"

/-- A decimal is small or large enough to need an exponent. -/
def needsExponent (decimal : Shortest) : Bool :=
  let leading := decimal.exponent + ((Nat.toDigits 10 decimal.digits).length - 1 : Nat)
  decimal.digits != 0 && (leading < -4 || 16 ≤ leading)

/-- The text of a log value. -/
def Binary.logged : Binary → String
  | .finite negative mantissa exponent =>
    let decimal := Shortest.of mantissa exponent
    signed negative (if needsExponent decimal then scientific decimal else positional decimal 1)
  | .infinite negative => infinityName negative
  | .notNumber => "NaN"

end Standby.Decimal
