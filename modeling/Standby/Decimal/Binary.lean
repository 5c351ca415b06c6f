/-!
# Numbers in double precision

A finite number is a mantissa of at most 53 bits times a power of two. Rounding
goes to the nearest such number, and halfway to the even mantissa. Everything is
exact arithmetic on whole numbers, so rounding can be reasoned about.
-/

namespace Standby.Decimal

/-- A number in double precision. A finite number is `mantissa * 2 ^ exponent`;
its mantissa has exactly 53 bits unless the exponent is the least one. -/
inductive Binary where
  | finite (negative : Bool) (mantissa : Nat) (exponent : Int)
  | infinite (negative : Bool)
  | notNumber
deriving DecidableEq, Repr

/-- The bits of a mantissa. -/
def mantissaBits : Nat := 53

/-- The least mantissa that has all its bits. -/
def leastNormal : Nat := Nat.pow 2 (mantissaBits - 1)

/-- The least exponent, which small numbers share. -/
def leastExponent : Int := -1074

/-- The greatest exponent of a finite number. -/
def greatestExponent : Int := 971

/-- Divide and round to the nearest whole number, halfway to the even one. -/
def divideEven (numerator denominator : Nat) : Nat :=
  let quotient := numerator / denominator
  let twice := 2 * (numerator % denominator)
  if twice < denominator then quotient
  else if denominator < twice then quotient + 1
  else quotient + quotient % 2

/-- The exponent at which a positive ratio has a mantissa of 53 bits, or at most
one bit more or less. -/
def roughExponent (numerator denominator : Nat) : Int :=
  (numerator.log2 : Int) - denominator.log2 - (mantissaBits - 1)

/-- The ratio divided by a power of two, rounded to a whole number. -/
def mantissaAt (numerator denominator : Nat) (exponent : Int) : Nat :=
  divideEven (numerator * Nat.pow 2 (-exponent).toNat) (denominator * Nat.pow 2 exponent.toNat)

/-- The ratio divided by a power of two does not reach a mantissa of 53 bits. -/
def tooCoarse (numerator denominator : Nat) (exponent : Int) : Bool :=
  numerator * Nat.pow 2 (-exponent).toNat <
    leastNormal * (denominator * Nat.pow 2 exponent.toNat)

/-- The number nearest to a ratio with a positive denominator. -/
def Binary.ofRatio (negative : Bool) (numerator denominator : Nat) : Binary :=
  if numerator = 0 then .finite negative 0 leastExponent
  else
    let rough := roughExponent numerator denominator
    let fine := if tooCoarse numerator denominator rough then rough - 1 else rough
    let exponent := max leastExponent fine
    let mantissa := mantissaAt numerator denominator exponent
    let (mantissa, exponent) :=
      if mantissa = 2 * leastNormal then (leastNormal, exponent + 1)
      else (mantissa, exponent)
    if greatestExponent < exponent then .infinite negative
    else .finite negative mantissa exponent

/-- The number nearest to a whole number. -/
def Binary.ofInt (number : Int) : Binary := .ofRatio (number < 0) number.natAbs 1

/-- Digits after an exponent mark, with an optional sign. -/
def readExponent (text : List Char) : Option Int :=
  let (negative, digits) :=
    match text with
    | '-' :: rest => (true, rest)
    | '+' :: rest => (false, rest)
    | _ => (false, text)
  if digits.isEmpty || !digits.all Char.isDigit then none
  else
    let magnitude := Nat.ofDigitChars 10 digits 0
    some (if negative then -(magnitude : Int) else magnitude)

/-- A power of ten that is brought near enough to compute with, for a number of
so many digits. Beyond these bounds every number but zero is infinite or rounds
to zero. -/
def boundedShift (count : Nat) (shift : Int) : Int :=
  max (-(count + 400 : Nat)) (min 400 shift)

/-- Read a number without a sign: digits, optionally a point and more digits,
optionally an exponent. -/
def readUnsignedDecimal (negative : Bool) (text : List Char) : Option Binary :=
  let whole := text.takeWhile Char.isDigit
  let afterWhole := text.dropWhile Char.isDigit
  let (fraction, afterFraction) :=
    match afterWhole with
    | '.' :: rest => (rest.takeWhile Char.isDigit, rest.dropWhile Char.isDigit)
    | _ => ([], afterWhole)
  let exponent? : Option Int :=
    match afterFraction with
    | [] => some 0
    | mark :: rest => if mark = 'e' || mark = 'E' then readExponent rest else none
  if whole.isEmpty && fraction.isEmpty then none
  else exponent?.map fun exponent =>
    let digits := Nat.ofDigitChars 10 (whole ++ fraction) 0
    let shift := boundedShift (whole ++ fraction).length (exponent - fraction.length)
    .ofRatio negative (digits * Nat.pow 10 shift.toNat) (Nat.pow 10 (-shift).toNat)

/-- Read a number in decimal notation. Infinity and not-a-number have names, in
any letter case. -/
def Binary.parse? (text : String) : Option Binary :=
  let (negative, rest) :=
    match text.toList with
    | '-' :: rest => (true, rest)
    | '+' :: rest => (false, rest)
    | all => (false, all)
  let name := String.ofList (rest.map Char.toLower)
  if name = "inf" || name = "infinity" then some (.infinite negative)
  else if name = "nan" then some .notNumber
  else readUnsignedDecimal negative rest

end Standby.Decimal
