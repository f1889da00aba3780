/-!
# Double precision

A `Double` is a finite number of double precision that is not negative, `significand * 2 ^ exponent`.
The significand has at most 53 binary digits, and exactly 53 unless the exponent is the least one, so
that each number has one form.

`Double.nearest?` rounds a quotient of natural numbers to the nearest such number, and to the one
with the even significand if two are equally near.  Products and quotients of doubles are exact ones,
rounded once.  A number that would be rounded to infinity is `none`.
-/

namespace DeviceStandby

/-- The quotient rounded to the nearest natural number, and to the even one if two are equally
near. -/
def roundQuotient (num den : Nat) : Nat :=
  let quotient := num / den
  let rest := 2 * (num % den)
  if rest < den ∨ (rest = den ∧ quotient % 2 = 0) then quotient else quotient + 1

/-- A finite number of double precision that is not negative. -/
structure Double where
  significand : Nat
  exponent : Int
deriving DecidableEq, Repr

namespace Double

/-- The least exponent. -/
def leastExponent : Int := -1074

/-- The greatest exponent. -/
def greatestExponent : Int := 971

/-- The least significand of 53 binary digits. -/
def leastFull : Nat := Nat.pow 2 52

/-- Zero. -/
def zero : Double := ⟨0, leastExponent⟩

/-- The numerator of the number as a fraction. -/
def num (d : Double) : Nat := d.significand * Nat.pow 2 d.exponent.toNat

/-- The denominator of the number as a fraction. -/
def den (d : Double) : Nat := Nat.pow 2 (-d.exponent).toNat

/-- The exponent with which the quotient has a significand of 53 binary digits, or the least
exponent.  The lengths of the two numbers give it up to one. -/
def exponentOf (num den : Nat) : Int :=
  let estimate : Int := (num.log2 : Int) - den.log2 - 52
  let short := num * Nat.pow 2 (-estimate).toNat < leastFull * den * Nat.pow 2 estimate.toNat
  max leastExponent (if short then estimate - 1 else estimate)

/-- The double nearest to a quotient. -/
def nearest? (num den : Nat) : Option Double :=
  if num = 0 then some zero
  else
    let exponent := exponentOf num den
    let significand :=
      roundQuotient (num * Nat.pow 2 (-exponent).toNat) (den * Nat.pow 2 exponent.toNat)
    let rounded : Double :=
      if significand = 2 * leastFull then ⟨leastFull, exponent + 1⟩ else ⟨significand, exponent⟩
    if greatestExponent < rounded.exponent then none else some rounded

/-- The double nearest to a natural number. -/
def ofNat? (number : Nat) : Option Double := nearest? number 1

/-- The double nearest to `mantissa * 10 ^ exponent`.  The number of digits tells apart what is
certainly too great or too small. -/
def ofDecimal? (mantissa : Nat) (exponent : Int) : Option Double :=
  let magnitude : Int := (Nat.toDigits 10 mantissa).length + exponent
  if mantissa = 0 ∨ magnitude < -400 then some zero
  else if 400 < magnitude then none
  else nearest? (mantissa * Nat.pow 10 exponent.toNat) (Nat.pow 10 (-exponent).toNat)

/-- The product of two doubles. -/
def mul? (a b : Double) : Option Double := nearest? (a.num * b.num) (a.den * b.den)

/-- The quotient of two doubles. -/
def div? (a b : Double) : Option Double := nearest? (a.num * b.den) (a.den * b.num)

end Double

end DeviceStandby
