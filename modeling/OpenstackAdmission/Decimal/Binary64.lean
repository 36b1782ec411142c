/-!
# Binary floating point numbers of 64 bits

A finite number of the format binary64 is `± mantissa · 2 ^ exponent`, with at most 53 bits of
mantissa and an exponent of at least -1074; `Binary64.ofDecimal?` rounds a decimal to the nearest of
them, a half going to the even neighbour.
-/

namespace OpenstackAdmission

/-- A finite number. Numbers are kept normal: the mantissa has 53 bits unless the exponent is the least
one. Zero has a sign. -/
structure Binary64 where
  negative : Bool
  mantissa : Nat
  exponent : Int
  deriving DecidableEq, Repr

namespace Binary64

/-- The least exponent. -/
def leastExponent : Int := -1074

/-- The greatest exponent. -/
def greatestExponent : Int := 971

/-- The number of mantissas: those of normal numbers fill the upper half. -/
def mantissaBound : Nat := Nat.pow 2 53

def zero (negative : Bool) : Binary64 := ⟨negative, 0, leastExponent⟩

/-- Equality of values: the two zeros are one value. -/
def sameValue (x y : Binary64) : Bool := x == y || (x.mantissa == 0 && y.mantissa == 0)

/-- The value of the quotient rounded to a whole number, a half going to the even neighbour. -/
def roundHalfEven (num den : Nat) : Nat :=
  let q := num / den
  let r := num % den
  if 2 * r < den || (2 * r = den && q % 2 = 0) then q else q + 1

/-- The quotient `num / den · 2 ^ (-shift)` as a fraction of whole numbers. -/
def scaled (num den : Nat) (shift : Int) : Nat × Nat :=
  if 0 ≤ shift then (num, den * Nat.pow 2 shift.toNat) else (num * Nat.pow 2 (-shift).toNat, den)

/-- The exponent that gives a positive quotient a mantissa of 53 bits, but not less than the least
one. -/
def exponentOf (num den : Nat) : Int :=
  let guess : Int := (num.log2 : Int) - (den.log2 : Int)
  let (n, d) := scaled num den guess
  let top := if d ≤ n then guess else guess - 1
  max (top - 52) leastExponent

/-- The number nearest to a quotient, if it is not too large. -/
def ofRatio? (negative : Bool) (num den : Nat) : Option Binary64 :=
  if num = 0 then some (zero negative)
  else
    let e := exponentOf num den
    let (n, d) := scaled num den e
    let m := roundHalfEven n d
    let (m, e) := if mantissaBound ≤ m then (m / 2, e + 1) else (m, e)
    if greatestExponent < e then none else some ⟨negative, m, e⟩

/-- The number nearest to `± digits · 10 ^ power`, if it is not too large. A decimal that is far too
large or far too small is told by its number of digits. -/
def ofDecimal? (negative : Bool) (digits : Nat) (power : Int) : Option Binary64 :=
  if digits = 0 then some (zero negative)
  else
    let top := (Nat.toDigits 10 digits).length + power
    if 400 < top then none
    else if top < -400 then some (zero negative)
    else if 0 ≤ power then ofRatio? negative (digits * Nat.pow 10 power.toNat) 1
    else ofRatio? negative digits (Nat.pow 10 (-power).toNat)

/-- The number nearest to a whole number, if it is not too large. -/
def ofInt? (n : Int) : Option Binary64 := ofDecimal? (n < 0) n.natAbs 0

end Binary64

end OpenstackAdmission
