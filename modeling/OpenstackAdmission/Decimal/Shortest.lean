import OpenstackAdmission.Decimal.Binary64

/-!
# The shortest decimal of a binary number

`Binary64.shortest` finds the decimal with the fewest digits which reads back as the number, and of
several with that many digits the nearest. The decimals that read back form an interval around the
number, half way to its neighbours; its ends belong to it if the mantissa is even.
-/

namespace OpenstackAdmission

/-- A decimal `digits · 10 ^ power` without a sign. -/
structure Decimal where
  digits : Nat
  power : Int
  deriving DecidableEq, Repr

namespace Decimal

/-- The same decimal without zeros at its end. -/
def trimmed (digits : Nat) (power : Int) : Nat → Decimal
  | 0 => ⟨digits, power⟩
  | fuel + 1 =>
    if digits ≠ 0 && digits % 10 = 0 then trimmed (digits / 10) (power + 1) fuel
    else ⟨digits, power⟩

end Decimal

namespace Binary64

/-- The decimals that read back as a number, all over one common denominator: the lower end, the value,
the upper end, the denominator, and whether the ends belong to the interval. -/
structure Interval where
  low : Nat
  value : Nat
  high : Nat
  den : Nat
  closed : Bool

/-- The interval of a positive number. Below a power of two the neighbour is half as far. -/
def interval (x : Binary64) : Interval :=
  let m := x.mantissa
  let narrow : Bool := m = Nat.pow 2 52 && leastExponent < x.exponent
  let low := if narrow then 4 * m - 1 else 4 * m - 2
  let e := x.exponent - 2
  let up := if 0 ≤ e then Nat.pow 2 e.toNat else 1
  let den := if 0 ≤ e then 1 else Nat.pow 2 (-e).toNat
  { low := low * up, value := 4 * m * up, high := (4 * m + 2) * up, den, closed := m % 2 = 0 }

/-- The number of digits before the point, or minus the number of zeros after it. -/
def Interval.magnitude (i : Interval) : Int :=
  if i.den ≤ i.value then (Nat.toDigits 10 (i.value / i.den)).length
  else 1 - (Nat.toDigits 10 ((i.den - 1) / i.value)).length

/-- Whether a whole multiple of `10 ^ power` reads back. -/
def Interval.holds (i : Interval) (digits : Nat) (power : Int) : Bool :=
  let n := if 0 ≤ power then digits * Nat.pow 10 power.toNat * i.den else digits * i.den
  let scale := if 0 ≤ power then 1 else Nat.pow 10 (-power).toNat
  let low := i.low * scale
  let high := i.high * scale
  if i.closed then low ≤ n && n ≤ high else low < n && n < high

/-- The nearest multiple of `10 ^ power` that reads back, if there is one. A tie goes to the even
one. -/
def Interval.onGrid? (i : Interval) (power : Int) : Option Nat :=
  let n := if 0 ≤ power then i.value else i.value * Nat.pow 10 (-power).toNat
  let d := if 0 ≤ power then i.den * Nat.pow 10 power.toNat else i.den
  let near := roundHalfEven n d
  let other := if near = n / d then near + 1 else n / d
  if near ≠ 0 && i.holds near power then some near
  else if other ≠ 0 && i.holds other power then some other
  else none

/-- The shortest decimal of the number's magnitude. Seventeen digits always suffice. -/
def shortest (x : Binary64) : Decimal :=
  if x.mantissa = 0 then ⟨0, 0⟩
  else
    let i := x.interval
    let found := (List.range 17).findSome? fun (k : Nat) =>
      let power := i.magnitude - (k + 1)
      (i.onGrid? power).map fun digits => Decimal.trimmed digits power 20
    found.getD ⟨0, 0⟩

/-- A number in positional notation. -/
def positional (sign : String) (d : Decimal) : String :=
  let text := toString d.digits
  if 0 ≤ d.power then sign ++ text ++ String.ofList (List.replicate d.power.toNat '0') ++ ".0"
  else
    let places := (-d.power).toNat
    let padded := List.replicate (places + 1 - text.length) '0' ++ text.toList
    let whole := padded.length - places
    sign ++ String.ofList (padded.take whole ++ '.' :: padded.drop whole)

/-- A number in scientific notation: one digit before the point, and no point if there is no more. -/
def scientific (sign : String) (d : Decimal) : String :=
  match (toString d.digits).toList with
  | [] => sign
  | first :: rest =>
    let exponent := d.power + rest.length
    let fraction := if rest = [] then [] else '.' :: rest
    sign ++ String.ofList (first :: fraction) ++ "e" ++ toString exponent

private def signText (x : Binary64) : String := if x.negative then "-" else ""

/-- The text of a number in prose: never an exponent, and at least one digit after the point. -/
def proseText (x : Binary64) : String := positional (signText x) x.shortest

/-- The text of a number in data: positional from 1e-5 up to below 1e16, scientific outside. -/
def dataText (x : Binary64) : String :=
  let d := x.shortest
  let point := (toString d.digits).length + d.power
  if d.digits = 0 || (-5 < point && point ≤ 16) then positional (signText x) d
  else scientific (signText x) d

end Binary64

end OpenstackAdmission
