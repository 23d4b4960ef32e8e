import Turnstile.Number.Binary64

/-!
# Shortest decimals

The fewest decimal digits that read back as a given binary64 number, nearest to it among those,
and their layout as a text. A decimal reads back when it lies in the interval of reals that round
to the number; the ends belong to the interval when the significand is even.
-/

namespace Turnstile.Number

/-- Digits and the power of ten of the last of them. -/
structure Decimal where
  digits : Nat
  scale : Int
deriving DecidableEq, Repr, Inhabited

namespace Shortest

/-- A positive binary64 magnitude and the interval that rounds to it, over one denominator. -/
structure Interval where
  low : Nat
  value : Nat
  high : Nat
  denominator : Nat
  closed : Bool

/-- The interval of a positive significand and exponent: half a place to either side, a quarter
below a power of two that is not the smallest. -/
def interval (significand : Nat) (exponent : Int) : Interval :=
  let up := exponent.toNat
  let down := (-exponent).toNat
  let closed := significand % 2 == 0
  let below := if significand = twoTo 52 ∧ -1074 < exponent then 1 else 2
  ⟨(4 * significand - below) * twoTo up, 4 * significand * twoTo up,
    (4 * significand + 2) * twoTo up, 4 * twoTo down, closed⟩

/-- The grid point `digits * 10 ^ scale` lies in the interval. -/
def Interval.holds (range : Interval) (digits : Nat) (scale : Int) : Bool :=
  let point := digits * tenTo scale.toNat * range.denominator
  let unit := tenTo (-scale).toNat
  if range.closed then range.low * unit ≤ point && point ≤ range.high * unit
  else range.low * unit < point && point < range.high * unit

/-- The grid points next to the value, the lower first. -/
def Interval.floorPoint (range : Interval) (scale : Int) : Nat :=
  range.value * tenTo (-scale).toNat / (range.denominator * tenTo scale.toNat)

/-- The lower neighbour is at least as near as the upper one; a tie goes to the even one. -/
def Interval.prefersLower (range : Interval) (floor : Nat) (scale : Int) : Bool :=
  let unit := range.denominator * tenTo scale.toNat
  let value := range.value * tenTo (-scale).toNat
  let below := value - floor * unit
  let above := (floor + 1) * unit - value
  below < above || (below == above && floor % 2 == 0)

/-- The point of the grid that reads back, if one does. -/
def Interval.onGrid (range : Interval) (scale : Int) : Option Decimal :=
  let floor := range.floorPoint scale
  let lower := range.holds floor scale
  let upper := range.holds (floor + 1) scale
  if lower && upper then
    some ⟨if range.prefersLower floor scale then floor else floor + 1, scale⟩
  else if lower then some ⟨floor, scale⟩
  else if upper then some ⟨floor + 1, scale⟩
  else none

/-- The power of ten of the leading digit of the value. -/
def Interval.leading (range : Interval) : Int :=
  let guess : Int :=
    ((Nat.log2 range.value : Int) - Nat.log2 range.denominator) * 30103 / 100000 - 1
  let reaches (power : Int) : Bool :=
    range.denominator * tenTo power.toNat ≤ range.value * tenTo (-power).toNat
  if reaches (guess + 2) then guess + 2 else if reaches (guess + 1) then guess + 1 else guess

/-- Drop zeros from the end of the digits. -/
def dropZeros (fuel : Nat) (decimal : Decimal) : Decimal :=
  match fuel with
  | 0 => decimal
  | fuel + 1 =>
    if decimal.digits % 10 = 0 ∧ decimal.digits ≠ 0 then
      dropZeros fuel ⟨decimal.digits / 10, decimal.scale + 1⟩
    else decimal

/-- The shortest decimal of a positive significand and exponent: the coarsest grid of at most
seventeen digits with a point that reads back. -/
def decimal (significand : Nat) (exponent : Int) : Decimal :=
  let range := interval significand exponent
  let leading := range.leading
  let found := (List.range 17).findSome? fun (extra : Nat) => range.onGrid (leading - extra)
  dropZeros 20 (found.getD ⟨0, 0⟩)

end Shortest

/-- The layout of a number as a text. -/
structure Layout where
  /-- Leading powers of ten from here on are written with an exponent. -/
  exponentFrom : Int
  /-- Leading powers of ten below this are written with an exponent. -/
  exponentBelow : Int
  /-- What follows the digits of a whole number in positional form. -/
  wholeTail : String
  infinity : String
  notANumber : String

/-- Write an exponent with its sign and at least two digits. -/
def Layout.exponentText (power : Int) : String :=
  let size := toString power.natAbs
  (if power < 0 then "-" else "+") ++ (if size.length < 2 then "0" ++ size else size)

/-- Lay out the digits of a positive decimal. -/
def Layout.magnitude (layout : Layout) (decimal : Decimal) : String :=
  let digits := (toString decimal.digits).toList
  let leading : Int := decimal.scale + digits.length - 1
  if leading < layout.exponentBelow || layout.exponentFrom ≤ leading then
    let tail := digits.drop 1
    String.ofList (digits.take 1 ++ (if tail.isEmpty then [] else '.' :: tail)) ++ "e"
      ++ Layout.exponentText leading
  else if 0 ≤ decimal.scale then
    String.ofList (digits ++ List.replicate decimal.scale.toNat '0') ++ layout.wholeTail
  else
    let places := (-decimal.scale).toNat
    let padded := List.replicate (places + 1 - digits.length) '0' ++ digits
    let cut := padded.length - places
    String.ofList (padded.take cut) ++ "." ++ String.ofList (padded.drop cut)

/-- The text of a binary64 number in the layout. -/
def Layout.text (layout : Layout) : Binary64 → String
  | .nan => layout.notANumber
  | .infinite negative => (if negative then "-" else "") ++ layout.infinity
  | .finite negative significand exponent =>
    (if negative then "-" else "") ++
      (if significand = 0 then "0" ++ layout.wholeTail
       else layout.magnitude (Shortest.decimal significand exponent))

/-- Numbers are positional between ten thousandths and ten to the sixteenth, a whole number keeps
one decimal, and an exponent has a sign and two digits. -/
def Layout.plain : Layout := ⟨16, -4, ".0", "inf", "nan"⟩

/-- The shortest text of a binary64 number. -/
def Binary64.text (number : Binary64) : String := Layout.plain.text number

/-- A number rounded to a fixed count of decimals, as sign, whole part and decimals. -/
def Binary64.fixedText (number : Binary64) (places : Nat) : String :=
  match number with
  | .finite negative significand exponent =>
    let numerator := significand * twoTo exponent.toNat * tenTo places
    let rounded := roundHalfEven numerator (twoTo (-exponent).toNat)
    let digits := (toString rounded).toList
    let padded := List.replicate (places + 1 - digits.length) '0' ++ digits
    let cut := padded.length - places
    (if negative then "-" else "") ++ String.ofList (padded.take cut) ++
      (if places = 0 then "" else "." ++ String.ofList (padded.drop cut))
  | other => Layout.plain.text other

/-- A number rounded to the binary64 number nearest to its value at a fixed count of decimals. -/
def Binary64.roundPlaces (number : Binary64) (places : Nat) : Binary64 :=
  match number with
  | .finite negative significand exponent =>
    let numerator := significand * twoTo exponent.toNat * tenTo places
    nearestMagnitude negative (roundHalfEven numerator (twoTo (-exponent).toNat)) (tenTo places)
  | other => other

end Turnstile.Number
