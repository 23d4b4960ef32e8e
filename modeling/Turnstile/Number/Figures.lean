import Turnstile.Number.Shortest

/-!
# Significant figures

The text of a number at a fixed count of significant figures: with an exponent always, or only
where the leading power of ten is far from zero. Rounding is of the exact value, a tie going to the
even neighbour.
-/

namespace Turnstile.Number

/-- The power of ten of the leading digit of a positive quotient. -/
def leadingPower (numerator denominator : Nat) : Int :=
  let guess : Int := (toString numerator).length - (toString denominator).length
  if denominator * tenTo guess.toNat ≤ numerator * tenTo (-guess).toNat then guess else guess - 1

/-- The figures of a positive quotient, as a whole number of that many digits, and the power of
ten of the first. -/
def figures (numerator denominator count : Nat) : Nat × Int :=
  let leading := leadingPower numerator denominator
  let scale := leading + 1 - count
  let rounded := roundHalfEven (numerator * tenTo (-scale).toNat) (denominator * tenTo scale.toNat)
  if rounded = tenTo count then (rounded / 10, leading + 1) else (rounded, leading)

/-- Put a point after the first digits; it is left out at the end unless it is kept. -/
def pointAfter (count : Nat) (keepsPoint : Bool) (digits : List Char) : String :=
  let tail := digits.drop count
  let point := if tail.isEmpty && !keepsPoint then "" else "."
  String.ofList (digits.take count) ++ point ++ String.ofList tail

/-- Drop zeros at the end. -/
def dropEndZeros (digits : List Char) : List Char :=
  (digits.reverse.dropWhile (· = '0')).reverse

namespace Binary64

/-- The figures of a number and the power of ten of the first; those of zero are zeros. -/
def figuresOf (significand : Nat) (exponent : Int) (count : Nat) : List Char × Int :=
  if significand = 0 then (List.replicate count '0', 0)
  else
    let found := figures (significand * twoTo exponent.toNat) (twoTo (-exponent).toNat) count
    ((toString found.1).toList, found.2)

/-- A number with an exponent and a fixed count of decimals. -/
def scientificText (number : Binary64) (places : Nat) (keepsPoint : Bool) : String :=
  match number with
  | .finite negative significand exponent =>
    let found := figuresOf significand exponent (places + 1)
    (if negative then "-" else "") ++ pointAfter 1 keepsPoint found.1 ++ "e" ++
      Layout.exponentText found.2
  | other => Layout.plain.text other

/-- A number at a fixed count of figures, positional if the leading power of ten is from minus
four up to that count. Zeros at the end are dropped unless all is kept. -/
def generalText (number : Binary64) (count : Nat) (keepsAll : Bool) : String :=
  match number with
  | .finite negative significand exponent =>
    let count := max count 1
    let found := figuresOf significand exponent count
    let figures := if keepsAll then found.1 else dropEndZeros found.1
    let sign := if negative then "-" else ""
    if found.2 < -4 ∨ (count : Int) ≤ found.2 then
      let shown := if figures.isEmpty then ['0'] else figures
      sign ++ pointAfter 1 keepsAll shown ++ "e" ++ Layout.exponentText found.2
    else if found.2 < 0 then
      sign ++ "0." ++ String.ofList (List.replicate (-found.2 - 1).toNat '0' ++ figures)
    else
      let whole := found.2.toNat + 1
      let missing := List.replicate (whole - figures.length) '0'
      sign ++ pointAfter whole keepsAll (figures ++ missing)
  | other => Layout.plain.text other

end Binary64

end Turnstile.Number
