import ResourceApi.Number.Decimal

/-!
# The shortest decimal text of a number

A finite number is written with the fewest significant digits that read back as the same number; of
several such decimals the nearest to the number is taken, and of two equally near ones the one
farther from zero. The notation is positional: never an exponent, and no point when there is no
fraction.

## Main definitions

- `Binary.shortest` — the decimal to write
- `Decimal.positional` — a decimal in positional notation
- `Binary.text` — the text of a number

## Design notes

With a fixed number of places only the two decimals next to the value can be the nearest ones, so
each round of the search tests two candidates. Should every round fail, the exact expansion of the
value is written, which reads back whatever the format.
-/

namespace ResourceApi.Number

namespace Decimal

/-- The number `digits / 10^places` in positional notation, without zeros at the end behind the
point. -/
def positional (digits places : Nat) : List Char :=
  let all := natText digits
  let all := List.replicate (places + 1 - all.length) '0' ++ all
  let whole := all.take (all.length - places)
  let fraction := ((all.drop (all.length - places)).reverse.dropWhile (· == '0')).reverse
  if fraction.isEmpty then whole else whole ++ '.' :: fraction

end Decimal

namespace Binary

variable {f : Format}

/-- The nearest decimal with the given number of places that reads back as `x`, whose magnitude is
`num / den`. -/
def candidate (x : Binary f) (num den places : Nat) : Option Nat :=
  let low := num * Nat.pow 10 places / den
  let reads (digits : Nat) : Bool :=
    roundUnits f (digits * Nat.pow 2 f.scale) (Nat.pow 10 places) == x.magnitude
  -- A value in the middle between two decimals counts as nearer to the greater one.
  let lowIsNearer := 2 * (num * Nat.pow 10 places - low * den) < den
  if lowIsNearer then
    if reads low then some low else if reads (low + 1) then some (low + 1) else none
  else
    if reads (low + 1) then some (low + 1) else if reads low then some low else none

/-- The digits and the number of places of the shortest decimal that reads back as
`x`, sign apart. -/
def shortest (x : Binary f) : Nat × Nat :=
  let num := units f x.magnitude
  let den := Nat.pow 2 f.scale
  if num = 0 then (0, 0)
  else
    -- The first place tried is the first one that can show a digit of the value.
    let leading := (natText (den / num)).length - 1
    let places := (List.range (f.fractionBits + 2)).map (leading + ·)
    match places.findSome? fun k => (candidate x num den k).map fun digits => (digits, k) with
    | some found => found
    | none => (num * Nat.pow 5 f.scale, f.scale)

def text (x : Binary f) : String :=
  if x.isNaN then "NaN"
  else
    let sign := if x.negative then ['-'] else []
    if x.isFinite then
      let (digits, places) := x.shortest
      String.ofList (sign ++ Decimal.positional digits places)
    else String.ofList (sign ++ ['i', 'n', 'f'])

end Binary

end ResourceApi.Number
