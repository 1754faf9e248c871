/-!
# Binary floating-point numbers

Numbers of the IEEE 754 interchange formats, kept as a sign and a magnitude. The magnitude is the
exponent and fraction fields read as one number, so magnitudes are ordered as the values they stand
for, and everything about order and equality is arithmetic on natural numbers.

## Main definitions

- `Format` — the widths of the two fields; `binary32`, `binary64`
- `Binary` — a number of a format: finite, infinite or NaN
- `Binary.compare?` — the numeric order: undefined on NaN, and the two zeros are equal
- `Binary.units` — a finite magnitude in units of the least positive number
- `Binary.round` — the number nearest to a fraction, ties to even

## Design notes

`units` turns a magnitude into an exact natural number and `roundUnits` goes back. In the lowest two
binades a magnitude *is* its number of units; each further binade doubles the spacing. Rounding up
past the last finite magnitude lands on the magnitude of infinity by itself.
-/

namespace ResourceApi.Number

/-- The widths of the exponent and fraction fields of an interchange format. -/
structure Format where
  /-- Bits of the exponent field. -/
  exponentBits : Nat
  /-- Bits of the fraction field. -/
  fractionBits : Nat
deriving DecidableEq

/-- Single precision. -/
def binary32 : Format := ⟨8, 23⟩

/-- Double precision. -/
def binary64 : Format := ⟨11, 52⟩

namespace Format

/-- The number of magnitudes, which is also the weight of the sign bit. -/
def capacity (f : Format) : Nat := Nat.pow 2 (f.exponentBits + f.fractionBits)

/-- The magnitude of infinity; greater magnitudes are NaN. -/
def infinity (f : Format) : Nat := (Nat.pow 2 f.exponentBits - 1) * Nat.pow 2 f.fractionBits

/-- The exponent bias. -/
def bias (f : Format) : Nat := Nat.pow 2 (f.exponentBits - 1) - 1

/-- The least positive number is two to the power of minus this. -/
def scale (f : Format) : Nat := f.bias + f.fractionBits - 1

end Format

/-- A number of a format. -/
structure Binary (f : Format) where
  /-- The sign bit. -/
  negative : Bool
  /-- The exponent and fraction fields as one number. -/
  magnitude : Nat
deriving DecidableEq

namespace Binary

variable {f : Format}

/-- The number with the given interchange bits. -/
def ofBits (f : Format) (bits : Nat) : Binary f :=
  ⟨bits / f.capacity % 2 == 1, bits % f.capacity⟩

/-- The interchange bits of a number. -/
def bits (x : Binary f) : Nat := (if x.negative then f.capacity else 0) + x.magnitude

/-- Zero. -/
def zero (f : Format) : Binary f := ⟨false, 0⟩

/-- One. -/
def one (f : Format) : Binary f := ⟨false, f.bias * Nat.pow 2 f.fractionBits⟩

/-- Not a number. -/
def isNaN (x : Binary f) : Bool := f.infinity < x.magnitude

/-- Neither infinite nor NaN. -/
def isFinite (x : Binary f) : Bool := x.magnitude < f.infinity

/-- The position of a number on the number line; both zeros are at zero. -/
def position (x : Binary f) : Int := if x.negative then -(x.magnitude : Int) else x.magnitude

/-- The numeric order, undefined on NaN. -/
def compare? (x y : Binary f) : Option Ordering :=
  if x.isNaN || y.isNaN then none else some (compare x.position y.position)

/-- Numeric equality: NaN equals nothing, and the two zeros are equal. -/
def equals (x y : Binary f) : Bool := !x.isNaN && !y.isNaN && x.position == y.position

/-- A finite magnitude in units of the least positive number. -/
def units (f : Format) (magnitude : Nat) : Nat :=
  let binade := magnitude / Nat.pow 2 f.fractionBits
  if binade = 0 then magnitude
  else (Nat.pow 2 f.fractionBits + magnitude % Nat.pow 2 f.fractionBits) * Nat.pow 2 (binade - 1)

/-- The greatest magnitude whose units do not exceed `n`. -/
def floorUnits (f : Format) (n : Nat) : Nat :=
  let shift := Nat.log2 n - f.fractionBits
  shift * Nat.pow 2 f.fractionBits + n / Nat.pow 2 shift

/-- The magnitude nearest to `num / den` units, ties to even, at most infinity. -/
def roundUnits (f : Format) (num den : Nat) : Nat :=
  let low := floorUnits f (num / den)
  let high := low + 1
  let middle := (units f low + units f high) * den
  let nearest :=
    if 2 * num < middle then low
    else if middle < 2 * num then high
    else if low % 2 = 0 then low else high
  min nearest f.infinity

/-- The number nearest to `num / den`, with the given sign. -/
def round (f : Format) (negative : Bool) (num den : Nat) : Binary f :=
  ⟨negative, roundUnits f (num * Nat.pow 2 f.scale) den⟩

end Binary

end ResourceApi.Number
