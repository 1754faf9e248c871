import ResourceApi.Number.Binary
import ResourceApi.Number.Digits
import ResourceApi.Text.Ascii

/-!
# Decimal literals of floating-point numbers

A literal is an optional sign followed by one of the words `inf`, `infinity` and `nan` in any case,
or by digits with an optional point and an optional exponent. At least one digit stands beside the
point, and an exponent has at least one digit. The value is the exact decimal, rounded once.

## Main definitions

- `Decimal` — `digits · 10^exponent`
- `Decimal.read` — the grammar of the numeric literals
- `Binary.read` — the number that a literal stands for
-/

namespace ResourceApi.Number

/-- The number `digits · 10^exponent`. -/
structure Decimal where
  digits : Nat
  exponent : Int
deriving DecidableEq

namespace Decimal

/-- The exponent behind a mantissa: nothing at all, or `e` and a signed run of digits. -/
def readExponent : List Char → Option Int
  | [] => some 0
  | c :: cs =>
    if c.toLower == 'e' then
      match cs with
      | '+' :: ds => (readNat ds).map Int.ofNat
      | '-' :: ds => (readNat ds).map fun n => -Int.ofNat n
      | _ => (readNat cs).map Int.ofNat
    else none

def read (cs : List Char) : Option Decimal :=
  let whole := cs.takeWhile Char.isDigit
  let rest := cs.dropWhile Char.isDigit
  let (fraction, rest) := match rest with
    | '.' :: ds => (ds.takeWhile Char.isDigit, ds.dropWhile Char.isDigit)
    | _ => ([], rest)
  if whole.isEmpty && fraction.isEmpty then none
  else (readExponent rest).map fun exponent =>
    ⟨Nat.ofDigitChars 10 (whole ++ fraction) 0, exponent - fraction.length⟩

/-- The number of a format nearest to a decimal. -/
def toBinary (f : Format) (negative : Bool) (d : Decimal) : Binary f :=
  if d.digits = 0 then ⟨negative, 0⟩
  -- Exponents far outside the format's range are settled without computing the power of ten.
  else if (Nat.pow 2 f.exponentBits : Nat) < d.exponent then ⟨negative, f.infinity⟩
  else if d.exponent + (natText d.digits).length < -(Nat.pow 2 f.exponentBits + f.fractionBits : Nat) then
    ⟨negative, 0⟩
  else match d.exponent with
    | .ofNat e => Binary.round f negative (d.digits * Nat.pow 10 e) 1
    | .negSucc e => Binary.round f negative d.digits (Nat.pow 10 (e + 1))

end Decimal

namespace Binary

/-- The number that an unsigned literal stands for, once the sign has been read. -/
def readMagnitude (f : Format) (negative : Bool) (cs : List Char) : Option (Binary f) :=
  let word := Text.lower cs
  if word == ['i', 'n', 'f'] || word == ['i', 'n', 'f', 'i', 'n', 'i', 't', 'y'] then
    some ⟨negative, f.infinity⟩
  else if word == ['n', 'a', 'n'] then
    some ⟨negative, f.infinity + Nat.pow 2 (f.fractionBits - 1)⟩
  else (Decimal.read cs).map (Decimal.toBinary f negative)

def read (f : Format) : List Char → Option (Binary f)
  | '+' :: cs => readMagnitude f false cs
  | '-' :: cs => readMagnitude f true cs
  | cs => readMagnitude f false cs

end Binary

end ResourceApi.Number
