import ResourceApi.Text.Split
import ResourceApi.Text.Utf8

/-!
# Percent-encoded text

`%` and two hexadecimal digits stand for a byte; a `%` that is not followed by two digits stands
for itself. In a query string `+` stands for a space, `&` separates pairs and the first `=` of a
pair separates its key from its value.

## Main definitions

- `percentDecode` — the bytes that a percent-encoded text stands for
- `formPairs` — the key and value pairs of a query string
-/

namespace ResourceApi.Text

def hexValue? (b : UInt8) : Option Nat :=
  let n := b.toNat
  if 48 ≤ n ∧ n ≤ 57 then some (n - 48)
  else if 65 ≤ n ∧ n ≤ 70 then some (n - 55)
  else if 97 ≤ n ∧ n ≤ 102 then some (n - 87)
  else none

/-- The bytes that a percent-encoded text stands for. -/
def percentDecode : Bytes → Bytes
  | 0x25 :: a :: b :: rest =>
    match hexValue? a, hexValue? b with
    | some hi, some lo => UInt8.ofNat (hi * 16 + lo) :: percentDecode rest
    | _, _ => 0x25 :: percentDecode (a :: b :: rest)
  | b :: rest => b :: percentDecode rest
  | [] => []

/-- A key or value of a query string, with `+` read as a space and bad UTF-8 replaced. -/
def formText (raw : Bytes) : String :=
  ofUtf8Lossy (percentDecode (raw.map fun b => if b == 0x2B then 0x20 else b))

/-- The pairs of a query string. Empty pieces are skipped; a piece without `=` is a key with an
empty value. -/
def formPairs (raw : Bytes) : List (String × String) :=
  ((pieces 0x26 raw).filter fun piece => !piece.isEmpty).map fun piece =>
    match cut 0x3D piece with
    | some (key, value) => (formText key, formText value)
    | none => (formText piece, "")

end ResourceApi.Text
