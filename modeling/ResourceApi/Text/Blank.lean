/-!
# Blank characters

The Unicode property `White_Space`, and the two operations that look at it: trimming a text at its
ends, and telling whether a text shows anything at all.

## Main definitions

- `isBlank` — the property, as ranges of code points
- `trim`, `trimStart` — a text without the blanks at its ends
- `isBlankText` — a text of blanks only
-/

namespace ResourceApi.Text

/-- The code points with the property `White_Space`, as inclusive ranges in increasing order. -/
def blankRanges : List (Nat × Nat) :=
  [(0x9, 0xD), (0x20, 0x20), (0x85, 0x85), (0xA0, 0xA0), (0x1680, 0x1680), (0x2000, 0x200A),
   (0x2028, 0x2029), (0x202F, 0x202F), (0x205F, 0x205F), (0x3000, 0x3000)]

/-- Whether a character has the property `White_Space`. -/
def isBlank (c : Char) : Bool :=
  blankRanges.any fun range => range.1 ≤ c.toNat && c.toNat ≤ range.2

def trimStart (cs : List Char) : List Char := cs.dropWhile isBlank

/-- A text without the characters of a class at its end. -/
def dropEndWhile (p : Char → Bool) (cs : List Char) : List Char :=
  (cs.reverse.dropWhile p).reverse

/-- A text without the blanks at its two ends. -/
def trim (cs : List Char) : List Char := dropEndWhile isBlank (trimStart cs)

/-- Whether a text consists of blanks only; the empty text does. -/
def isBlankText (cs : List Char) : Bool := cs.all isBlank

end ResourceApi.Text
