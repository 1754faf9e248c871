/-!
# ASCII letters

Names on the wire (media types, header names, sort orders, boolean literals) are compared without
regard to the case of the letters `A`–`Z`; every other character stands for itself. Core's
`Char.toLower` is exactly that map, so nothing here knows about Unicode case.

## Main definitions

- `lower` — a text with its ASCII capitals folded
- `sameLetters` — equality up to ASCII case
- `isNameStart`, `isNamePart` — the characters of an identifier
-/

namespace ResourceApi.Text

def lower (cs : List Char) : List Char := cs.map Char.toLower

/-- Equality up to the case of ASCII letters. -/
def sameLetters (a b : List Char) : Bool := lower a == lower b

/-- An identifier starts with an ASCII letter or an underscore. -/
def isNameStart (c : Char) : Bool := c.isAlpha || c == '_'

/-- Later characters of an identifier may also be ASCII digits. -/
def isNamePart (c : Char) : Bool := c.isAlphanum || c == '_'

end ResourceApi.Text
