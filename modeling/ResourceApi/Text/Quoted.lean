import ResourceApi.Text.Hidden

/-!
# Quoted text

How a log event writes an optional text: `None`, or `Some("…")` with the text in double quotes.
Inside the quotes a quote, a backslash and the hidden characters are escaped, so that two different
texts never look alike in the log.

## Main definitions

- `quote` — a text in quotes
- `quoteOption` — an optional text
-/

namespace ResourceApi.Text

/-- The hexadecimal digits of a number, lower case, without leading zeros. -/
def hexDigits (n : Nat) : List Char := Nat.toDigits 16 n

def quoteChar (c : Char) : List Char :=
  if c == '"' then ['\\', '"']
  else if c == '\\' then ['\\', '\\']
  else if c == '\n' then ['\\', 'n']
  else if c == '\r' then ['\\', 'r']
  else if c == '\t' then ['\\', 't']
  else if c.toNat == 0 then ['\\', '0']
  else if c == ' ' then [' ']
  else if isHidden c then ['\\', 'u', '\x7b'] ++ hexDigits c.toNat ++ ['\x7d']
  else [c]

def quote (s : String) : String := String.ofList ('"' :: s.toList.flatMap quoteChar ++ ['"'])

/-- An optional text, as a log event writes it. -/
def quoteOption : Option String → String
  | none => "None"
  | some s => "Some(" ++ quote s ++ ")"

end ResourceApi.Text
