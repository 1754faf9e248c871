import ResourceApi.Http.Target
import ResourceApi.Text.Ascii
import ResourceApi.Text.Percent

/-!
# Messages

A message of a client: a method, a target, headers and a body.

## Main definitions

- `Message` — what a client sends
- `Message.path`, `Message.pairs` — what the target says
- `Message.accept` — the media types that the client prefers
-/

namespace ResourceApi

/-- What a client sends. -/
structure Message where
  method : String
  target : String
  /-- The headers in order, with one character for each byte of a value. -/
  headers : List (String × String)
  body : Bytes

namespace Message

def path (m : Message) : List Char := (Target.read m.target.toList).path

def pairs (m : Message) : List (String × String) :=
  match (Target.read m.target.toList).query with
  | some query => Text.formPairs (Text.utf8 (String.ofList query))
  | none => []

/-- Whether a header value is a text: it shows ASCII characters, blanks and tabs only. -/
def isReadable (value : String) : Bool :=
  value.toList.all fun c => c == '\t' || (32 ≤ c.toNat && c.toNat < 127)

/-- The readable values of a header. Header names are compared without regard to case. -/
def values (m : Message) (name : String) : List String :=
  (m.headers.filter fun header =>
    Text.sameLetters header.1.toList name.toList && isReadable header.2).map Prod.snd

/-- The media types that the client prefers. -/
def accept (m : Message) : Option String :=
  match m.values "accept" with
  | [] => none
  -- Several lines are one list.
  | values => some (String.intercalate ", " values)

end Message

end ResourceApi
