import ResourceApi.Http.Message
import ResourceApi.Http.Pattern
import ResourceApi.Resource.Service

/-!
# Routes

Where a resource is found: its entities as a collection at a base, and each entity one segment
below. Messages to other paths and with other methods never reach the resource.

## Main definitions

- `Routes` — a service and the pattern of its base
- `MountError`, `Service.mount` — the service at a base, and why there is none
- `Place`, `Routes.place?` — what a path stands for
- `Routes.dispatch` — what a message asks the service for
- `Routes.respond` — the response to a message

## Design notes

The base may have parameters of its own. The collection does not look at them. A member takes
exactly one parameter, so below such a base no request reaches a member, unless all parameters of
the base have names that start with one of `reservedNames`. Such parameters do not count.
-/

namespace ResourceApi

/-- What a path stands for. -/
inductive Place where
  | collection
  /-- An entity, with the parameters that name it. -/
  | member (parameters : List (List Char × List Char))
deriving DecidableEq

/-- What becomes of a message. -/
inductive Dispatch where
  | request (request : Request)
  | settled (response : Response)
  /-- It asks for an operation on something that is no integer. -/
  | unidentified (operation : Operation) (raw : String)

def collectionOperation? (method : String) : Option Operation :=
  if method == "GET" || method == "HEAD" then some .list
  else if method == "POST" then some .create
  else none

def memberOperation? (method : String) : Option Operation :=
  if method == "GET" || method == "HEAD" then some .get
  else if method == "PUT" then some .update
  else if method == "PATCH" then some .updatePartial
  else if method == "DELETE" then some .delete
  else none

namespace Response

def nowhere : Response := bare 404

def notAllowed (methods : String) : Response := { bare 405 with allow := some methods }

def aboutPath (status : Nat) (text : String) : Response :=
  { bare status with
    contentType := some "text/plain; charset=utf-8"
    body := Text.utf8 text }

/-- A parameter of a path is not text. -/
def unreadablePath (name : List Char) : Response :=
  aboutPath 400 ("Invalid URL: Invalid UTF-8 in `" ++ String.ofList name ++ "`")

/-- A path has a number of parameters other than one. -/
def parameterMismatch (count : Nat) : Response :=
  aboutPath 500
    ("Wrong number of path arguments for `Path`. Expected 1 but got " ++ Number.decimal count
      ++ ". Note that multiple parameters must be extracted with a tuple `Path<(_, _)>` "
      ++ "or a struct `Path<YourParams>`")

def withoutBody (r : Response) : Response := { r with body := [] }

end Response

/-- A path with one slash in front and none behind. -/
def basePath (path : String) : String :=
  String.ofList ('/' :: Text.dropEndWhile (· == '/') (path.toList.dropWhile (· == '/')))

/-- Why nothing can be mounted at a base. -/
inductive MountError where
  | fault (base : String) (fault : Pattern.Fault)
  /-- The base takes the paths of all members for itself. -/
  | taken (base : String) (pattern : Pattern)
deriving DecidableEq

namespace MountError

/-- The wording for a pattern that cannot be used. -/
def invalid (pattern reason : String) : String :=
  "Invalid route " ++ Text.quote pattern ++ ": " ++ reason

def message : MountError → String
  | .fault _ .colon =>
    "Path segments must not start with `:`. For capture groups, use `\x7bcapture\x7d`. "
      ++ "If you meant to literally match a segment starting with a colon, "
      ++ "call `without_v07_checks` on the router."
  | .fault _ .asterisk =>
    "Path segments must not start with `*`. For wildcard capture, use `\x7b*wildcard\x7d`. "
      ++ "If you meant to literally match a segment starting with an asterisk, "
      ++ "call `without_v07_checks` on the router."
  | .fault base .unnamed => invalid base "Parameters must be registered with a valid name"
  | .fault base .crowded => invalid base "Only one parameter is allowed per path segment"
  | .fault base .trailing =>
    invalid base "Catch-all parameters are only allowed at the end of a route"
  | .fault _ .excess => "Too many route parameters."
  | .taken base pattern =>
    invalid (base ++ "/\x7bid\x7d")
      ("Insertion failed due to conflict with previously registered route: "
        ++ String.ofList pattern.shown)

end MountError

/-- A service and the pattern of its base. -/
structure Routes (E D : Type) where
  service : Service E D
  base : Pattern

def Service.mount {E D : Type} (s : Service E D) (path : String) :
    Except MountError (Routes E D) :=
  let base := basePath path
  match Pattern.read base.toList with
  | .error fault => .error (.fault base fault)
  | .ok pattern =>
    if Pattern.maxParameters ≤ Pattern.parameterCount pattern then .error (.fault base .excess)
    else if Pattern.hasRemainder pattern then .error (.taken base pattern)
    else .ok ⟨{ s with options := { s.options with basePath := some base } }, pattern⟩

namespace Routes

variable {E D : Type}

def members (r : Routes E D) : Pattern := r.base ++ [.text ['/'], .parameter "id".toList]

def place? (r : Routes E D) (path : List Char) : Option Place :=
  match Pattern.capture r.base path with
  | some _ => some .collection
  | none => (Pattern.capture r.members path).map .member

def requestFor (operation : Operation) (id : Int) (m : Message) : Request :=
  match operation with
  | .list => .list m.pairs m.accept
  | .get => .get id m.accept
  | .create => .create m.body m.accept
  | .update => .update id m.body
  | .updatePartial => .updatePartial id m.body
  | .delete => .delete id

/-- How the names of the parameters start that a member does not take. -/
def reservedNames : List String :=
  ["__private__axum_nest_tail_param", "__private__axum_fallback"]

/-- Whether a member does not take a parameter, whatever its value is. -/
def isReserved (parameter : List Char × List Char) : Bool :=
  reservedNames.any fun name => name.toList.isPrefixOf parameter.1

def decode (parameter : List Char × List Char) : Except (List Char) String :=
  match Text.ofUtf8? (Text.percentDecode (Text.utf8 (String.ofList parameter.2))) with
  | some text => .ok text
  | none => .error parameter.1

/-- What becomes of a message to a member. Its parameters that are not reserved are decoded, there
has to be one of them, and it has to be an integer. -/
def dispatchMember (parameters : List (List Char × List Char)) (m : Message) : Dispatch :=
  match memberOperation? m.method with
  | none => .settled (.notAllowed "GET,HEAD,PUT,PATCH,DELETE")
  | some operation =>
    match (parameters.filter fun parameter => !isReserved parameter).mapM decode with
    | .error name => .settled (.unreadablePath name)
    | .ok [raw] =>
      match Number.readInt64 raw.toList with
      | some id => .request (requestFor operation id m)
      | none => .unidentified operation raw
    | .ok texts => .settled (.parameterMismatch texts.length)

def dispatch (r : Routes E D) (m : Message) : Dispatch :=
  match r.place? m.path with
  | none => .settled .nowhere
  | some .collection =>
    match collectionOperation? m.method with
    | none => .settled (.notAllowed "GET,HEAD,POST")
    | some operation => .request (requestFor operation 0 m)
  | some (.member parameters) => dispatchMember parameters m

def refuse (p : Problem) : Script E Response := do
  Script.emit p.event
  pure (.ofProblem p)

/-- The response to a request. -/
def serve (r : Routes E D) (request : Request) : Script E Response := do
  match ← (r.service.handle request).attempt with
  | .ok (.ok grant) => pure (.ofGrant grant)
  | .ok (.error problem) => refuse problem
  | .error message =>
    -- A crash is a failure inside the service that nobody is told of.
    refuse (.internal request.operation ("worker task failed: " ++ message))

/-- The response to a message, before the body is taken away from an answer to `HEAD`. -/
def answer (r : Routes E D) (m : Message) : Script E Response :=
  match r.dispatch m with
  | .settled response => pure response
  | .unidentified operation raw => do
    Script.emit ⟨.debug, .routes, "identifier is not an integer",
      [("operation", .text operation.name), ("id", .text raw)]⟩
    refuse (.invalidIdentifier operation raw)
  | .request request => r.serve request

def respond (r : Routes E D) (m : Message) : Script E Response := do
  let response ← r.answer m
  pure (if m.method == "HEAD" then response.withoutBody else response)

end Routes

end ResourceApi
