import ResourceApi.Number.Digits

/-!
# Log events

What the service records about its work: a level, the part that speaks, a message, and named data.

## Main definitions

- `Level` — how grave an event is
- `Part` — the parts of the service that speak
- `Datum` — a recorded value
- `Event` — an event
-/

namespace ResourceApi

/-- How grave an event is. -/
inductive Level where
  /-- Details for developers. -/
  | debug
  /-- The ordinary course of things. -/
  | info
  /-- A refused request or an unusual course. -/
  | warn
  /-- A failure inside the service. -/
  | error
deriving DecidableEq

namespace Level

def name : Level → String
  | .debug => "DEBUG"
  | .info => "INFO"
  | .warn => "WARN"
  | .error => "ERROR"

/-- How much is recorded when this level is let through: the graver, the less. -/
def verbosity : Level → Nat
  | .error => 1
  | .warn => 2
  | .info => 3
  | .debug => 4

end Level

/-- A part of the service that speaks. -/
inductive Part where
  | settings
  | journal
  | server
  | routes
  | requests
  | problems
  | scopes
deriving DecidableEq

/-- The name by which log directives know a part. -/
def Part.target : Part → String
  | .settings => "acton_crud::config"
  | .journal => "acton_crud::observability"
  | .server => "acton_crud::server"
  | .routes => "acton_crud::router"
  | .requests => "acton_crud::handlers::orchestrator"
  | .problems => "acton_crud::handlers::error"
  | .scopes => "acton_crud::transaction"

/-- A recorded value. -/
inductive Datum where
  | text (s : String)
  | number (n : Int)
  | boolean (b : Bool)
deriving DecidableEq

def Datum.print : Datum → String
  | .text s => s
  | .number n => Number.decimal n
  | .boolean b => if b then "true" else "false"

/-- A log event. -/
structure Event where
  level : Level
  part : Part
  message : String
  data : List (String × Datum)
deriving DecidableEq

end ResourceApi
