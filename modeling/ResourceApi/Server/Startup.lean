import ResourceApi.Server.Directive
import ResourceApi.Settings.Basic

/-!
# Starting a server

What happens before a server answers its first client: a log is installed, once for the whole
process, and the server starts to listen. Both are recorded in the log, as far as it lets them
through.

## Main definitions

- `Log` — the log of a process
- `Log.install` — installs the log
- `Log.listen` — starts to listen
- `StartError` — why a start fails
-/

namespace ResourceApi

/-- Why a start fails. -/
inductive StartError where
  /-- The process has a log already. -/
  | logInstalled
  /-- Somebody else listens at the address. -/
  | addressInUse
deriving DecidableEq

namespace StartError

/-- What kind of failure a failed start is. -/
def kind : StartError → String
  | .logInstalled => "Internal"
  | .addressInUse => "Io"

/-- The wording of a failed start. -/
def message : StartError → String
  | .logInstalled =>
    "Internal error: failed to install tracing subscriber: "
      ++ "a global default trace dispatcher has already been set"
  | .addressInUse => "I/O error: Address already in use (os error 98)"

end StartError

/-- The log of a process. -/
structure Log where
  /-- What is let through; nothing as long as no log is installed. -/
  directives : List Directive
  /-- Whether the log is installed. -/
  installed : Bool
  /-- The events in the log, the first one first. -/
  events : List Event

namespace Log

/-- The log of a process that has none. -/
def absent : Log := ⟨[], false, []⟩

/-- Records an event, if it is let through. -/
def record (l : Log) (e : Event) : Log :=
  if Directive.admits l.directives e then { l with events := l.events ++ [e] } else l

/-- The first event of a log. -/
def opening (s : Settings) : Event :=
  ⟨.info, .journal, "Tracing initialized for service: " ++ s.process.name,
    [("environment", .text s.process.environment)]⟩

/-- Installs the log. A setting for the log that is torn crashes the process. -/
def install (l : Log) (s : Settings) : Option (Except StartError Unit × Log) :=
  (Directive.ofLevel s.process.logLevel).map fun directives =>
    -- A process has one log, and keeps the first.
    if l.installed then (.error .logInstalled, l)
    else (.ok (), record ⟨directives, true, l.events⟩ (opening s))

/-- The event of a server that is about to start. -/
def serving (s : Settings) : Event :=
  ⟨.info, .server, "serving resources",
    [("timeout_secs", .number s.process.timeoutSecs),
     ("default_per_page", .number s.resources.standardPageSize),
     ("max_per_page", .number s.resources.greatestPageSize),
     ("expose_internal_errors", .boolean s.resources.exposeFailures),
     ("service", .text s.process.name), ("environment", .text s.process.environment)]⟩

/-- The event of a server that listens. -/
def listening (s : Settings) : Event :=
  ⟨.info, .server, "listening", [("addr", .text s.address)]⟩

/-- Starts to listen, unless the address is taken. -/
def listen (l : Log) (s : Settings) (taken : Bool) : Except StartError Unit × Log :=
  let l := l.record (serving s)
  if taken then (.error .addressInUse, l) else (.ok (), l.record (listening s))

end Log

end ResourceApi
