import ResourceApi.Resource.Service
import ResourceApi.Settings.Variable
import ResourceApi.Toml.Document

/-!
# Settings

What a service is told when it starts: its name, where it listens, how much it logs, how long a
request may take, and how its resources are presented. Settings come from files and from the
environment, each setting from the strongest source that has it.

## Main definitions

- `Settings` — the settings of a service
- `Settings.standard` — the settings where no source says anything
- `Settings.tree`, `Settings.ofTree` — settings as a source, and settings from a source
- `SettingsPlace` — the places of settings files
- `Settings.load` — the settings for a service

## Design notes

A service either gets all its settings or does not start. Why a source is refused is not kept.
-/

namespace ResourceApi

/-- The settings of the process. -/
structure ProcessSettings where
  name : String
  tcpPort : Nat
  logLevel : String
  /-- The seconds after which a request is given up. -/
  timeoutSecs : Nat
  /-- Where the service runs, for the log. -/
  environment : String
deriving DecidableEq

/-- The settings of every resource. -/
structure ResourceSettings where
  /-- The size of a page when none is asked for. -/
  standardPageSize : Nat
  greatestPageSize : Nat
  /-- Whether clients are told of failures inside the service. -/
  exposeFailures : Bool
deriving DecidableEq

/-- The settings of a service. -/
structure Settings where
  process : ProcessSettings
  resources : ResourceSettings
deriving DecidableEq

/-- The places of settings files. -/
inductive SettingsPlace where
  /-- The directory in which the service is started. -/
  | working
  | user
  | machine
deriving DecidableEq

/-- The places of settings files, strongest first. -/
def SettingsPlace.all : List SettingsPlace := [.working, .user, .machine]

namespace Settings

/-- The name of a service that gives none. -/
def standardName : String := "acton-crud"

/-- The settings where no source says anything. -/
def standard (name : String) : Settings where
  process := ⟨name, 8080, "info", 30, "dev"⟩
  resources := ⟨PageLimits.usual.standard, PageLimits.usual.greatest, false⟩

def tree (s : Settings) : Tree :=
  .table
    [("service", .table
      [("name", .text s.process.name), ("port", .integer s.process.tcpPort),
       ("log_level", .text s.process.logLevel), ("timeout_secs", .integer s.process.timeoutSecs),
       ("environment", .text s.process.environment)]),
     ("resources", .table
      [("default_per_page", .integer s.resources.standardPageSize),
       ("max_per_page", .integer s.resources.greatestPageSize),
       ("expose_internal_errors", .boolean s.resources.exposeFailures)])]

/-- A part of a source by its name, or by its position where the source is a list. -/
def part (t : Tree) (position : Nat) (name : String) : Option (Option Tree) :=
  match t with
  | .table entries => some (entries.lookup name)
  | .list items => some items[position]?
  | _ => none

/-- The value of a part, or a standard value if the part is missing. -/
def valueOr {α : Type} (standard : α) (value? : Tree → Option α) : Option Tree → Option α
  | none => some standard
  | some t => value? t

def text? : Tree → Option String
  | .text s => some s
  | _ => none

def boolean? : Tree → Option Bool
  | .boolean b => some b
  | _ => none

/-- A number from zero to a limit. -/
def number? (limit : Nat) : Tree → Option Nat
  | .integer n => if 0 ≤ n ∧ n ≤ limit then some n.toNat else none
  | _ => none

def maxTcpPort : Nat := 0xFFFF

def maxSeconds : Nat := Number.maxUInt64

/-- The settings of the process. -/
def processOf (t : Tree) : Option ProcessSettings := do
  let usual := (standard standardName).process
  -- The name is the only setting that has to be given.
  let name ← (← part t 0 "name").bind text?
  let tcpPort ← valueOr usual.tcpPort (number? maxTcpPort) (← part t 1 "port")
  let logLevel ← valueOr usual.logLevel text? (← part t 2 "log_level")
  let timeoutSecs ← valueOr usual.timeoutSecs (number? maxSeconds) (← part t 3 "timeout_secs")
  let environment ← valueOr usual.environment text? (← part t 4 "environment")
  some ⟨name, tcpPort, logLevel, timeoutSecs, environment⟩

def resourcesOf (t : Tree) : Option ResourceSettings := do
  let usual := (standard standardName).resources
  let size? := number? Number.maxUInt32
  let size ← valueOr usual.standardPageSize size? (← part t 0 "default_per_page")
  let greatest ← valueOr usual.greatestPageSize size? (← part t 1 "max_per_page")
  let expose ← valueOr usual.exposeFailures boolean? (← part t 2 "expose_internal_errors")
  some ⟨size, greatest, expose⟩

/-- The settings that a source holds. -/
def ofTree (t : Tree) : Option Settings := do
  let process ← processOf (← (← part t 0 "service"))
  let resources ← valueOr (standard standardName).resources resourcesOf (← part t 1 "resources")
  some ⟨process, resources⟩

/-- The source that a settings file with a text is. -/
def ofFile (text : String) : Option Tree := do
  match ← Toml.read text with
  | .table entries => (Tree.unboxEntries entries).map .table
  | t => t.unbox

/-- The settings for a service whose settings files hold the given texts, weakest first. -/
def combine (name : String) (files : List String) (environment : List (String × String)) :
    Option Settings := do
  let sources ← files.mapM ofFile
  -- The environment is stronger than every file.
  ofTree ((sources.foldl Tree.layer (standard name).tree).layer (Variable.tree environment))

/-- The settings for a service, given what is found at the places of settings files. -/
def load (name : String) (file : SettingsPlace → Option String)
    (environment : List (String × String)) : Option Settings :=
  combine name (SettingsPlace.all.reverse.filterMap file) environment

/-- The settings that one file and the environment give. -/
def loadFile (file : Option String) (environment : List (String × String)) : Option Settings :=
  combine standardName file.toList environment

/-- The name of a program without the ending of its file. -/
def programName (file : String) : String :=
  match Text.cut '.' file.toList.reverse with
  | some (_, stem) => if stem.isEmpty then file else String.ofList stem.reverse
  | none => file

def address (s : Settings) : String := "0.0.0.0:" ++ Number.decimal s.process.tcpPort

def options (s : Settings) : Options :=
  ⟨none, s.resources.standardPageSize, s.resources.greatestPageSize, s.resources.exposeFailures⟩

end Settings

end ResourceApi
