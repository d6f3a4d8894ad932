/-
Delivering modules to a host. A host has a query and options, may be able to keep results, and takes results either as
an answer or through a callback. All that lives from run to run is the host; the loader has no state of its own.

- `Host.config`: the configuration that a host asks for.
- `Host.run`: one module delivered.
- `Host.step`, `Host.answers`: a whole history of a host.
-/
import ResourceInliner.Inline
import ResourceInliner.Query

namespace ResourceInliner

/-- a delivery through the callback: the code, and the source map as it came -/
structure Delivery where
  code : String
  sourceMap : Option String
  deriving DecidableEq, Repr

/-- a host, with what it has been told so far -/
structure Host where
  query : String := ""
  options : Option Json := none
  canCache : Bool := false
  hasCallback : Bool := false
  /-- how often the host was told that a result may be kept -/
  cacheHints : Nat := 0
  deliveries : List Delivery := []

/-- how a module is delivered -/
inductive LoaderOutput where
  /-- as the answer -/
  | code (code : String)
  /-- through the callback -/
  | deferred
  deriving DecidableEq, Repr

namespace Host

/-- built-in defaults, then the option bag, then the query -/
def config (host : Host) : Except ConfigError Config := do
  let loader ← (Layer.ofOptions host.options).mapError .invalidOption
  let query ← Query.layer host.query
  Config.resolve loader query

/-- tell the host that the result may be kept; a host that cannot keep it says so -/
def hintCache (host : Host) : Host × List Event :=
  ({ host with cacheHints := host.cacheHints + 1 }, if host.canCache then [] else [.notCached])

/-- hand code to the host -/
def deliver (host : Host) (code : String) (sourceMap : Option String) : Host × LoaderOutput :=
  if host.hasCallback then ({ host with deliveries := host.deliveries ++ [⟨code, sourceMap⟩] }, .deferred)
  else (host, .code code)

/-- deliver one module; a wrong configuration is an error and leaves the host alone -/
def run (host : Host) (source : String) (sourceMap : Option String) (parser : Parser := Script.parse) :
    Host × Except ConfigError LoaderOutput × List Event :=
  match host.config with
  | .error error => (host, .error error, [])
  | .ok config =>
    let (code, events) := transform config source parser
    let (host, hint) := host.hintCache
    let (host, output) := host.deliver code sourceMap
    (host, .ok output, events ++ hint)

/-- a change of a host; what is not named stays -/
structure Change where
  query : Option String := none
  options : Option (Option Json) := none
  canCache : Option Bool := none
  hasCallback : Option Bool := none

/-- make a change -/
def apply (host : Host) (change : Change) : Host :=
  { host with
    query := change.query.getD host.query
    options := change.options.getD host.options
    canCache := change.canCache.getD host.canCache
    hasCallback := change.hasCallback.getD host.hasCallback }

/-- what can be asked of a host -/
inductive Step where
  | change (change : Change)
  | config
  | run (source : String) (sourceMap : Option String)

/-- the answer to a step -/
inductive Answer where
  | changed
  | config (result : Except ConfigError Config)
  | ran (result : Except ConfigError LoaderOutput)

/-- one step: the host after it, the answer, and the events on the way -/
def step (host : Host) (s : Step) (parser : Parser := Script.parse) : Host × Answer × List Event :=
  match s with
  | .change change => (host.apply change, .changed, [])
  | .config => (host, .config host.config, [])
  | .run source sourceMap =>
    let (host, result, events) := host.run source sourceMap parser
    (host, .ran result, events)

/-- the states, answers and events of a history -/
def answers (host : Host) (steps : List Step) (parser : Parser := Script.parse) : List (Host × Answer × List Event) :=
  match steps with
  | [] => []
  | s :: rest =>
    let done := host.step s parser
    done :: done.1.answers rest parser

end Host

end ResourceInliner
