import TestSignal.Catalog
import TestSignal.Json.Reader
import TestSignal.Station
import TestSignal.Target.Reference

namespace TestSignal

namespace Api

/-!
# The control API

A control surface reads its menus, the devices and the state of the clock, and
previews the command for a configuration.  A request is answered by a status and,
where there is something to say, by a JSON value.  Nothing that a request asks for
stops the service: a fault of a preview is answered by a status of its own, and
what it has done outside stays done.  Only what is no request at all, by its
target or its header, is a fault.
-/

structure Request where
  method : String
  /-- What is requested: a path, perhaps with a query after it. -/
  target : String
  contentType : String
  body : List Nat

structure Response where
  status : Nat
  /-- The JSON value, unless the answer is something else or empty. -/
  body : Option Value := none

namespace Response

def ofValue (value : Value) (status : Nat := 200) : Response := { status, body := some value }

def empty (status : Nat) : Response := { status }

end Response

/-! ## Resources -/

/-- What can be requested. -/
inductive Resource where
  | backgrounds
  | animations
  | positions
  | formats
  | sinks
  | channels
  | clock
  | preview
  /-- A file that is handed out as it is, of which there are none. -/
  | file
  deriving DecidableEq

namespace Resource

/-- The resources by path; texts, logos and overlays have the same positions. -/
def paths : List (String × Resource) :=
  [ ("/api/backgrounds", backgrounds),
    ("/api/animations", animations),
    ("/api/text-positions", positions),
    ("/api/logo-positions", positions),
    ("/api/overlay-positions", positions),
    ("/api/video-formats", formats),
    ("/api/decklink-sinks", sinks),
    ("/api/audio-channels", channels),
    ("/api/clock-sync", clock),
    ("/api/preview", preview) ]

/-- Whether a path names a file: by a text on one line that begins with no slash. -/
def isFilePath (path : List Char) : Bool :=
  let start := "/static/".toList
  start.isPrefixOf path &&
    match path.drop start.length with
    | first :: rest => first != '/' && !rest.contains '\n'
    | [] => false

def ofPath? (path : List Char) : Option Resource :=
  (paths.lookup (String.ofList path)).orElse fun _ =>
    if isFilePath path then some file else none

end Resource

/-- What a request wants to do with a resource. -/
inductive Action where
  /-- To read it. -/
  | read
  /-- To read it without its body. -/
  | probe
  /-- To submit data to it. -/
  | submit
  /-- To ask which actions it has. -/
  | inquire
  | other
  deriving DecidableEq

namespace Action

/-- The capital letters of a letter that a method can be written with. -/
def capitals (c : Char) : List Char :=
  if c.toNat = 0x131 then ['I']
  else if c.toNat = 0x17F then ['S']
  else if c.toNat = 0xFB05 || c.toNat = 0xFB06 then ['S', 'T']
  else [c.toUpper]

/-- The action that a method names in any case; only the exact word asks for no body. -/
def ofMethod (method : String) : Action :=
  let word := String.ofList (method.toList.flatMap capitals)
  if word = "GET" then read
  else if word = "HEAD" then (if method = "HEAD" then probe else read)
  else if word = "POST" then submit
  else if word = "OPTIONS" then inquire
  else other

/-- A preview is submitted to, every other resource is read. -/
def allowedOn (resource : Resource) : Action → Bool
  | read | probe => resource != .preview
  | submit => resource == .preview
  | inquire => true
  | other => false

end Action

/-! ## Routes -/

/-- Where a target leads. -/
inductive Route where
  | found (resource : Resource)
  /-- It would lead to a resource with fewer slashes. -/
  | moved (resource : Resource)
  | missing
  deriving DecidableEq

def Route.ofPath (path : List Char) : Route :=
  match Resource.ofPath? path with
  | some resource => .found resource
  | none =>
      match Resource.ofPath? (Target.mergeSlashes path) with
      | some resource => .moved resource
      | none => .missing

/-! ## Reading resources -/

/-- The channel slots as choices, counted from zero and labelled from one. -/
def channelChoices : Value :=
  .list ((List.range channelSlots).map fun (index : Nat) =>
    .object [("id", .int index), ("label", .string ("Channel " ++ toString (index + 1)))])

def sinksValue (found : Device.Discovery) : Value :=
  .object
    [ ("devices", Device.choices found.sinks), ("ok", .bool found.ok),
      ("error", .optionalString found.error) ]

/-- The value of a resource that is read; a preview and a file have none. -/
def valueOf (station : Station) : Resource → HostRun (Value × Station)
  | .backgrounds => pure (Catalog.backgrounds, station)
  | .animations => pure (Catalog.animations, station)
  | .positions => pure (Catalog.positions, station)
  | .formats => pure (Catalog.formats, station)
  | .channels => pure (channelChoices, station)
  | .clock => pure (station.timebase.toValue, station)
  | .sinks => do
      let (found, devices) ← station.devices.discover
      return (sinksValue found, { station with devices })
  | .preview | .file => pure (.null, station)

/-! ## Previews -/

/-- The most bytes that a body may have. -/
def bodyLimit : Nat := 1024 * 1024

/-- Whether a text ends in another. -/
def endsIn (ending text : List Char) : Bool := ending.reverse.isPrefixOf text.reverse

def isSpaceOrTab (c : Char) : Bool := c == ' ' || c == '\t'

/-- Whether a content type announces JSON; parameters after a semicolon do not count. -/
def announcesJson (contentType : String) : Bool :=
  let name :=
    (Text.trimBy isSpaceOrTab (contentType.toList.takeWhile (· != ';'))).map Char.toLower
  name == "application/json".toList ||
    ("application/".toList.isPrefixOf name && endsIn "+json".toList name)

def tooLarge : Response :=
  .ofValue (.object [("error", .string "Request too large")]) 413

def noObject : Response :=
  .ofValue
    (.object [("success", .bool false), ("error", .string "Expected a JSON object")]) 400

/-- What a compile says of its command: the line, the arguments, the graph, the configuration. -/
def commandEntries (command : Command) (config : Config) : List (String × Value) :=
  [ ("command", .string command.line),
    ("args", .list (command.args.map .string)),
    ("filter_graph", .string command.graph.render),
    ("config", config.toValue) ]

def preview (station : Station) (data : Value) : HostRun (Response × Station) := do
  let config ← HostRun.ofExcept (Config.ofValue data)
  let (command, station) ← station.compile config
  let entries := ("success", .bool true) :: commandEntries command config
  return (.ofValue (.object entries), station)

/--
A preview of a submitted body.  A body that is not announced as JSON is not even
measured, and one that holds no JSON object is refused; one that holds JSON beyond
what can be read is a fault.
-/
def submitted (station : Station) (request : Request) : HostRun (Response × Station) :=
  if !announcesJson request.contentType then pure (noObject, station)
  else if bodyLimit < request.body.length then pure (tooLarge, station)
  else
    match Json.ofBytes request.body with
    | .ok (.object entries) => preview station (.object entries)
    | .ok _ => pure (noObject, station)
    | .error fault =>
        if fault.family = .invalid then pure (noObject, station) else throw fault

/-! ## Answering -/

/-- The answer to an action that a resource allows. -/
def perform (station : Station) (request : Request) (resource : Resource) :
    Action → HostRun (Response × Station)
  | .read => do
      let (value, station) ← valueOf station resource
      return (if resource = .file then .empty 404 else .ofValue value, station)
  | .probe => do
      let (_, station) ← valueOf station resource
      return (.empty (if resource = .file then 404 else 200), station)
  | .submit => submitted station request
  | .inquire => pure (.empty 200, station)
  | .other => pure (.empty 405, station)

/-- The answer to a request for a target, or the fault of its preview. -/
def answer (station : Station) (request : Request) (target : Target) :
    HostRun (Response × Station) :=
  let action := Action.ofMethod request.method
  if !target.hasGoodHost then pure (.empty 400, station)
  else
    match Route.ofPath target.path with
    | .missing => pure (.empty 404, station)
    | .moved resource =>
        pure (.empty (if action.allowedOn resource then 308 else 405), station)
    | .found resource =>
        if action.allowedOn resource then perform station request resource action
        else pure (.empty 405, station)

def isLineEnd (c : Char) : Bool := c == '\n' || c == '\r'

/-- What a request asks for, or why it is none. -/
def targetOf (request : Request) : Except Fault Target := do
  let target ← (Target.ofText request.target).mapError Fault.targetFlaw
  if request.contentType.toList.any isLineEnd then throw .lineEndInHeader
  return target

/-- The answer to a request; the fault of an answer becomes a status. -/
def handle (station : Station) (request : Request) : HostRun (Response × Station) := do
  let target ← HostRun.ofExcept (targetOf request)
  match ← HostRun.attempt (answer station request target) with
  | .ok answered => return answered
  | .error _ => return (.empty 500, station)

end Api

end TestSignal
