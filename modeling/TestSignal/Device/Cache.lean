import TestSignal.Device.Listing
import TestSignal.Value

namespace TestSignal

namespace Device

/-!
# Finding and choosing a sink

The sinks are discovered when they are first needed, and the outcome is kept
until it is invalidated.  A discovery that fails, or finds nothing, leaves the
one sink that the installation's default device has.

A requested name chooses the sink that has it, else the first sink that begins
with it, else it is used as it is, since a card may be absent at the moment.
-/

/-- What a discovery found; there is always at least one sink. -/
structure Discovery where
  sinks : List String
  ok : Bool
  error : Option String
  deriving DecidableEq

/-- Where the names of the sinks come from. -/
inductive SinkSource where
  /-- The engine is asked. -/
  | engine
  /-- They are found in another way, for the path of the engine. -/
  | custom (query : String → HostRun (List String))

/-- Names that are known without asking. -/
def SinkSource.known (names : List String) : SinkSource := .custom fun _ => pure names

structure Cache where
  enginePath : String := "ffmpeg"
  defaultName : String := "UltraStudio Mini Monitor"
  source : SinkSource := .engine
  outcome : Option Discovery := none

namespace Cache

/-- The first sink of the default device. -/
def fallback (cache : Cache) : String := cache.defaultName ++ " (1)"

def query (cache : Cache) : HostRun (List String) :=
  match cache.source with
  | .engine => listSinks cache.enginePath "decklink"
  | .custom query => query cache.enginePath

/-- The outcome of a query, and the line that is logged about it. -/
def judge (fallback : String) : Except Fault (List String) → Discovery × LogLevel × String
  | .error fault =>
      ({ sinks := [fallback], ok := false, error := some fault.message }, .warning,
        "DeckLink sink discovery failed, using " ++ Text.quoted fallback ++ ": " ++
          fault.message)
  | .ok [] =>
      ({ sinks := [fallback], ok := false, error := some "no sinks reported" }, .warning,
        "No DeckLink sinks reported, using " ++ Text.quoted fallback)
  | .ok names =>
      ({ sinks := names, ok := true, error := none }, .info,
        "Discovered DeckLink sinks: " ++ String.intercalate ", " names)

/-- The discovery that is kept, or a new one that is kept from now on. -/
def discover (cache : Cache) : HostRun (Discovery × Cache) :=
  match cache.outcome with
  | some known => pure (known, cache)
  | none => do
      let (found, level, text) := judge cache.fallback (← HostRun.attempt cache.query)
      HostRun.logLine level .devices text
      return (found, { cache with outcome := some found })

/-- Forgets the discovery. -/
def invalidate (cache : Cache) : Cache := { cache with outcome := none }

/-- The requested name without blanks around it, empty if no text is requested. -/
def wantedName (requested : Value) : String :=
  match requested with
  | .string text => Text.trim text
  | _ => ""

/-- The sink for a wanted name among the discovered ones. -/
def choose (sinks : List String) (fallback wanted : String) : String :=
  if wanted.isEmpty then sinks.head?.getD fallback
  else if wanted ∈ sinks then wanted
  else (sinks.find? fun name => wanted.toList.isPrefixOf name.toList).getD wanted

/-- The sink for a request. -/
def resolve (cache : Cache) (requested : Value) : HostRun (String × Cache) := do
  let (found, after) ← cache.discover
  return (choose found.sinks cache.fallback (wantedName requested), after)

end Cache

/-- The sinks as choices for an operator. -/
def choices (sinks : List String) : Value :=
  .list (sinks.map fun name => .object [("id", .string name), ("name", .string name)])

end Device

end TestSignal
