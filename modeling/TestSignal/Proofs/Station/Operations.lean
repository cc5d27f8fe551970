import Mathlib.Tactic.Choose
import TestSignal.Api
import TestSignal.Proofs.Command.Compile
import TestSignal.Proofs.Device.Discovery

namespace TestSignal

/-!
# What a station is asked to do

A station compiles, answers requests and tells of its sinks.  Everything it is asked to do
is cut here at the one place where the sinks may be needed: it prepares without them, from
its settings, its timebase, its fonts and the outside, and then it has an answer or asks for
a discovery and answers from that.  An operation that is cut so cannot look at the sinks
twice, cannot fail after it has looked, and cannot change anything but the kept discovery.

Invalidating is the one operation that is not of this form, because it forgets.
-/

namespace Station

/-! ## Operations -/

/-- What a station can be asked to do. -/
inductive Operation where
  | compile (config : RawConfig)
  /-- To check data and compile it. -/
  | compileValue (data : Value)
  /-- To answer a request of a control surface, such as a preview. -/
  | request (request : Api.Request)
  | discover
  | sinks
  /-- To list the sinks as choices for an operator. -/
  | listDevices
  | resolve (requested : Value)
  | invalidate

inductive Answer where
  | command (command : Command)
  | response (response : Api.Response)
  | discovery (found : Device.Discovery)
  | sinks (names : List String)
  | choices (devices : Value)
  | sink (name : String)
  | done

/-- An answer that is made from a discovery, which is kept. -/
def answerFrom (answer : Device.Discovery → α) (station : Station) : HostRun (α × Station) := do
  let (found, devices) ← station.devices.discover
  return (answer found, { station with devices })

/-- Carries an operation out. -/
def perform (station : Station) : Operation → HostRun (Answer × Station)
  | .compile config => do
      let (command, station) ← station.compileRaw config
      return (.command command, station)
  | .compileValue data => do
      let (command, station) ← station.compileValue data
      return (.command command, station)
  | .request request => do
      let (response, station) ← Api.handle station request
      return (.response response, station)
  | .discover => answerFrom .discovery station
  | .sinks => answerFrom (fun found => .sinks found.sinks) station
  | .listDevices => answerFrom (fun found => .choices (Device.choices found.sinks)) station
  | .resolve requested => do
      let (name, devices) ← station.devices.resolve requested
      return (.sink name, { station with devices })
  | .invalidate => pure (.done, { station with devices := station.devices.invalidate })

/-! ## Operations that are cut where sinks are needed -/

/-- What an operation sees of a station before it needs a sink. -/
structure Desk where
  settings : Settings
  timebase : Clock.Timebase
  fonts : Fonts
  fallback : String

def desk (station : Station) : Desk where
  settings := station.settings
  timebase := station.timebase
  fonts := station.fonts
  fallback := station.devices.fallback

/-- An answer, or a way to make one from a discovery. -/
inductive Reply (α : Type) where
  | plain (answer : α)
  | asking (answer : Device.Discovery → α)

/-- Gives the answer of a reply at a station. -/
def Reply.at (station : Station) : Reply α → HostRun (α × Station)
  | .plain answer => pure (answer, station)
  | .asking answer => answerFrom answer station

/-- A reply always has an answer, since a discovery always succeeds. -/
theorem Reply.exists_at (reply : Reply α) (station : Station) (host : Host) :
    ∃ answered after, reply.at station host = (.ok answered, after) := by
  cases reply with
  | plain answer => exact ⟨_, host, rfl⟩
  | asking answer =>
      rcases station.devices.exists_discover host with ⟨outcome, after, discovered⟩
      exact HostRun.exists_bind discovered ⟨_, after, rfl⟩

def Reply.map (phrase : α → β) : Reply α → Reply β
  | .plain answer => .plain (phrase answer)
  | .asking answer => .asking fun found => phrase (answer found)

/-- An operation that prepares a reply from the desk and then gives its answer. -/
def IsCut (run : Station → HostRun (α × Station)) : Prop :=
  ∃ prepare : Desk → HostRun (Reply α),
    ∀ station, run station = prepare station.desk >>= fun reply => reply.at station

namespace IsCut

variable {α β : Type}

theorem congr {run other : Station → HostRun (α × Station)} (cut : IsCut run)
    (same : ∀ station, other station = run station) : IsCut other := by
  rw [funext same]
  exact cut

theorem plain (answer : Desk → α) : IsCut fun station => pure (answer station.desk, station) := by
  refine ⟨fun desk => pure (.plain (answer desk)), fun station => ?_⟩
  rw [pure_bind]
  rfl

theorem asking (answer : Desk → Device.Discovery → α) :
    IsCut fun station => answerFrom (answer station.desk) station := by
  refine ⟨fun desk => pure (.asking (answer desk)), fun station => ?_⟩
  rw [pure_bind]
  rfl

theorem fault (fault : Fault) : IsCut fun _ : Station => (throw fault : HostRun (α × Station)) :=
  ⟨fun _ => throw fault, fun _ => rfl⟩

/-- What comes before the cut may look at the desk and outside. -/
theorem bind {first : Desk → HostRun β} {next : β → Station → HostRun (α × Station)}
    (each : ∀ value, IsCut (next value)) :
    IsCut fun station => first station.desk >>= fun value => next value station := by
  choose prepare splits using each
  refine ⟨fun desk => first desk >>= fun value => prepare value desk, fun station => ?_⟩
  rw [bind_assoc]
  exact bind_congr fun value => splits value station

/-- What comes after the cut only changes the answer. -/
theorem map {run : Station → HostRun (α × Station)} (cut : IsCut run) (phrase : α → β) :
    IsCut fun station => do
      let (answer, after) ← run station
      return (phrase answer, after) := by
  rcases cut with ⟨prepare, splits⟩
  refine ⟨fun desk => Reply.map phrase <$> prepare desk, fun station => ?_⟩
  dsimp only
  rw [splits, bind_assoc, bind_map_left]
  refine bind_congr fun reply => ?_
  cases reply with
  | plain answer => rfl
  | asking answer =>
      unfold Reply.at answerFrom
      rw [bind_assoc]
      rfl

/-- A fault comes before the cut, so one that is answered does not undo a discovery. -/
theorem attempt {run : Station → HostRun (α × Station)} (cut : IsCut run) (failure : α) :
    IsCut fun station => do
      match ← HostRun.attempt (run station) with
      | .ok answered => return answered
      | .error _ => return (failure, station) := by
  rcases cut with ⟨prepare, splits⟩
  refine ⟨fun desk => do
    match ← HostRun.attempt (prepare desk) with
    | .ok reply => return reply
    | .error _ => return .plain failure, fun station => ?_⟩
  funext host
  dsimp only
  rw [bind_assoc, Outcome.bind_run, Outcome.bind_run]
  unfold HostRun.attempt
  rw [splits, Outcome.bind_run]
  rcases prepare station.desk host with ⟨outcome, between⟩
  cases outcome with
  | error fault => rfl
  | ok reply =>
      rcases reply.exists_at station between with ⟨answered, after, given⟩
      dsimp only
      rw [given, pure_bind, given]
      rfl

end IsCut

/-! ## Compiles -/

theorem isCut_compileRaw (config : RawConfig) : IsCut fun station => station.compileRaw config := by
  refine ⟨fun desk => do
    let drafted ← Command.draft config desk.settings desk.timebase.reading desk.fonts
    return .asking fun found =>
      drafted (Device.Cache.choose found.sinks desk.fallback
        (Device.Cache.wantedName config.decklinkDevice)), fun station => ?_⟩
  dsimp only [compileRaw]
  rw [Command.compile_eq_draft]
  unfold Device.Cache.resolve
  simp only [bind_assoc, pure_bind]
  rfl

theorem isCut_compileValue (data : Value) : IsCut fun station => station.compileValue data :=
  @IsCut.bind _ _ (fun _ => HostRun.ofExcept (Config.ofValue data)) _
    fun config => isCut_compileRaw config.toRaw

/-! ## Requests -/

theorem isCut_preview (data : Value) : IsCut fun station => Api.preview station data := by
  refine @IsCut.bind _ _ (fun _ => HostRun.ofExcept (Config.ofValue data)) _ fun config => ?_
  exact (isCut_compileRaw config.toRaw).map fun command =>
    Api.Response.ofValue (.object (("success", .bool true) :: Api.commandEntries command config))

theorem isCut_submitted (request : Api.Request) :
    IsCut fun station => Api.submitted station request := by
  unfold Api.submitted
  by_cases json : (!Api.announcesJson request.contentType) = true
  · simp only [json, if_true]
    exact .plain fun _ => Api.noObject
  · by_cases long : Api.bodyLimit < request.body.length
    · simp only [json, long, if_true]
      exact .plain fun _ => Api.tooLarge
    · simp only [json, long, if_false]
      cases Json.ofBytes request.body with
      | ok value =>
          cases value with
          | object entries => exact isCut_preview (.object entries)
          | null | bool _ | number _ | string _ | list _ => exact .plain fun _ => Api.noObject
      | error fault =>
          by_cases tolerated : fault.family = .invalid
          · simp only [tolerated, if_true]
            exact .plain fun _ => Api.noObject
          · simp only [tolerated, if_false]
            exact .fault fault

/-- Of all that can be read, only the list of sinks needs a discovery. -/
theorem isCut_valueOf (resource : Api.Resource) :
    IsCut fun station => Api.valueOf station resource := by
  cases resource with
  | backgrounds => exact .plain fun _ => Catalog.backgrounds
  | animations => exact .plain fun _ => Catalog.animations
  | positions => exact .plain fun _ => Catalog.positions
  | formats => exact .plain fun _ => Catalog.formats
  | channels => exact .plain fun _ => Api.channelChoices
  | clock => exact .plain fun desk => desk.timebase.toValue
  | sinks => exact .asking fun _ => Api.sinksValue
  | preview => exact .plain fun _ => Value.null
  | file => exact .plain fun _ => Value.null

theorem isCut_action (request : Api.Request) (resource : Api.Resource) (action : Api.Action) :
    IsCut fun station => Api.perform station request resource action := by
  cases action with
  | read =>
      exact (isCut_valueOf resource).map fun value =>
        if resource = .file then Api.Response.empty 404 else .ofValue value
  | probe =>
      exact (isCut_valueOf resource).map fun _ =>
        Api.Response.empty (if resource = .file then 404 else 200)
  | submit => exact isCut_submitted request
  | inquire => exact .plain fun _ => Api.Response.empty 200
  | other => exact .plain fun _ => Api.Response.empty 405

theorem isCut_answer (request : Api.Request) (target : Target) :
    IsCut fun station => Api.answer station request target := by
  unfold Api.answer
  by_cases good : (!target.hasGoodHost) = true
  · simp only [good, if_true]
    exact .plain fun _ => Api.Response.empty 400
  · simp only [good]
    cases Api.Route.ofPath target.path with
    | missing => exact .plain fun _ => Api.Response.empty 404
    | moved resource =>
        exact .plain fun _ =>
          Api.Response.empty
            (if (Api.Action.ofMethod request.method).allowedOn resource then 308 else 405)
    | found resource =>
        by_cases allowed : (Api.Action.ofMethod request.method).allowedOn resource = true
        · simp only [allowed, if_true]
          exact isCut_action request resource _
        · simp only [allowed]
          exact .plain fun _ => Api.Response.empty 405

theorem isCut_handle (request : Api.Request) :
    IsCut fun station => Api.handle station request := by
  refine @IsCut.bind _ _ (fun _ => HostRun.ofExcept (Api.targetOf request)) _ fun target => ?_
  refine ((isCut_answer request target).attempt (Api.Response.empty 500)).congr fun station => ?_
  refine bind_congr fun outcome => ?_
  cases outcome <;> rfl

/-! ## All operations -/

theorem isCut_resolve (requested : Value) : IsCut fun station => do
    let (name, devices) ← station.devices.resolve requested
    return (Answer.sink name, { station with devices }) := by
  refine ⟨fun desk => pure (.asking fun found =>
    .sink (Device.Cache.choose found.sinks desk.fallback (Device.Cache.wantedName requested))),
    fun station => ?_⟩
  unfold Device.Cache.resolve
  simp only [bind_assoc, pure_bind]
  rfl

/-- Whatever a station is asked to do but to forget, it needs the sinks at one place at most. -/
theorem isCut_perform {operation : Operation} (keeps : operation ≠ .invalidate) :
    IsCut fun station => station.perform operation := by
  cases operation with
  | compile config => exact (isCut_compileRaw config).map Answer.command
  | compileValue data => exact (isCut_compileValue data).map Answer.command
  | request request => exact (isCut_handle request).map Answer.response
  | discover => exact .asking fun _ => Answer.discovery
  | sinks => exact .asking fun _ found => Answer.sinks found.sinks
  | listDevices => exact .asking fun _ found => Answer.choices (Device.choices found.sinks)
  | resolve requested => exact isCut_resolve requested
  | invalidate => exact absurd rfl keeps

end Station

end TestSignal
