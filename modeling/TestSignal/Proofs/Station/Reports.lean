import TestSignal.Proofs.Station.Operations

namespace TestSignal

open Device (Discovery)

/-!
# What a station says of its sinks

An operation that needs the sinks makes its answer of a discovery: it hands the discovery out,
lists its sinks, or picks one of them.  Compiles, and requests for previews, need a sink when
they have come to a command.  No other answer tells of the sinks.

At a station that has kept no discovery, an operation either answers from one that is kept from
then on, or it answers without the sinks and leaves the station as it is.
-/

namespace Api

/-- A request that leads to a resource. -/
def LeadsTo (request : Request) (resource : Resource) : Prop :=
  ∃ target, targetOf request = .ok target ∧ target.hasGoodHost = true ∧
    Route.ofPath target.path = .found resource

/-- A request for the list of sinks, with its body or without. -/
def AsksSinks (request : Request) : Prop :=
  LeadsTo request .sinks ∧
    (Action.ofMethod request.method = .read ∨ Action.ofMethod request.method = .probe)

/-- A request for a preview. -/
def Submits (request : Request) : Prop :=
  LeadsTo request .preview ∧ Action.ofMethod request.method = .submit

theorem leadsTo_iff {request : Request} {target : Target} (read : targetOf request = .ok target)
    (resource : Resource) : LeadsTo request resource ↔
      target.hasGoodHost = true ∧ Route.ofPath target.path = .found resource := by
  constructor
  · rintro ⟨other, again, leads⟩
    cases Except.ok.inj (read.symm.trans again)
    exact leads
  · exact fun leads => ⟨target, read, leads⟩

variable {request : Request}

/-- Only a request that leads to the list of sinks asks for it. -/
theorem not_asksSinks_of_route {target : Target} (read : targetOf request = .ok target)
    (elsewhere : Route.ofPath target.path ≠ .found .sinks) : ¬AsksSinks request :=
  fun asks => elsewhere ((leadsTo_iff read _).mp asks.1).2

/-- Only a request that reads asks for the list of sinks. -/
theorem not_asksSinks_of_action
    (other : Action.ofMethod request.method ≠ .read ∧ Action.ofMethod request.method ≠ .probe) :
    ¬AsksSinks request :=
  fun asks => asks.2.elim other.1 other.2

/-- A request for the list of sinks is allowed. -/
theorem AsksSinks.allowed (asks : AsksSinks request) :
    (Action.ofMethod request.method).allowedOn .sinks = true := by
  rcases asks.2 with reads | probes
  · rw [reads]
    rfl
  · rw [probes]
    rfl

end Api

/-- A command that puts its output out at a device. -/
structure Command.IsFor (command : Command) (device : String) : Prop where
  chosen : command.device = device
  last : command.args.getLast? = some device

namespace Station

/-! ## The answers -/

/-- The sink for a request, when the sinks are as discovered. -/
def sinkFor (desk : Desk) (found : Discovery) (requested : Value) : String :=
  Device.Cache.choose found.sinks desk.fallback (Device.Cache.wantedName requested)

/-- The answer of an operation that needs the sinks, when they are as discovered. -/
inductive Reports (desk : Desk) (found : Discovery) : Operation → Answer → Prop where
  | discover : Reports desk found .discover (.discovery found)
  | sinks : Reports desk found .sinks (.sinks found.sinks)
  | listDevices : Reports desk found .listDevices (.choices (Device.choices found.sinks))
  | resolve {requested : Value} :
      Reports desk found (.resolve requested) (.sink (sinkFor desk found requested))
  | compile {config : RawConfig} {command : Command}
      (isFor : command.IsFor (sinkFor desk found config.decklinkDevice)) :
      Reports desk found (.compile config) (.command command)
  | compileValue {data : Value} {config : Config} {command : Command}
      (checked : Config.ofValue data = .ok config)
      (isFor : command.IsFor (sinkFor desk found config.toRaw.decklinkDevice)) :
      Reports desk found (.compileValue data) (.command command)
  | listing {request : Api.Request} (leads : Api.LeadsTo request .sinks)
      (reads : Api.Action.ofMethod request.method = .read) :
      Reports desk found (.request request) (.response (.ofValue (Api.sinksValue found)))
  | probe {request : Api.Request} (leads : Api.LeadsTo request .sinks)
      (probes : Api.Action.ofMethod request.method = .probe) :
      Reports desk found (.request request) (.response (.empty 200))
  | preview {request : Api.Request} {entries : List (String × Value)} {config : Config}
      {command : Command} (submits : Api.Submits request)
      (submitted : Json.ofBytes request.body = .ok (.object entries))
      (checked : Config.ofValue (.object entries) = .ok config)
      (isFor : command.IsFor (sinkFor desk found config.toRaw.decklinkDevice)) :
      Reports desk found (.request request)
        (.response (.ofValue
          (.object (("success", .bool true) :: Api.commandEntries command config))))

/-- The outcome of an operation that needs no sinks: a compile that does not come to a command,
or a request that neither lists the sinks nor is answered by a preview. -/
inductive Spared : Operation → Except Fault Answer → Prop where
  | compile {config : RawConfig} {fault : Fault} : Spared (.compile config) (.error fault)
  | compileValue {data : Value} {fault : Fault} : Spared (.compileValue data) (.error fault)
  | request {request : Api.Request} {outcome : Except Fault Answer}
      (unasked : ¬Api.AsksSinks request)
      (refused : Api.Submits request →
        ∀ response, outcome = .ok (.response response) → response.status ≠ 200) :
      Spared (.request request) outcome

/-! ## The kept discovery -/

/-- The station with a discovery that is kept. -/
def knowing (station : Station) (found : Discovery) : Station :=
  { station with devices := station.devices.knowing found }

/-- What a query on a host leads to. -/
def foundOn (station : Station) (host : Host) : Discovery :=
  Device.Cache.found station.devices.fallback (station.devices.query host).1

/-- The host after that query. -/
def askedOn (station : Station) (host : Host) : Host :=
  Device.Cache.logged station.devices.fallback (station.devices.query host).1
    (station.devices.query host).2

theorem answerFrom_of_known {station : Station} {found : Discovery}
    (known : station.devices.outcome = some found) (answer : Discovery → α) (host : Host) :
    answerFrom answer station host = (.ok (answer found, station), host) :=
  HostRun.bind_of_ok (Device.Cache.discover_of_known known host) _

theorem answerFrom_of_unknown {station : Station} (unknown : station.devices.outcome = none)
    (answer : Discovery → α) (host : Host) :
    answerFrom answer station host =
      (.ok (answer (station.foundOn host), station.knowing (station.foundOn host)),
        station.askedOn host) :=
  HostRun.bind_of_ok (Device.Cache.discover_of_unknown unknown host) _

/-! ## The account of an operation -/

/-- What an operation does at a station that has kept no discovery. -/
inductive Accounted (station : Station) (operation : Operation) :
    Except Fault (Answer × Station) → Prop where
  | reported {found : Discovery} {answer : Answer}
      (reports : Reports station.desk found operation answer) :
      Accounted station operation (.ok (answer, station.knowing found))
  | spared {answer : Answer} (spared : Spared operation (.ok answer)) :
      Accounted station operation (.ok (answer, station))
  | failed {fault : Fault} (spared : Spared operation (.error fault)) :
      Accounted station operation (.error fault)

variable {station : Station}

theorem resolve_of_unknown (unknown : station.devices.outcome = none) (requested : Value)
    (host : Host) :
    station.devices.resolve requested host =
      (.ok (sinkFor station.desk (station.foundOn host) requested,
        station.devices.knowing (station.foundOn host)), station.askedOn host) :=
  HostRun.bind_of_ok (Device.Cache.discover_of_unknown unknown host) _

/-- A compile that comes to a command has asked for the sinks. -/
theorem compileRaw_of_unknown (unknown : station.devices.outcome = none) {config : RawConfig}
    {command : Command} {next : Station} {host after : Host}
    (done : station.compileRaw config host = (.ok (command, next), after)) :
    ∃ found, next = station.knowing found ∧
      command.IsFor (sinkFor station.desk found config.decklinkDevice) := by
  rcases compileRaw_ok.mp done with ⟨devices, compiled, rfl⟩
  rcases Command.compile_ok.mp compiled with
    ⟨video, audio, graph, drawn, gain, device, _, _, _, _, chosen, rfl⟩
  cases (resolve_of_unknown unknown config.decklinkDevice drawn).symm.trans chosen
  exact ⟨_, rfl, rfl, Command.getLast?_args_ofParts _ _ _ _ _ _ _⟩

theorem accounted_compile (unknown : station.devices.outcome = none) (config : RawConfig)
    (host : Host) :
    station.Accounted (.compile config) (station.perform (.compile config) host).1 := by
  rcases made : station.compileRaw config host with ⟨outcome, after⟩
  cases outcome with
  | error fault =>
      have ended : station.perform (.compile config) host = (.error fault, after) :=
        HostRun.bind_of_error made _
      rw [ended]
      exact .failed .compile
  | ok result =>
      rcases result with ⟨command, next⟩
      have given : station.perform (.compile config) host =
          (.ok (.command command, next), after) := HostRun.bind_of_ok made _
      rcases compileRaw_of_unknown unknown made with ⟨found, rfl, isFor⟩
      rw [given]
      exact .reported (.compile isFor)

theorem accounted_compileValue (unknown : station.devices.outcome = none) (data : Value)
    (host : Host) :
    station.Accounted (.compileValue data) (station.perform (.compileValue data) host).1 := by
  rcases made : station.compileValue data host with ⟨outcome, after⟩
  cases outcome with
  | error fault =>
      have ended : station.perform (.compileValue data) host = (.error fault, after) :=
        HostRun.bind_of_error made _
      rw [ended]
      exact .failed .compileValue
  | ok result =>
      rcases result with ⟨command, next⟩
      have given : station.perform (.compileValue data) host =
          (.ok (.command command, next), after) := HostRun.bind_of_ok made _
      rcases compileValue_ok.mp made with ⟨config, checked, compiled⟩
      rcases compileRaw_of_unknown unknown compiled with ⟨found, rfl, isFor⟩
      rw [given]
      exact .reported (.compileValue checked isFor)

/-! ## Requests -/

section Requests

variable {request : Api.Request} {target : Target} {resource : Api.Resource}

/-- The account of a request, by the response to it. -/
def Responds (station : Station) (request : Api.Request)
    (outcome : Except Fault (Api.Response × Station)) : Prop :=
  station.Accounted (.request request)
    (outcome.map fun (response, next) => (.response response, next))

theorem responds_plain (unasked : ¬Api.AsksSinks request) {response : Api.Response}
    (refused : Api.Submits request → response.status ≠ 200) :
    station.Responds request (.ok (response, station)) := by
  refine .spared (.request unasked fun submits other same => ?_)
  cases same
  exact refused submits

theorem responds_fault (unasked : ¬Api.AsksSinks request) (fault : Fault) :
    station.Responds request (.error fault) :=
  .failed (.request unasked nofun)

/-- All that can be read but the sinks is known to the station. -/
theorem exists_valueOf (other : resource ≠ .sinks) (host : Host) :
    ∃ value, Api.valueOf station resource host = (.ok (value, station), host) := by
  cases resource with
  | sinks => exact absurd rfl other
  | backgrounds | animations | positions | formats | channels | clock | preview | file =>
      exact ⟨_, rfl⟩

theorem valueOf_sinks (unknown : station.devices.outcome = none) (host : Host) :
    Api.valueOf station .sinks host =
      (.ok (Api.sinksValue (station.foundOn host), station.knowing (station.foundOn host)),
        station.askedOn host) :=
  HostRun.bind_of_ok (Device.Cache.discover_of_unknown unknown host) _

/-- A value that is shown tells of the sinks when it is the list of sinks. -/
theorem responds_shown (unknown : station.devices.outcome = none)
    (read : Api.targetOf request = .ok target)
    (route : Api.Route.ofPath target.path = .found resource)
    (shows : ¬Api.Submits request) (respond : Value → Api.Response)
    (told : resource = .sinks → ∀ found, Reports station.desk found (.request request)
      (.response (respond (Api.sinksValue found)))) (host : Host) :
    station.Responds request
      ((Api.valueOf station resource >>= fun (value, next) =>
        pure (respond value, next)) host).1 := by
  by_cases sinks : resource = .sinks
  · have reports := told sinks
    subst sinks
    rw [HostRun.bind_of_ok (valueOf_sinks unknown host)]
    exact .reported (reports _)
  · rcases exists_valueOf sinks host with ⟨value, found⟩
    rw [HostRun.bind_of_ok found]
    refine responds_plain (Api.not_asksSinks_of_route read fun same => sinks ?_)
      fun submits => absurd submits shows
    exact Api.Route.found.inj (route.symm.trans same)

/-- A preview comes to a command, or ends in a fault. -/
theorem responds_preview (unknown : station.devices.outcome = none)
    (submits : Api.Submits request) (unasked : ¬Api.AsksSinks request)
    {entries : List (String × Value)}
    (submitted : Json.ofBytes request.body = .ok (.object entries)) (host : Host) :
    station.Responds request (Api.preview station (.object entries) host).1 := by
  unfold Api.preview
  cases checked : Config.ofValue (.object entries) with
  | error fault => exact responds_fault unasked fault
  | ok config =>
      rw [HostRun.bind_of_ok (HostRun.ofExcept_ok.mpr ⟨rfl, rfl⟩)]
      rcases made : station.compile config host with ⟨outcome, after⟩
      cases outcome with
      | error fault =>
          rw [HostRun.bind_of_error made]
          exact responds_fault unasked fault
      | ok result =>
          rcases result with ⟨command, next⟩
          rcases compileRaw_of_unknown unknown made with ⟨found, rfl, isFor⟩
          rw [HostRun.bind_of_ok made]
          exact .reported (.preview submits submitted checked isFor)

theorem responds_submitted (unknown : station.devices.outcome = none)
    (submits : Api.Submits request) (unasked : ¬Api.AsksSinks request) (host : Host) :
    station.Responds request (Api.submitted station request host).1 := by
  have refused : ∀ response : Api.Response, response.status ≠ 200 →
      station.Responds request (.ok (response, station)) := fun _ other =>
    responds_plain unasked fun _ => other
  unfold Api.submitted
  split
  case isTrue => exact refused _ (by decide)
  case isFalse =>
      split
      case isTrue => exact refused _ (by decide)
      case isFalse =>
          cases submitted : Json.ofBytes request.body with
          | ok value =>
              cases value with
              | object entries => exact responds_preview unknown submits unasked submitted host
              | null | bool _ | number _ | string _ | list _ => exact refused _ (by decide)
          | error fault =>
              dsimp only
              split
              case isTrue => exact refused _ (by decide)
              case isFalse => exact responds_fault unasked fault

/-- What a request wants where it leads, when that is allowed there. -/
theorem responds_performed (unknown : station.devices.outcome = none)
    (read : Api.targetOf request = .ok target) (good : target.hasGoodHost = true)
    (route : Api.Route.ofPath target.path = .found resource)
    (allowed : (Api.Action.ofMethod request.method).allowedOn resource = true) (host : Host) :
    station.Responds request
      (Api.perform station request resource (Api.Action.ofMethod request.method) host).1 := by
  have leads : Api.LeadsTo request resource := ⟨target, read, good, route⟩
  have unsubmitted (other : Api.Action.ofMethod request.method ≠ .submit) :
      ¬Api.Submits request := fun submits => other submits.2
  cases method : Api.Action.ofMethod request.method with
  | read =>
      refine responds_shown unknown read route (unsubmitted (by rw [method]; nofun))
        (fun value => if resource = .file then .empty 404 else .ofValue value) ?_ host
      rintro rfl found
      exact .listing leads method
  | probe =>
      refine responds_shown unknown read route (unsubmitted (by rw [method]; nofun))
        (fun _ => .empty (if resource = .file then 404 else 200)) ?_ host
      rintro rfl found
      exact .probe leads method
  | submit =>
      rw [method] at allowed
      have preview : resource = .preview := eq_of_beq allowed
      subst preview
      exact responds_submitted unknown ⟨leads, method⟩
        (Api.not_asksSinks_of_action (by rw [method]; exact ⟨nofun, nofun⟩)) host
  | inquire =>
      exact responds_plain (Api.not_asksSinks_of_action (by rw [method]; exact ⟨nofun, nofun⟩))
        fun submits => absurd submits (unsubmitted (by rw [method]; nofun))
  | other =>
      rw [method] at allowed
      cases allowed

/-- The answer to a request, by where it leads. -/
theorem responds_answer (unknown : station.devices.outcome = none)
    (read : Api.targetOf request = .ok target) (host : Host) :
    station.Responds request (Api.answer station request target host).1 := by
  have leadsTo := Api.leadsTo_iff read
  unfold Api.answer
  split
  case isTrue bad =>
      refine responds_plain ?_ fun _ => by decide
      rintro ⟨leads, _⟩
      rw [((leadsTo _).mp leads).1] at bad
      exact absurd bad (by decide)
  case isFalse good =>
      have good : target.hasGoodHost = true := by simpa using good
      cases route : Api.Route.ofPath target.path with
      | missing =>
          exact responds_plain (Api.not_asksSinks_of_route read (by rw [route]; nofun))
            fun _ => by decide
      | moved resource =>
          refine responds_plain (Api.not_asksSinks_of_route read (by rw [route]; nofun))
            fun _ => ?_
          dsimp only [Api.Response.empty]
          split <;> decide
      | found resource =>
          dsimp only
          split
          case isTrue allowed => exact responds_performed unknown read good route allowed host
          case isFalse disallowed =>
              refine responds_plain (fun asks => disallowed ?_) fun _ => by decide
              rw [Api.Route.found.inj (route.symm.trans ((leadsTo _).mp asks.1).2)]
              exact asks.allowed

end Requests

theorem accounted_request (unknown : station.devices.outcome = none) (request : Api.Request)
    (host : Host) :
    station.Accounted (.request request) (station.perform (.request request) host).1 := by
  have responds : station.Responds request (Api.handle station request host).1 := by
    unfold Api.handle
    cases read : Api.targetOf request with
    | error fault =>
        refine responds_fault ?_ fault
        rintro ⟨⟨target, again, _⟩, _⟩
        cases read.symm.trans again
    | ok target =>
        rw [HostRun.bind_of_ok (HostRun.ofExcept_ok.mpr ⟨rfl, rfl⟩)]
        have answered := responds_answer unknown read host
        unfold HostRun.attempt
        rw [Outcome.bind_run]
        rcases made : Api.answer station request target host with ⟨outcome, after⟩
        rw [made] at answered
        cases outcome with
        | ok result => exact answered
        | error fault =>
            -- The fault becomes a status, and asks for sinks no more than the fault did.
            cases answered with
            | failed spared =>
                cases spared with
                | request unasked _ => exact responds_plain unasked fun _ => by decide
  unfold Responds at responds
  rcases handled : Api.handle station request host with ⟨outcome, after⟩
  rw [handled] at responds
  cases outcome with
  | error fault =>
      have ended : station.perform (.request request) host = (.error fault, after) :=
        HostRun.bind_of_error handled _
      rw [ended]
      exact responds
  | ok result =>
      have given : station.perform (.request request) host =
          (.ok (.response result.1, result.2), after) := HostRun.bind_of_ok handled _
      rw [given]
      exact responds

/-! ## All operations -/

/-- Whatever a station is asked to do but to forget, when it has kept no discovery. -/
theorem accounted_perform (unknown : station.devices.outcome = none) {operation : Operation}
    (keeps : operation ≠ .invalidate) (host : Host) :
    station.Accounted operation (station.perform operation host).1 := by
  cases operation with
  | compile config => exact accounted_compile unknown config host
  | compileValue data => exact accounted_compileValue unknown data host
  | request request => exact accounted_request unknown request host
  | discover =>
      have given : station.perform .discover host = _ := answerFrom_of_unknown unknown _ host
      rw [given]
      exact .reported .discover
  | sinks =>
      have given : station.perform .sinks host = _ :=
        answerFrom_of_unknown unknown (fun found => Answer.sinks found.sinks) host
      rw [given]
      exact .reported .sinks
  | listDevices =>
      have given : station.perform .listDevices host = _ :=
        answerFrom_of_unknown unknown
          (fun found => Answer.choices (Device.choices found.sinks)) host
      rw [given]
      exact .reported .listDevices
  | resolve requested =>
      have given : station.perform (.resolve requested) host = _ :=
        HostRun.bind_of_ok (resolve_of_unknown unknown requested host) _
      rw [given]
      exact .reported .resolve
  | invalidate => exact absurd rfl keeps

end Station

end TestSignal
