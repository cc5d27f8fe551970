import TestSignal.Proofs.Command.Total
import TestSignal.Proofs.Config.Acceptance
import TestSignal.Proofs.Device.Choice
import TestSignal.Proofs.Station.Operations

namespace TestSignal

open Outcome

/-!
# A sink that is offered can be picked

An operator sees the sinks as choices, in a list or in an answer of the control API, and sends
one of the names back in a configuration.  The listing, the check of the configuration and the
choice of a sink each trim names in their own way.  They agree on the names of a listing, so
the command is for the very sink that was offered.
-/

/-! ## Offers -/

/-- Choices among which there is one with this name, as its identifier or its label. -/
def Device.Offers (choices : Value) (name : String) : Prop :=
  ∃ items entries key, choices = .list items ∧ .object entries ∈ items ∧
    (key, .string name) ∈ entries

/-- The choices that are made from sinks offer these and no others. -/
theorem Device.offers_choices_iff {sinks : List String} {name : String} :
    Device.Offers (Device.choices sinks) name ↔ name ∈ sinks := by
  constructor
  · rintro ⟨items, entries, key, listed, item, entry⟩
    cases listed
    rcases List.mem_map.mp item with ⟨sink, member, same⟩
    cases same
    simp only [List.mem_cons, Prod.mk.injEq, Value.string.injEq, List.not_mem_nil, or_false]
      at entry
    rcases entry with ⟨_, rfl⟩ | ⟨_, rfl⟩
    · exact member
    · exact member
  · intro member
    exact ⟨_, _, "id", rfl, List.mem_map.mpr ⟨name, member, rfl⟩, List.mem_cons_self⟩

/-- A request that reads the list of sinks. -/
structure Api.ReadsSinks (request : Api.Request) : Prop where
  target : ∃ target, Api.targetOf request = .ok target ∧ target.hasGoodHost = true ∧
    Api.Route.ofPath target.path = .found .sinks
  reads : Api.Action.ofMethod request.method = .read

theorem Api.readsSinks_get (body : List Nat) :
    Api.ReadsSinks
      { method := "GET", target := "/api/decklink-sinks", contentType := "", body } where
  target := by
    have found : (Target.ofText "/api/decklink-sinks").toOption.any (fun target =>
        target.hasGoodHost && decide (Api.Route.ofPath target.path = .found .sinks)) = true := by
      decide +kernel
    rcases any_ok.mp found with ⟨target, read, tested⟩
    rw [Bool.and_eq_true, decide_eq_true_iff] at tested
    refine ⟨target, ?_, tested⟩
    unfold Api.targetOf
    rw [read]
    rfl
  reads := show Api.Action.ofMethod "GET" = .read by decide +kernel

namespace Station

variable {station next : Station} {host after : Host} {name : String}

/-- Such a request is answered with the sinks of a discovery. -/
theorem handle_of_readsSinks {request : Api.Request} (reads : Api.ReadsSinks request)
    {found : Device.Discovery} {devices : Device.Cache}
    (discovered : station.devices.discover host = (.ok (found, devices), after)) :
    Api.handle station request host =
      (.ok (.ofValue (Api.sinksValue found), { station with devices }), after) := by
  rcases reads.target with ⟨target, read, good, route⟩
  have shown : Api.valueOf station .sinks host =
      (.ok (Api.sinksValue found, { station with devices }), after) :=
    HostRun.bind_of_ok discovered _
  have performed : Api.perform station request .sinks .read host =
      (.ok (.ofValue (Api.sinksValue found), { station with devices }), after) :=
    HostRun.bind_of_ok shown _
  have answered : Api.answer station request target host =
      (.ok (.ofValue (Api.sinksValue found), { station with devices }), after) := by
    unfold Api.answer
    rw [good, route, reads.reads]
    exact performed
  have attempted : HostRun.attempt (Api.answer station request target) host =
      (.ok (.ok (.ofValue (Api.sinksValue found), { station with devices })), after) := by
    unfold HostRun.attempt
    rw [answered]
  have asked : HostRun.ofExcept (Api.targetOf request) host = (.ok target, host) :=
    HostRun.ofExcept_ok.mpr ⟨read, rfl⟩
  exact (HostRun.bind_of_ok asked _).trans (HostRun.bind_of_ok attempted _)

/-- A station that offers a name on a host, and what it is afterwards. -/
inductive Offers (station : Station) (host : Host) (name : String) (next : Station) : Prop where
  /-- In the list of its devices. -/
  | listed {choices : Value} {after : Host}
      (listing : station.perform .listDevices host = (.ok (.choices choices, next), after))
      (offered : Device.Offers choices name)
  /-- In an answer of the control API. -/
  | shown {request : Api.Request} {response : Api.Response} {entries : List (String × Value)}
      {choices : Value} {after : Host} (reads : Api.ReadsSinks request)
      (answered : Api.handle station request host = (.ok (response, next), after))
      (body : response.body = some (.object entries)) (menu : ("devices", choices) ∈ entries)
      (offered : Device.Offers choices name)

/-- Only sinks of the discovery are offered, and the discovery is kept. -/
theorem Offers.discovered (offers : station.Offers host name next) :
    name ∈ (station.devices.discoveryOn host).sinks ∧
      next =
        { station with devices := station.devices.knowing (station.devices.discoveryOn host) } := by
  rcases station.devices.exists_discoveryOn host with ⟨between, discovered⟩
  cases offers with
  | listed listing offered =>
      have given : station.perform .listDevices host = _ := HostRun.bind_of_ok discovered _
      cases listing.symm.trans given
      exact ⟨Device.offers_choices_iff.mp offered, rfl⟩
  | shown reads answered body menu offered =>
      cases answered.symm.trans (handle_of_readsSinks reads discovered)
      cases body
      simp only [List.mem_cons, Prod.mk.injEq, List.not_mem_nil, or_false] at menu
      rcases menu with ⟨_, rfl⟩ | ⟨impossible, _⟩ | ⟨impossible, _⟩
      · exact ⟨Device.offers_choices_iff.mp offered, rfl⟩
      · exact absurd impossible (by decide)
      · exact absurd impossible (by decide)

/-! ## Picks -/

/-- Data that asks for a device by this name. -/
def AsksFor (data : Value) (name : String) : Prop :=
  Config.valueOf (Config.spelled data) "decklink_device" = .string name

theorem asksFor_single (name : String) :
    AsksFor (.object [("decklinkDevice", .string name)]) name := by
  rfl

/-- A proper name passes the check as it is. -/
theorem AsksFor.checked {data : Value} (asks : AsksFor data name)
    (proper : Device.IsProperName name) {config : Config}
    (checked : Config.ofValue data = .ok config) : config.decklinkDevice = some name := by
  have read := (Config.ofValue_ok.mp checked).decklink_device
  rw [show Config.valueOf _ _ = _ from asks] at read
  rw [read]
  change (if (Text.trim name).isEmpty then none else some (Text.trim name)) = some name
  rw [proper.trimmed, if_neg (by simpa using proper.nonempty)]

/-- Nothing but a device in a configuration leaves the standard text and no clock. -/
theorem exists_ofValue_single (name : String) :
    ∃ config, Config.ofValue (.object [("decklinkDevice", .string name)]) = .ok config ∧
      config.text.length < 2 ^ 63 ∧ config.showClock = false := by
  have asked : Config.numbersAsked
      (Config.spelled (.object [("decklinkDevice", .string name)])) =
        List.replicate 6 .null ++ [.int 2] := by
    rfl
  have none_huge : ¬∃ value ∈ Config.numbersAsked
      (Config.spelled (.object [("decklinkDevice", .string name)])), value.isHuge = true := by
    rw [asked]
    rintro ⟨value, member, huge⟩
    rcases List.mem_append.mp member with null | count
    · rw [List.eq_of_mem_replicate null] at huge
      exact absurd huge Bool.false_ne_true
    · rw [List.mem_singleton.mp count] at huge
      have large := Value.isHuge_int_iff.mp huge
      have limit := Number.two_pow_lt_integerLimit
      omega
  rcases (Config.faultsWhen_ofValue _).succeeds none_huge with ⟨config, checked⟩
  have read := Config.ofValue_ok.mp checked
  have standard : config.text = Config.standard.text := read.text
  refine ⟨config, checked, ?_, read.show_clock⟩
  rw [standard]
  decide

/-- A name that is picked at a station. -/
structure Picks (station : Station) (name : String) : Prop where
  /-- A request for it is answered by it, and nothing is asked or changed. -/
  resolved : ∀ host,
    station.devices.resolve (.string name) host = (.ok (name, station.devices), host)
  /-- Data that asks for it is compiled to a command for it. -/
  compiled : ∀ data host command next after, AsksFor data name →
    station.compileValue data host = (.ok (command, next), after) →
      command.device = name ∧ command.args.getLast? = some name ∧ next = station
  /-- Data that asks for it and nothing else does compile. -/
  compiles : ∀ host, station.timebase.AllFinite → host.TellsFiles →
    ∃ command after,
      station.compileValue (.object [("decklinkDevice", .string name)]) host =
        (.ok (command, station), after)

/-- A sink that is known is picked under its name, if that is proper. -/
theorem picks_of_mem {found : Device.Discovery} (known : station.devices.outcome = some found)
    (listed : name ∈ found.sinks) (proper : Device.IsProperName name) : station.Picks name := by
  have resolved : ∀ requested host, Device.Cache.wantedName requested = name →
      station.devices.resolve requested host = (.ok (name, station.devices), host) := by
    intro requested host wanted
    rw [Device.Cache.resolve_of_known known, wanted, Device.Cache.choose_of_mem listed proper]
  have compiled : ∀ data host command next after, AsksFor data name →
      station.compileValue data host = (.ok (command, next), after) →
        command.device = name ∧ command.args.getLast? = some name ∧ next = station := by
    intro data host command next after asks done
    rcases compileValue_ok.mp done with ⟨config, checked, onStation⟩
    rcases compileRaw_ok.mp onStation with ⟨devices, made, rfl⟩
    rcases Command.compile_ok.mp made with
      ⟨video, audio, graph, drawn, gain, device, _, _, _, _, chosen, rfl⟩
    have given : config.toRaw.decklinkDevice = .string name :=
      congrArg Value.optionalString (asks.checked proper checked)
    rw [given, resolved (.string name) drawn proper.trimmed] at chosen
    cases chosen
    exact ⟨rfl, Command.getLast?_args_ofParts _ _ _ _ _ _ _, rfl⟩
  refine ⟨fun host => resolved (.string name) host proper.trimmed, compiled, ?_⟩
  intro host finite tells
  rcases exists_ofValue_single name with ⟨config, checked, short, hidden⟩
  have formed := (Config.ofValue_ok.mp checked).wellFormed
  have starts : config.showClock = true →
      ∃ micros, station.timebase.StartsAt (.int config.clockLatencyMs) micros := by
    intro shown
    rw [hidden] at shown
    cases shown
  rcases Command.exists_compile_of_wellFormed formed short station.settings station.fonts
    station.devices finite starts tells with ⟨command, devices, after, done⟩
  have whole := compileValue_ok.mpr ⟨config, checked, compileRaw_ok.mpr ⟨devices, done, rfl⟩⟩
  rcases compiled _ _ _ _ _ (asksFor_single name) whole with ⟨_, _, same⟩
  rw [same] at whole
  exact ⟨command, after, whole⟩

/--
Every name that a station offers can be picked at it, for whatever text its sinks are listed
in.  If there is no listing or it has no sinks, the default device needs a name that does not
begin with a blank.  And what is found for a request is found again when it is requested.
-/
theorem picks_of_offers (lists : station.devices.Lists) {host : Host}
    (inked : (station.devices.discoveryOn host).ok = false →
      Text.BeginsWithInk station.devices.defaultName) :
    (∀ name next, station.Offers host name next → next.Picks name) ∧
      ∀ requested, ∃ name devices after,
        station.devices.resolve requested host = (.ok (name, devices), after) ∧
        ∀ later, devices.resolve (.string name) later = (.ok (name, devices), later) := by
  constructor
  · intro name next offers
    rcases offers.discovered with ⟨listed, rfl⟩
    exact picks_of_mem rfl listed
      ((Device.Cache.isProperName_discoveryOn lists inked).2 name listed)
  · exact Device.Cache.exists_resolve_again lists inked

def offeringStation : Station :=
  ofSettings { picturesDir := Path.ofText "/pictures", uploadsDir := Path.ofText "/uploads" } 0

/-- A host whose engine lists a sink after another that begins with its name. -/
def listingHost : Host :=
  { Host.idle with
    programs := [.exited 0 "Sinks:\n  2:1 [Mini (1)]\n  2:2 [ Mini\t] \n  2:3 [Mini (1)]"] }

theorem picks_of_offers_showcase :
    offeringStation.devices.Lists ∧ Text.BeginsWithInk offeringStation.devices.defaultName ∧
      ∃ next, offeringStation.Offers listingHost "Mini" next ∧ next.Picks "Mini" := by
  have lists : offeringStation.devices.Lists := Device.Cache.lists_of_engine rfl rfl
  have inked : Text.BeginsWithInk offeringStation.devices.defaultName := ⟨'U', rfl, by decide⟩
  have sinks : (offeringStation.devices.discoveryOn listingHost).sinks =
      ["Mini (1)", "Mini", "Mini (1)"] := by decide +kernel
  rcases offeringStation.devices.exists_discoveryOn listingHost with ⟨after, discovered⟩
  have offered : Device.Offers
      (Device.choices (offeringStation.devices.discoveryOn listingHost).sinks) "Mini" := by
    rw [Device.offers_choices_iff, sinks]
    decide
  have reads := Api.readsSinks_get []
  have answered := handle_of_readsSinks reads discovered
  have offers := Offers.shown reads answered rfl List.mem_cons_self offered
  exact ⟨lists, inked, _, offers, (picks_of_offers lists fun _ => inked).1 _ _ offers⟩

end Station

end TestSignal
