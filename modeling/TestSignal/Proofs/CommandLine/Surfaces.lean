import TestSignal.CommandLine.Run
import TestSignal.Proofs.Command.Numbers
import TestSignal.Proofs.Config.Overrides

namespace TestSignal

namespace CommandLine

/-!
# Both control surfaces compile alike

A preview checks the submitted data once and compiles the outcome.  A command line checks
the data of its file, writes the outcome, puts its own format and device into it, and
checks that again before it compiles.  The second check may exchange a number for one of
the other kind, but for one that the compiler reads alike.  So the same data gives the
same command on either surface, or the same fault.

A format or a device on the command line changes the field of that name and no other.
-/

/-! ## Overrides -/

/-- A configuration with the format and the device of a command line. -/
def overridden (config : Config) (arguments : CompileArguments) : Config :=
  { config with
    videoFormat :=
      match given arguments.format with
      | some text => Config.choose Format.ids Config.standard.videoFormat (.string text)
      | none => config.videoFormat
    decklinkDevice :=
      match given arguments.device with
      | some text => Config.trimmedText? (.string text)
      | none => config.decklinkDevice }

section Entries

variable {key : String} (argument : Option String) {entries : List (String × Value)}

theorem valueAt?_override_of_ne {name : String} (different : Spelling.underscored key ≠ name)
    (entries : List (String × Value)) :
    Value.valueAt? name (Config.spelled (.object (override key argument entries))) =
      Value.valueAt? name (Config.spelled (.object entries)) := by
  unfold override
  split
  · exact Config.valueAt?_insertEntry_of_ne _ different entries
  · rfl

/-- What is found under the name of an override: its text if one is given, else what was
found there before. -/
theorem valueOf_override_self (key : String)
    (distinct : ((Config.spelled (.object entries)).map Prod.fst).Nodup) :
    Config.valueOf (Config.spelled (.object (override key argument entries)))
        (Spelling.underscored key) =
      match given argument with
      | some text => .string text
      | none => Config.valueOf (Config.spelled (.object entries)) (Spelling.underscored key) := by
  unfold override
  cases given argument with
  | none => rfl
  | some text =>
      unfold Config.valueOf
      rw [Config.valueAt?_insertEntry_self _ distinct]
      rfl

theorem map_fst_override (known : key ∈ entries.map Prod.fst) :
    (override key argument entries).map Prod.fst = entries.map Prod.fst := by
  unfold override
  split
  · exact Config.map_fst_insertEntry _ known
  · rfl

end Entries

section Overridden

variable (config : Config) (arguments : CompileArguments)

theorem underscored_format : Spelling.underscored "videoFormat" = "video_format" := by
  decide +kernel

theorem underscored_device : Spelling.underscored "decklinkDevice" = "decklink_device" := by
  decide +kernel

/-- Every name but the two that are overridden stands for what was written. -/
theorem valueAt?_overriddenEntries {name : String}
    (other : name ∉ ["video_format", "decklink_device"]) :
    Value.valueAt? name (Config.spelled (.object (overriddenEntries config arguments))) =
      Value.valueAt? name (Config.spelled config.toValue) := by
  simp only [List.mem_cons, List.not_mem_nil, or_false, not_or] at other
  unfold overriddenEntries
  rw [valueAt?_override_of_ne, valueAt?_override_of_ne]
  · rfl
  · rw [underscored_format]
    exact Ne.symm other.1
  · rw [underscored_device]
    exact Ne.symm other.2

theorem valueOf_overriddenEntries_format :
    Config.valueOf (Config.spelled (.object (overriddenEntries config arguments)))
        "video_format" =
      match given arguments.format with
      | some text => .string text
      | none => Config.valueOf (Config.spelled config.toValue) "video_format" := by
  have found := valueOf_override_self arguments.format "videoFormat"
    config.nodup_spelled_toValue
  rw [underscored_format] at found
  unfold overriddenEntries Config.valueOf
  rw [valueAt?_override_of_ne _ (by decide +kernel)]
  exact found

theorem valueOf_overriddenEntries_device :
    Config.valueOf (Config.spelled (.object (overriddenEntries config arguments)))
        "decklink_device" =
      match given arguments.device with
      | some text => .string text
      | none => Config.valueOf (Config.spelled config.toValue) "decklink_device" := by
  have known : "videoFormat" ∈ (config.toValue.entries?.getD []).map Prod.fst := by
    rw [config.map_fst_entries_toValue]
    decide +kernel
  have distinct :
      ((Config.spelled (.object (override "videoFormat" arguments.format
        (config.toValue.entries?.getD [])))).map Prod.fst).Nodup := by
    rw [Config.map_fst_spelled, map_fst_override _ known, ← Config.map_fst_spelled]
    exact config.nodup_spelled_toValue
  have found := valueOf_override_self arguments.device "decklinkDevice" distinct
  rw [underscored_device] at found
  unfold overriddenEntries
  rw [found]
  unfold Config.valueOf
  rw [valueAt?_override_of_ne _ (by decide +kernel)]
  rfl

variable {config}

/--
The fields of a written configuration follow their rules again under the overrides of a
command line, when the numbers that are read for its three numbers stand in their places.
-/
theorem readFrom_overriddenEntries {fontSize audioFreq audioLevelDb : Number}
    (again : Config.ReadFrom (Config.spelled config.toValue)
      { config with fontSize, audioFreq, audioLevelDb }) :
    Config.ReadFrom (Config.spelled (.object (overriddenEntries config arguments)))
      { overridden config arguments with fontSize, audioFreq, audioLevelDb } := by
  have overriding := again.override fun name => valueAt?_overriddenEntries config arguments
  rw [valueOf_overriddenEntries_format, valueOf_overriddenEntries_device] at overriding
  have format : (overridden config arguments).videoFormat =
      Config.choose Format.ids Config.standard.videoFormat
        (match given arguments.format with
        | some text => .string text
        | none => Config.valueOf (Config.spelled config.toValue) "video_format") := by
    unfold overridden
    cases given arguments.format with
    | none => exact again.video_format
    | some text => rfl
  have device : (overridden config arguments).decklinkDevice =
      Config.trimmedText?
        (match given arguments.device with
        | some text => .string text
        | none => Config.valueOf (Config.spelled config.toValue) "decklink_device") := by
    unfold overridden
    cases given arguments.device with
    | none => exact again.decklink_device
    | some text => rfl
  rw [← format, ← device] at overriding
  exact overriding

end Overridden

/-! ## The second check -/

/--
The numbers that a second check gives: equal in value to the ones of the configuration,
and read alike by the compiler.
-/
structure ChecksAgain (config : Config) (fontSize audioFreq audioLevelDb : Number) : Prop where
  read : Config.ReadFrom (Config.spelled config.toValue)
    { config with fontSize, audioFreq, audioLevelDb }
  same_size : fontSize.same config.fontSize = true
  same_freq : audioFreq.same config.audioFreq = true
  same_level : audioLevelDb.same config.audioLevelDb = true
  reads_as : config.toRaw.ReadsAs (.number fontSize) (.number audioFreq) (.number audioLevelDb)

/-- A checked configuration can be checked again. -/
theorem exists_checksAgain {data : Value} {config : Config}
    (checked : Config.ofValue data = .ok config) :
    ∃ fontSize audioFreq audioLevelDb, ChecksAgain config fontSize audioFreq audioLevelDb := by
  have read := Config.ofValue_ok.mp checked
  rcases Config.fontSizeOr_again (by decide +kernel) read.font_size
    with ⟨fontSize, sized, sameSize⟩
  rcases Config.boundedOr_again (by decide +kernel) read.audio_freq
    with ⟨audioFreq, tuned, sameFreq⟩
  rcases Config.boundedOr_again (by decide +kernel) read.audio_level_db
    with ⟨audioLevelDb, leveled, sameLevel⟩
  have levelRead := Config.asNumber_boundedOr (by decide +kernel) read.audio_level_db leveled
  exact ⟨fontSize, audioFreq, audioLevelDb,
    { read := read.toValue sized tuned leveled
      same_size := sameSize
      same_freq := sameFreq
      same_level := sameLevel
      reads_as :=
        { font_size := Config.asNumber_fontSizeOr (by decide +kernel) read.font_size sized
          audio_freq := Config.asNumber_boundedOr (by decide +kernel) read.audio_freq tuned
          audio_level_db := levelRead
          audio_level_label := levelRead } }⟩

namespace ChecksAgain

variable {config : Config} {fontSize audioFreq audioLevelDb : Number}

/-- The second check, under the overrides of a command line. -/
theorem ofValue (again : ChecksAgain config fontSize audioFreq audioLevelDb)
    (arguments : CompileArguments) :
    Config.ofValue (.object (overriddenEntries config arguments)) =
      .ok { overridden config arguments with fontSize, audioFreq, audioLevelDb } :=
  Config.ofValue_ok.mpr (readFrom_overriddenEntries arguments again.read)

/-- Only numbers of another kind are exchanged, and what is overridden. -/
theorem agrees (again : ChecksAgain config fontSize audioFreq audioLevelDb)
    (arguments : CompileArguments) :
    Config.agrees { overridden config arguments with fontSize, audioFreq, audioLevelDb }
      (overridden config arguments) = true := by
  unfold Config.agrees
  simp only [overridden, again.same_size, again.same_freq, again.same_level, decide_true,
    Bool.and_true]

theorem compile (again : ChecksAgain config fontSize audioFreq audioLevelDb)
    (station : Station) :
    station.compile { config with fontSize, audioFreq, audioLevelDb } = station.compile config := by
  change station.compileRaw (config.toRaw.withNumbers _ _ _) = station.compileRaw config.toRaw
  unfold Station.compileRaw
  rw [again.reads_as.compile]

end ChecksAgain

theorem overridden_of_none {config : Config} {arguments : CompileArguments}
    (noFormat : given arguments.format = none) (noDevice : given arguments.device = none) :
    overridden config arguments = config := by
  unfold overridden
  rw [noFormat, noDevice]

/-! ## Both surfaces -/

/-- A file that holds an object. -/
structure FileHolds (host : Host) (path : String) (entries : List (String × Value)) : Prop where
  plain : path.toList.contains '\x00' = false
  object : ∃ bytes text, host.contents path = .ok bytes ∧ Text.utf8? false bytes = some text ∧
    Json.ofChars text = .ok (.object entries)

/-- A request that submits an object. -/
structure RequestHolds (request : Api.Request) (entries : List (String × Value)) : Prop where
  announced : Api.announcesJson request.contentType = true
  short : request.body.length ≤ Api.bodyLimit
  object : Json.ofBytes request.body = .ok (.object entries)

/-- What a command line makes of a compiled configuration. -/
def printed (station : Station) (config : Config) (json : Bool) : HostRun Ending := do
  let (command, _) ← station.compile config
  return .compiled (compiledOutput command config json)

/-- A command line compiles the configuration of its file under its overrides. -/
theorem compile_file {host : Host} {path : String} {entries : List (String × Value)}
    (holds : FileHolds host path entries) {arguments : CompileArguments}
    (named : arguments.config = some path) {config again : Config}
    (checked : Config.ofValue (.object entries) = .ok config)
    (rechecked : Config.ofValue (.object (overriddenEntries config arguments)) = .ok again)
    (station : Station) :
    compile station arguments host = printed station again arguments.json host := by
  rcases holds.object with ⟨bytes, text, stored, decoded, parsed⟩
  have inFile : Config.ofBytes bytes = .ok config := by
    unfold Config.ofBytes
    rw [decoded]
    exact Outcome.bind_ok.mpr ⟨_, parsed, checked⟩
  have fromFile : Config.ofFile path host = (.ok config, host) := by
    unfold Config.ofFile
    rw [holds.plain]
    refine HostRun.bind_ok.mpr ⟨bytes, host, Prod.ext stored rfl, ?_⟩
    exact HostRun.ofExcept_ok.mpr ⟨inFile, rfl⟩
  have read : readConfig arguments host = (.ok (.ok config), host) := by
    unfold readConfig
    rw [named]
    refine HostRun.bind_ok.mpr ⟨.ok config, host, ?_, rfl⟩
    unfold HostRun.attempt
    rw [fromFile]
  unfold compile
  rw [HostRun.bind_of_ok read]
  dsimp only
  rw [HostRun.bind_of_ok (HostRun.ofExcept_ok.mpr ⟨rechecked, rfl⟩)]
  rfl

/-- A submitted object is previewed. -/
theorem submitted_object {request : Api.Request} {entries : List (String × Value)}
    (holds : RequestHolds request entries) (station : Station) :
    Api.submitted station request = Api.preview station (.object entries) := by
  unfold Api.submitted
  rw [holds.announced, holds.object, if_neg (Nat.not_lt.mpr holds.short)]
  rfl

/--
A command line and a request end alike: in the same fault, or with the same command.  The
command line prints the configuration that it checked again, the request the one that was
checked once.
-/
def EndAlike (config : Config) (json : Bool) (line : Except Fault Ending × Host)
    (answer : Except Fault (Api.Response × Station) × Host) :
    Except Fault (Command × Station) × Host → Prop
  | (.error fault, after) => line = (.error fault, after) ∧ answer = (.error fault, after)
  | (.ok (command, later), after) =>
      (∃ again : Config, again.agrees config = true ∧
        line = (.ok (.compiled (compiledOutput command again json)), after)) ∧
      answer =
        (.ok (.ofValue (.object (("success", .bool true) :: Api.commandEntries command config)),
          later), after)

/-- What the two control surfaces make of the same object at a station. -/
structure SurfacesAgree (station : Station) (entries : List (String × Value))
    (config : Config) : Prop where
  /-- A second check gives an equal configuration, and the compile of the first one. -/
  again : ∃ again, Config.ofValue config.toValue = .ok again ∧ again.agrees config = true ∧
    ∀ host, station.compile again host = station.compile config host
  /-- Without overrides, the file and the request give the same command on the same host. -/
  surfaces : ∀ {host : Host} {path : String} {arguments : CompileArguments}
    {request : Api.Request}, FileHolds host path entries → RequestHolds request entries →
    arguments.config = some path → given arguments.format = none →
    given arguments.device = none →
    EndAlike config arguments.json (compile station arguments host)
      (Api.submitted station request host) (station.compile config host)
  /-- Overrides change the format and the device and no other field. -/
  overrides : ∀ arguments : CompileArguments, ∃ again,
    Config.ofValue (.object (overriddenEntries config arguments)) = .ok again ∧
    again.agrees (overridden config arguments) = true ∧
    ∀ {host : Host} {path : String}, FileHolds host path entries →
      arguments.config = some path →
      compile station arguments host = printed station again arguments.json host

/-- A compile ends alike on both surfaces when the configurations compile alike. -/
theorem endAlike {station : Station} {config again : Config} (agrees : again.agrees config = true)
    {host : Host} (same : station.compile again host = station.compile config host)
    (json : Bool) {entries : List (String × Value)}
    (checked : Config.ofValue (.object entries) = .ok config) :
    EndAlike config json (printed station again json host)
      (Api.preview station (.object entries) host) (station.compile config host) := by
  unfold printed Api.preview
  rw [HostRun.bind_of_ok (HostRun.ofExcept_ok.mpr ⟨checked, rfl⟩)]
  rcases outcome : station.compile config host with ⟨result, after⟩
  rw [outcome] at same
  cases result with
  | error fault =>
      exact ⟨HostRun.bind_of_error same _, HostRun.bind_of_error outcome _⟩
  | ok made =>
      exact ⟨⟨again, agrees, HostRun.bind_of_ok same _⟩, HostRun.bind_of_ok outcome _⟩

/--
The control surfaces agree on every object that is accepted, at every station and on every
host.
-/
theorem surfacesAgree {entries : List (String × Value)} {config : Config}
    (checked : Config.ofValue (.object entries) = .ok config) (station : Station) :
    SurfacesAgree station entries config := by
  rcases exists_checksAgain checked with ⟨fontSize, audioFreq, audioLevelDb, again⟩
  have compiled := again.compile station
  constructor
  case again =>
      have rechecked := again.ofValue {}
      have agrees := again.agrees {}
      rw [overridden_of_none rfl rfl] at rechecked agrees
      exact ⟨_, rechecked, agrees, congrFun compiled⟩
  case surfaces =>
      intro host path arguments request inFile inRequest named noFormat noDevice
      have rechecked := again.ofValue arguments
      have agrees := again.agrees arguments
      rw [overridden_of_none noFormat noDevice] at rechecked agrees
      rw [compile_file inFile named checked rechecked, submitted_object inRequest]
      exact endAlike agrees (congrFun compiled host) arguments.json checked
  case overrides =>
      intro arguments
      have rechecked := again.ofValue arguments
      exact ⟨_, rechecked, again.agrees arguments,
        fun inFile named => compile_file inFile named checked rechecked station⟩

/-! ## A file and a request -/

def showcaseText : String := "\x7b\"fontSize\": 80, \"audioFreq\": 440, \"showClock\": true\x7d"

def showcaseBytes : List Nat := showcaseText.toList.map Char.toNat

/-- A host whose files all hold the same object. -/
def showcaseHost : Host := { Host.idle with contents := fun _ => .ok showcaseBytes }

def showcaseRequest : Api.Request where
  method := "POST"
  target := "/api/preview"
  contentType := "application/json; charset=utf-8"
  body := showcaseBytes

def showcaseStation : Station :=
  Station.ofSettings
    { picturesDir := Path.ofText "/srv/pictures", uploadsDir := Path.ofText "/srv/uploads" } 0

theorem surfacesAgree_showcase :
    ∃ entries config, FileHolds showcaseHost "/show.json" entries ∧
      RequestHolds showcaseRequest entries ∧ Config.ofValue (.object entries) = .ok config ∧
      SurfacesAgree showcaseStation entries config := by
  have decoded : Text.utf8? false showcaseBytes = some showcaseText.toList := by decide +kernel
  have detected : Json.decode? showcaseBytes = some showcaseText.toList := by decide +kernel
  have parses : (Json.ofChars showcaseText.toList).toOption.any
      (fun value => (Config.ofFileValue value).isOk) = true := by decide +kernel
  rcases Outcome.any_ok.mp parses with ⟨value, parsed, accepted⟩
  cases value with
  | object entries =>
      rcases Outcome.exists_ok accepted with ⟨config, checked⟩
      refine ⟨entries, config, ⟨by decide +kernel, ?_⟩, ⟨by decide +kernel, by decide, ?_⟩,
        checked, surfacesAgree checked showcaseStation⟩
      · exact ⟨showcaseBytes, showcaseText.toList, rfl, decoded, parsed⟩
      · change Json.ofBytes showcaseBytes = _
        unfold Json.ofBytes
        rw [detected]
        exact parsed
  | null | bool _ | number _ | string _ | list _ => cases accepted

end CommandLine

end TestSignal
