import TestSignal.Proofs.Command.Inputs
import TestSignal.Proofs.Config.Settled

namespace TestSignal

open Config Outcome

/-!
# Where uploaded files are looked for

An uploaded picture is looked for under the last component of its name, below the directory
of the uploads of its kind.  A component has no slash in it and is neither empty nor a single
dot, so at most one component is added to the directory, whatever the name is.

Two sorts of names are left.  A name of slashes and single dots has no component, and stands for
the directory itself; a name that ends in the parent segment stands for the directory above.
Every other name stands for an entry of the directory.
-/

/-! ## Components -/

theorem Text.not_isSeparator_of_mem_pieces {isSeparator : Char → Bool} {text piece : List Char}
    (member : piece ∈ Text.pieces isSeparator text) : ∀ c ∈ piece, isSeparator c = false := by
  induction text generalizing piece with
  | nil =>
      rw [List.mem_singleton.mp member]
      exact List.forall_mem_nil _
  | cons c rest inductionHypothesis =>
      unfold pieces at member
      by_cases separates : isSeparator c = true
      · rw [if_pos separates] at member
        rcases List.mem_cons.mp member with rfl | later
        · exact List.forall_mem_nil _
        · exact inductionHypothesis later
      · have kept := Bool.eq_false_iff.mpr separates
        rw [if_neg separates] at member
        cases cut : pieces isSeparator rest with
        | nil =>
            rw [cut] at member
            rw [List.mem_singleton.mp member]
            exact List.forall_mem_cons.mpr ⟨kept, List.forall_mem_nil _⟩
        | cons first more =>
            rw [cut] at member inductionHypothesis
            rcases List.mem_cons.mp member with rfl | later
            · exact List.forall_mem_cons.mpr ⟨kept, inductionHypothesis List.mem_cons_self⟩
            · exact inductionHypothesis (List.mem_cons_of_mem _ later)

theorem Text.pieces_of_not_isSeparator {isSeparator : Char → Bool} {text : List Char}
    (whole : ∀ c ∈ text, isSeparator c = false) : Text.pieces isSeparator text = [text] := by
  induction text with
  | nil => rfl
  | cons c rest inductionHypothesis =>
      rcases List.forall_mem_cons.mp whole with ⟨here, later⟩
      unfold pieces
      rw [here, if_neg Bool.false_ne_true, inductionHypothesis later]

namespace Path

/-- A component of a path: a text without slashes that is neither empty nor a single dot. -/
structure IsComponent (text : String) : Prop where
  nonempty : text ≠ ""
  not_dot : text ≠ "."
  no_slash : '/' ∉ text.toList

theorem isComponent_of_mem_ofText {text segment : String}
    (member : segment ∈ (ofText text).segments) : IsComponent segment := by
  rcases List.mem_map.mp member with ⟨piece, kept, rfl⟩
  rcases List.mem_filter.mp kept with ⟨inText, named⟩
  unfold isSegment at named
  rw [Bool.and_eq_true, Bool.not_eq_true', bne_iff_ne] at named
  constructor
  case nonempty =>
      intro empty
      rw [String.ofList_eq_empty_iff.mp empty] at named
      exact Bool.noConfusion named.1
  case not_dot => exact fun dot => named.2 (String.ofList_injective dot)
  case no_slash =>
      rw [String.toList_ofList]
      intro slash
      have apart := Text.not_isSeparator_of_mem_pieces inText '/' slash
      cases apart

/-- A component is read as a path of itself. -/
theorem IsComponent.ofText {text : String} (component : IsComponent text) :
    Path.ofText text = { root := .relative, segments := [text] } := by
  have whole : ∀ c ∈ text.toList, (c == '/') = false := by
    intro c member
    exact beq_eq_false_iff_ne.mpr fun slash => component.no_slash (slash ▸ member)
  have named : isSegment text.toList = true := by
    unfold isSegment
    rw [Bool.and_eq_true, Bool.not_eq_true', bne_iff_ne, List.isEmpty_eq_false_iff]
    refine ⟨fun empty => component.nonempty (String.toList_eq_nil_iff.mp empty), fun dot => ?_⟩
    exact component.not_dot (String.toList_injective dot)
  have relative : rootOf text.toList = .relative := by
    cases start : text.toList with
    | nil => rfl
    | cons c rest =>
        have other : c ≠ '/' := by
          rintro rfl
          exact component.no_slash (start ▸ List.mem_cons_self)
        unfold rootOf
        grind
  unfold Path.ofText
  rw [relative, Text.pieces_of_not_isSeparator whole, List.filter_cons_of_pos named,
    List.filter_nil, List.map_singleton, String.ofList_toList]

/-- The last component of a name, if it has any. -/
def lastComponent? (name : String) : Option String := (ofText name).segments.getLast?

theorem isComponent_lastComponent? {name component : String}
    (last : lastComponent? name = some component) : IsComponent component :=
  isComponent_of_mem_ofText (List.mem_of_getLast? last)

/-- A directory with a component below it, if there is one. -/
def extend (directory : Path) (component : Option String) : Path :=
  { directory with segments := directory.segments ++ component.toList }

/-- A path is an entry of a directory when it is the directory's with exactly one further
component, and this is not the parent segment. -/
def IsEntryOf (path directory : Path) : Prop :=
  ∃ component, IsComponent component ∧ component ≠ ".." ∧ path = directory.extend (some component)

/-- A name stands for an entry when its last component is no parent segment. -/
def NamesEntry (name : String) : Prop :=
  ∃ component, lastComponent? name = some component ∧ component ≠ ".."

theorem isEntryOf_extend_iff (directory : Path) (name : String) :
    (directory.extend (lastComponent? name)).IsEntryOf directory ↔ NamesEntry name := by
  constructor
  · rintro ⟨component, _, entry, same⟩
    have added := List.append_cancel_left (congrArg Path.segments same)
    refine ⟨component, ?_, entry⟩
    cases last : lastComponent? name with
    | none =>
        rw [last] at added
        cases added
    | some other =>
        rw [last] at added
        exact congrArg some (List.cons.inj added).1
  · rintro ⟨component, last, entry⟩
    exact ⟨component, isComponent_lastComponent? last, entry, by rw [last]⟩

end Path

namespace Command

/-- An upload is looked for under the last component of its name. -/
theorem uploadedPath_eq (directory : Path) (name : String) :
    uploadedPath directory (.string name) = directory.extend (Path.lastComponent? name) := by
  unfold uploadedPath Path.below Path.name
  change directory.join (Path.ofText ((Path.lastComponent? name).getD "")) = _
  cases last : Path.lastComponent? name with
  | none => rfl
  | some component =>
      rw [Option.getD_some, (Path.isComponent_lastComponent? last).ofText]
      rfl

/-- The stages of a kind read an upload from a path in its directory, under the last component of
its name.  The path is an entry of the directory exactly when the name stands for one. -/
def ReadsUpload (command : Command) (kind : String) (input : Path → Input) (directory : Path)
    (name : String) : Prop :=
  ∃ index path, command.ReadsInput kind index (some (input path)) ∧
    path = directory.extend (Path.lastComponent? name) ∧
    (path.IsEntryOf directory ↔ Path.NamesEntry name)

section Inputs

variable {config : Config} {name : String}

theorem isOn_of_nonempty (nonempty : name ≠ "") :
    (Value.optionalString (some name)).isOn = true := by
  change (!name.isEmpty) = true
  rw [Bool.not_eq_true', Bool.eq_false_iff]
  exact fun empty => nonempty (String.isEmpty_iff.mp empty)

/-- The uploaded background is a still picture under the last component of its name. -/
theorem backgroundInput_upload (formed : config.WellFormed)
    (chosen : config.background = Background.customId)
    (named : config.customBackground = some name) (format : Format) (settings : Settings) :
    backgroundInput (effectiveBackground config.toRaw) config.toRaw format settings =
      .still (settings.backgroundsDir.extend (Path.lastComponent? name)) := by
  have given : config.toRaw.customBackground.isOn = true := by
    change (Value.optionalString config.customBackground).isOn = true
    rw [named]
    exact isOn_of_nonempty (formed.custom_background name named)
  have upload : (effectiveBackground config.toRaw).source = .upload := by
    unfold effectiveBackground
    dsimp only
    rw [given, Bool.not_true, Bool.and_false, if_neg Bool.false_ne_true]
    change (Background.ofValue (.string config.background)).source = .upload
    rw [chosen]
    decide
  have file : config.toRaw.customBackground = .string name := by
    change Value.optionalString config.customBackground = _
    rw [named]
    rfl
  unfold backgroundInput
  rw [upload, file]
  dsimp only
  rw [uploadedPath_eq]

theorem logoInput_upload (formed : config.WellFormed) (shown : config.showLogo = true)
    (named : config.logoFile = some name) (settings : Settings) :
    logoInput config.toRaw settings =
      some (.file (settings.uploadsDir.extend (Path.lastComponent? name))) := by
  have file : config.toRaw.logoFile = .string name := by
    change Value.optionalString config.logoFile = _
    rw [named]
    rfl
  have given : (Value.string name).isOn = true :=
    isOn_of_nonempty (formed.logo_file name named)
  unfold logoInput
  rw [show config.toRaw.showLogo.isOn = true from shown, if_pos rfl, file, given, if_pos rfl,
    uploadedPath_eq]

end Inputs

/--
Uploads are read from their directories, under at most one component of the name that was sent.
The path is an entry of the directory for every name but those that have no component and those
that end in the parent segment.
-/
theorem uploads_read_below {data : Value} {config : Config} {settings : Settings}
    {clock : Clock.Reading} {fonts : Fonts} {devices found : Device.Cache} {host after : Host}
    {command : Command} (checked : Config.ofValue data = .ok config)
    (compiled : compile config.toRaw settings clock fonts devices host =
      (.ok (command, found), after)) (name : String) :
    (config.background = Background.customId → config.customBackground = some name →
      command.ReadsUpload "fps" .still settings.backgroundsDir name) ∧
      (config.showLogo = true → config.logoFile = some name →
        command.ReadsUpload "logo" .file settings.uploadsDir name) := by
  have formed := (ofValue_ok.mp checked).wellFormed
  rcases compile_ok.mp compiled with
    ⟨video, audio, graph, drawn, gain, device, made, _, built, _, _, rfl⟩
  have parts : Drawn config.toRaw settings video audio graph :=
    { made, built := ⟨clock, fonts, host, drawn, built⟩ }
  have alike := parts.numbersInputsAlike (Format.ofValue_mem_all config.toRaw.videoFormat) gain device
  constructor
  · intro chosen named
    refine ⟨0, _, ?_, rfl, Path.isEntryOf_extend_iff _ name⟩
    rw [← backgroundInput_upload formed chosen named (Format.ofValue config.toRaw.videoFormat)
      settings, ← made.background]
    exact alike.background
  · intro shown named
    refine ⟨video.logoIndex, _, ?_, rfl, Path.isEntryOf_extend_iff _ name⟩
    rw [← logoInput_upload formed shown named settings, ← made.logo]
    exact alike.logo

/-! ## Two uploads -/

/-- A request for an uploaded background with an uploaded logo. -/
def uploadData (background logo : String) : Value :=
  .object [
    ("background", .string Background.customId),
    ("customBackground", .string background),
    ("logoFile", .string logo) ]

/-- A configuration with both uploads, and its command. -/
structure CompilesUploads (background logo : String) (config : Config) (command : Command) :
    Prop where
  checked : Config.ofValue (uploadData background logo) = .ok config
  chosen : config.background = Background.customId ∧ config.customBackground = some background
  shown : config.showLogo = true ∧ config.logoFile = some logo
  compiled : ∃ found after, compile config.toRaw showcaseSettings Picture.showcaseClock
    (Fonts.standard "/mono.ttf") {} Host.idle = (.ok (command, found), after)

/-- Whether the inputs of both uploads are named by these texts. -/
def readsUploads (background logo : String) (texts : String × String) : Bool :=
  (Config.ofValue (uploadData background logo)).toOption.any fun config =>
    (config.background == Background.customId && config.customBackground == some background) &&
      (config.showLogo && config.logoFile == some logo) &&
      (compile config.toRaw showcaseSettings Picture.showcaseClock
        (Fonts.standard "/mono.ttf") {} Host.idle).1.toOption.any fun result =>
          result.1.inputGroups.take 2 ==
            [[("-loop", "1"), ("-i", texts.1)], [("-i", texts.2)]]

theorem exists_of_readsUploads {background logo : String} {texts : String × String}
    (reads : readsUploads background logo texts = true) :
    ∃ config command, CompilesUploads background logo config command ∧
      command.inputGroups.take 2 =
        [[("-loop", "1"), ("-i", texts.1)], [("-i", texts.2)]] := by
  rcases any_ok.mp reads with ⟨config, checked, accepted⟩
  simp only [Bool.and_eq_true, beq_iff_eq] at accepted
  rcases accepted with ⟨⟨chosen, shown⟩, finishes⟩
  rcases any_ok.mp finishes with ⟨⟨command, found⟩, compiled, groups⟩
  exact ⟨config, command, ⟨checked, chosen, shown, found, _, Prod.ext compiled rfl⟩,
    beq_iff_eq.mp groups⟩

/-- A name with directories in front, and one without. -/
theorem uploads_read_below_showcase :
    ∃ config command, CompilesUploads "../../etc/x.png" "brand.png" config command ∧
      Path.NamesEntry "../../etc/x.png" ∧ Path.NamesEntry "brand.png" ∧
      command.ReadsUpload "fps" .still showcaseSettings.backgroundsDir "../../etc/x.png" ∧
      command.ReadsUpload "logo" .file showcaseSettings.uploadsDir "brand.png" := by
  have reads : readsUploads "../../etc/x.png" "brand.png"
      ("/srv/uploads/backgrounds/x.png", "/srv/uploads/brand.png") = true := by decide +kernel
  rcases exists_of_readsUploads reads with ⟨config, command, compiles, _⟩
  rcases compiles.compiled with ⟨found, after, compiled⟩
  exact ⟨config, command, compiles, ⟨"x.png", rfl, by decide⟩, ⟨"brand.png", rfl, by decide⟩,
    (uploads_read_below compiles.checked compiled _).1 compiles.chosen.1 compiles.chosen.2,
    (uploads_read_below compiles.checked compiled _).2 compiles.shown.1 compiles.shown.2⟩

/-- The parent segment is read from above the directory of backgrounds, and the single dot is the
directory of uploads itself. -/
theorem uploads_leave_directory :
    ∃ config command, CompilesUploads ".." "." config command ∧
      command.inputGroups.take 2 =
        [[("-loop", "1"), ("-i", "/srv/uploads/backgrounds/..")], [("-i", "/srv/uploads")]] ∧
      ¬(Path.ofText "/srv/uploads/backgrounds/..").IsEntryOf showcaseSettings.backgroundsDir ∧
      ¬(Path.ofText "/srv/uploads").IsEntryOf showcaseSettings.uploadsDir := by
  have reads : readsUploads ".." "." ("/srv/uploads/backgrounds/..", "/srv/uploads") = true := by
    decide +kernel
  have parent : ¬Path.NamesEntry ".." := by
    rintro ⟨component, last, entry⟩
    exact entry (Option.some.inj last).symm
  have nameless : ¬Path.NamesEntry "." := by
    rintro ⟨component, last, _⟩
    cases last
  have above : Path.ofText "/srv/uploads/backgrounds/.." =
      showcaseSettings.backgroundsDir.extend (Path.lastComponent? "..") := by decide
  have itself : Path.ofText "/srv/uploads" =
      showcaseSettings.uploadsDir.extend (Path.lastComponent? ".") := by decide
  rcases exists_of_readsUploads reads with ⟨config, command, compiles, groups⟩
  refine ⟨config, command, compiles, groups, ?_, ?_⟩
  · rw [above, Path.isEntryOf_extend_iff]
    exact parent
  · rw [itself, Path.isEntryOf_extend_iff]
    exact nameless

end Command

end TestSignal
