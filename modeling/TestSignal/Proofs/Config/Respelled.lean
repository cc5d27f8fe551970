import Mathlib.Data.List.Forall2
import TestSignal.Proofs.Config.Overrides

namespace TestSignal

namespace Config

/-!
# Keys in another order and another spelling

The check finds every value by the name that its key spells.  When no two keys spell one name,
neither the order of the entries nor the spelling of their keys can be seen in the outcome, be
it a configuration or a fault.

Two fields had other names once.  Such an older name counts exactly when no key spells the
current one: then it may as well be the current one, and otherwise it may as well be missing.
A key spells a name in more than two ways, because every capital letter is turned by itself.
So a current name that is capitalized in one of its words only is not missing, although the
data has neither of its two regular spellings.
-/

/-! ## Entries that are found -/

/-- Distinct names are found in any order. -/
theorem valueAt?_perm {entries others : List (String × Value)}
    (distinct : (entries.map Prod.fst).Nodup) (reordered : entries.Perm others) (name : String) :
    Value.valueAt? name others = Value.valueAt? name entries := by
  have names := reordered.map Prod.fst
  by_cases known : name ∈ entries.map Prod.fst
  · rcases List.mem_map.mp known with ⟨⟨_, value⟩, member, rfl⟩
    rw [Value.valueAt?_of_mem distinct member,
      Value.valueAt?_of_mem (names.nodup_iff.mp distinct) (reordered.subset member)]
  · rw [Value.valueAt?_eq_none known,
      Value.valueAt?_eq_none fun member => known (names.symm.subset member)]

/-- Names that stand in the same places are found with the same value. -/
theorem valueAt?_forall₂ {name other : String} {entries others : List (String × Value)}
    (aligned : List.Forall₂ (fun entry next => (entry.1 = name ↔ next.1 = other) ∧
      entry.2 = next.2) entries others) :
    Value.valueAt? other others = Value.valueAt? name entries := by
  induction aligned with
  | nil => rfl
  | cons same _ inductionHypothesis =>
      rw [Value.valueAt?, Value.valueAt?, inductionHypothesis, same.2]
      simp only [same.1]

/-- The same of keys that spell the names. -/
theorem valueAt?_spelled {name other : String} {entries others : List (String × Value)}
    (aligned : List.Forall₂ (fun entry next => (Spelling.underscored entry.1 = name ↔
      Spelling.underscored next.1 = other) ∧ entry.2 = next.2) entries others) :
    Value.valueAt? other (spelled (.object others)) =
      Value.valueAt? name (spelled (.object entries)) := by
  apply valueAt?_forall₂
  unfold spelled
  rw [List.forall₂_map_left_iff, List.forall₂_map_right_iff]
  exact aligned

/-- Leaving a name out does not change what is found under another. -/
theorem valueAt?_filter_of_ne {name dropped : String} (other : name ≠ dropped)
    (entries : List (String × Value)) :
    Value.valueAt? name (entries.filter fun entry => entry.1 ≠ dropped) =
      Value.valueAt? name entries := by
  induction entries with
  | nil => rfl
  | cons entry rest inductionHypothesis =>
      rw [List.filter_cons, Value.valueAt?]
      split
      case isTrue => rw [Value.valueAt?, inductionHypothesis]
      case isFalse isDropped =>
          have same : entry.1 = dropped := by simpa using isDropped
          rw [inductionHypothesis, if_neg fun found => other (found.symm.trans same)]
          cases Value.valueAt? name rest <;> rfl

/-! ## What the check asks for -/

/-- The names that were given up, with the current ones. -/
def olderNames : List (String × String) :=
  [("audio_channel_id_pop", "audio_channel_flash"), ("pop_flash_offset", "flash_overlay_offset")]

/-- The names that the check asks for: those of the fields, the older ones, and the count of
channels that stands in for their map. -/
def namesAsked : List String :=
  RawConfig.names ++ olderNames.map Prod.fst ++ ["audio_channels"]

/-- Entries from which the same is taken for a field with an older name. -/
inductive TakesAlike (old current : String) (entries others : List (String × Value)) : Prop
  /-- Both names stand for the same. -/
  | kept : Value.valueAt? current others = Value.valueAt? current entries →
      Value.valueAt? old others = Value.valueAt? old entries → TakesAlike old current entries others
  /-- The current name is missing, and then stands for what the older one stood for. -/
  | renewed : Value.valueAt? current entries = none →
      Value.valueAt? current others = Value.valueAt? old entries →
      Value.valueAt? old others = none → TakesAlike old current entries others
  /-- The current name stands for a value, beside which the older one does not count. -/
  | present {value : Value} : Value.valueAt? current entries = some value →
      Value.valueAt? current others = some value → TakesAlike old current entries others

section Taken

variable {entries others : List (String × Value)}

theorem TakesAlike.flags
    (alike : TakesAlike "audio_channel_id_pop" "audio_channel_flash" entries others) :
    Channels.flags (flashFlags others) = Channels.flags (flashFlags entries) := by
  unfold flashFlags
  cases alike with
  | kept current old => rw [current, old]
  | renewed missing moved gone =>
      rw [missing, moved, gone]
      -- What is no list counts for no flags under either name.
      rcases Value.valueAt? "audio_channel_id_pop" entries with _ | value
      · rfl
      · cases value <;> rfl
  | present found same => rw [found, same]

theorem TakesAlike.offset
    (alike : TakesAlike "pop_flash_offset" "flash_overlay_offset" entries others) :
    flashOffset others = flashOffset entries := by
  unfold flashOffset
  cases alike with
  | kept current old => rw [current, old]
  | renewed missing moved gone =>
      rw [missing, moved, gone]
      rcases Value.valueAt? "pop_flash_offset" entries with _ | value <;> rfl
  | present found same => rw [found, same]

end Taken

/-- Entries with the same values for the check.  A field with an older name is compared by what
is taken for it. -/
structure ReadsAlike (entries others : List (String × Value)) : Prop where
  values : ∀ name ∈ namesAsked, name ∉ olderNames.flatMap (fun names => [names.1, names.2]) →
    Value.valueAt? name others = Value.valueAt? name entries
  taken : ∀ names ∈ olderNames, TakesAlike names.1 names.2 entries others

/-- The outcome of the check is made of what it asks for. -/
theorem ofValue_congr {data other : Value} (alike : ReadsAlike (spelled data) (spelled other)) :
    ofValue other = ofValue data := by
  have values := alike.values
  have flags := (alike.taken _ (.head _)).flags
  have offset := (alike.taken _ (.tail _ (.head _))).offset
  unfold ofValue
  simp (disch := decide) only [values, flags, offset]

theorem mem_namesAsked_of_older :
    ∀ names ∈ olderNames, names.1 ∈ namesAsked ∧ names.2 ∈ namesAsked := by
  decide +kernel

/-- The outcome depends on what is found under the names asked for, and on nothing else. -/
theorem ofValue_congr_of_values {data other : Value}
    (kept : ∀ name ∈ namesAsked,
      Value.valueAt? name (spelled other) = Value.valueAt? name (spelled data)) :
    ofValue other = ofValue data := by
  refine ofValue_congr ⟨fun name asked _ => kept name asked, fun names older => ?_⟩
  rcases mem_namesAsked_of_older names older with ⟨old, current⟩
  exact .kept (kept _ current) (kept _ old)

/-! ## Both spellings -/

/-- Keys that the check cannot tell apart: they spell one name, or none that it asks for. -/
def Alike (key other : String) : Prop :=
  Spelling.underscored key = Spelling.underscored other ∨
    Spelling.underscored key ∉ namesAsked ∧ Spelling.underscored other ∉ namesAsked

/-- Entries with the same values in another order, under keys that are spelled otherwise. -/
def Respelled (entries others : List (String × Value)) : Prop :=
  ∃ reordered, entries.Perm reordered ∧
    List.Forall₂ (fun entry other => Alike entry.1 other.1 ∧ entry.2 = other.2) reordered others

/-- Keys that are alike spell the same of the names asked for. -/
theorem Alike.iff {key other name : String} (alike : Alike key other) (asked : name ∈ namesAsked) :
    Spelling.underscored key = name ↔ Spelling.underscored other = name := by
  rcases alike with same | ⟨first, second⟩
  · rw [same]
  · exact ⟨fun found => absurd asked (found ▸ first), fun found => absurd asked (found ▸ second)⟩

theorem isUnderscored_of_mem_namesAsked :
    ∀ name ∈ namesAsked, Spelling.isUnderscored name.toList = true := by
  have others : ∀ name ∈ olderNames.map Prod.fst ++ ["audio_channels"],
      Spelling.isUnderscored name.toList = true := by decide +kernel
  intro name asked
  unfold namesAsked at asked
  rw [List.append_assoc] at asked
  rcases List.mem_append.mp asked with field | other
  · exact RawConfig.isUnderscored_of_mem_names name field
  · exact others name other

/-- The control panel's spelling of an underscored name spells the same. -/
theorem alike_capitalized {name : String} (spelled : Spelling.isUnderscored name.toList = true) :
    Alike name (Spelling.capitalized name) :=
  .inl ((Spelling.underscored_of_isUnderscored spelled).trans
    (Spelling.underscored_capitalized spelled).symm)

/-- Neither order nor spelling changes what a name stands for. -/
theorem Respelled.valueAt? {entries others : List (String × Value)}
    (respelled : Respelled entries others)
    (distinct : ((entries.map Prod.fst).map Spelling.underscored).Nodup)
    {name : String} (asked : name ∈ namesAsked) :
    Value.valueAt? name (spelled (.object others)) =
      Value.valueAt? name (spelled (.object entries)) := by
  rcases respelled with ⟨reordered, permuted, aligned⟩
  have spelledDistinct : ((spelled (.object entries)).map Prod.fst).Nodup := by
    rw [map_fst_spelled]
    exact distinct
  have spelledPermuted : (spelled (.object entries)).Perm (spelled (.object reordered)) :=
    permuted.map _
  rw [← valueAt?_perm spelledDistinct spelledPermuted name]
  exact valueAt?_spelled (aligned.imp fun _ _ same => ⟨same.1.iff asked, same.2⟩)

/-! ## Older names -/

/-- The entries with an older name's key spelling the current name. -/
def renewed (old current : String) (entries : List (String × Value)) : List (String × Value) :=
  entries.map fun entry =>
    (if Spelling.underscored entry.1 = old then current else entry.1, entry.2)

/-- The entries without those whose keys spell an older name. -/
def without (old : String) (entries : List (String × Value)) : List (String × Value) :=
  entries.filter fun entry => Spelling.underscored entry.1 ≠ old

/-- An older name counts as the current one where that is missing, and for nothing elsewhere. -/
structure CountsWhenAbsent (entries : List (String × Value)) (old current : String) : Prop where
  absent : current ∉ (entries.map Prod.fst).map Spelling.underscored →
    ofValue (.object (renewed old current entries)) = ofValue (.object entries)
  present : current ∈ (entries.map Prod.fst).map Spelling.underscored →
    ofValue (.object (without old entries)) = ofValue (.object entries)

section Renewed

variable {old current : String} {entries : List (String × Value)}

theorem spelled_without :
    spelled (.object (without old entries)) =
      (spelled (.object entries)).filter fun entry => entry.1 ≠ old := by
  unfold spelled without
  rw [List.filter_map]
  rfl

/-- What other names stand for is the same with the name renewed. -/
theorem valueAt?_renewed_of_ne {name : String} (notOld : name ≠ old) (notCurrent : name ≠ current)
    (own : Spelling.underscored current = current) :
    Value.valueAt? name (spelled (.object (renewed old current entries))) =
      Value.valueAt? name (spelled (.object entries)) := by
  apply valueAt?_spelled
  unfold renewed
  rw [List.forall₂_map_right_iff, List.forall₂_same]
  intro entry _
  refine ⟨?_, rfl⟩
  dsimp only
  split
  case isTrue same =>
      rw [same, own]
      exact ⟨fun found => absurd found.symm notOld, fun found => absurd found.symm notCurrent⟩
  case isFalse => rfl

/-- A missing current name stands for what the older one stood for, once that is renewed. -/
theorem valueAt?_renewed (own : Spelling.underscored current = current)
    (absent : current ∉ (entries.map Prod.fst).map Spelling.underscored) :
    Value.valueAt? current (spelled (.object (renewed old current entries))) =
      Value.valueAt? old (spelled (.object entries)) := by
  apply valueAt?_spelled
  unfold renewed
  rw [List.forall₂_map_right_iff, List.forall₂_same]
  intro entry member
  refine ⟨?_, rfl⟩
  dsimp only
  split
  case isTrue same => simp only [same, own]
  case isFalse other =>
      have missing : Spelling.underscored entry.1 ≠ current := by
        rintro rfl
        exact absent (List.mem_map_of_mem (List.mem_map_of_mem member))
      simp only [other, missing]

/-- Once it is renewed, an older name is gone. -/
theorem valueAt?_renewed_old (own : Spelling.underscored current = current)
    (different : current ≠ old) :
    Value.valueAt? old (spelled (.object (renewed old current entries))) = none := by
  apply Value.valueAt?_eq_none
  rw [map_fst_spelled, renewed, List.map_map, List.map_map, List.mem_map]
  rintro ⟨entry, _, found⟩
  dsimp only [Function.comp_apply] at found
  split at found
  case isTrue => exact different (own.symm.trans found)
  case isFalse other => exact other found

end Renewed

/-- A name that some key spells stands for a value. -/
theorem exists_valueAt?_of_mem {name : String} {entries : List (String × Value)}
    (present : name ∈ entries.map Prod.fst) :
    ∃ value, Value.valueAt? name entries = some value := by
  induction entries with
  | nil => exact absurd present List.not_mem_nil
  | cons entry rest inductionHypothesis =>
      rw [Value.valueAt?]
      rcases hRest : Value.valueAt? name rest with _ | value
      · rcases List.mem_cons.mp present with here | later
        · exact ⟨entry.2, if_pos here.symm⟩
        · rcases inductionHypothesis later with ⟨value, found⟩
          exact absurd (hRest.symm.trans found) (Option.some_ne_none value).symm
      · exact ⟨value, rfl⟩

theorem underscored_current {old current : String} (older : (old, current) ∈ olderNames) :
    Spelling.underscored current = current := by
  have all : ∀ names ∈ olderNames, Spelling.underscored names.2 = names.2 := by decide +kernel
  exact all (old, current) older

/-- What the check asks for beside an older name and its current one is kept by both changes. -/
theorem kept_of_older {old current : String} (older : (old, current) ∈ olderNames)
    (entries : List (String × Value)) {name : String} (other : name ∉ [old, current]) :
    Value.valueAt? name (spelled (.object (renewed old current entries))) =
        Value.valueAt? name (spelled (.object entries)) ∧
      Value.valueAt? name (spelled (.object (without old entries))) =
        Value.valueAt? name (spelled (.object entries)) := by
  rw [List.mem_cons, List.mem_singleton, not_or] at other
  refine ⟨valueAt?_renewed_of_ne other.1 other.2 (underscored_current older), ?_⟩
  rw [spelled_without, valueAt?_filter_of_ne other.1]

/-- A name that no field had before is neither an older one nor its current one. -/
theorem not_mem_of_older {old current name : String} (older : (old, current) ∈ olderNames)
    (other : name ∉ olderNames.flatMap fun names => [names.1, names.2]) :
    name ∉ [old, current] :=
  fun member => other (List.mem_flatMap.mpr ⟨_, older, member⟩)

/-- Two fields with older names share none of them. -/
theorem olderNames_apart : ∀ names ∈ olderNames, ∀ others ∈ olderNames, others ≠ names →
    others.1 ∉ [names.1, names.2] ∧ others.2 ∉ [names.1, names.2] := by
  decide +kernel

theorem ne_of_older : ∀ names ∈ olderNames, names.2 ≠ names.1 := by decide +kernel

/-- When a change of the entries keeps what every other name stands for, only what is taken for
the one field matters. -/
theorem readsAlike_of_kept {names : String × String} (older : names ∈ olderNames)
    {entries others : List (String × Value)}
    (kept : ∀ name, name ∉ [names.1, names.2] →
      Value.valueAt? name others = Value.valueAt? name entries)
    (taken : TakesAlike names.1 names.2 entries others) : ReadsAlike entries others where
  values name _ other := kept name (not_mem_of_older older other)
  taken next nextOlder := by
    by_cases same : next = names
    · exact same ▸ taken
    · rcases olderNames_apart names older next nextOlder same with ⟨old, current⟩
      exact .kept (kept _ current) (kept _ old)

/-- An older name counts when the current one is missing, and only then. -/
theorem countsWhenAbsent {names : String × String} (older : names ∈ olderNames)
    (entries : List (String × Value)) : CountsWhenAbsent entries names.1 names.2 where
  absent missing := by
    have own := underscored_current older
    have notFound : Value.valueAt? names.2 (spelled (.object entries)) = none :=
      Value.valueAt?_eq_none (map_fst_spelled entries ▸ missing)
    exact ofValue_congr (readsAlike_of_kept older
      (fun name other => (kept_of_older older entries other).1)
      (.renewed notFound (valueAt?_renewed own missing)
        (valueAt?_renewed_old own (ne_of_older names older))))
  present known := by
    rcases exists_valueAt?_of_mem (map_fst_spelled entries ▸ known) with ⟨value, found⟩
    have still : Value.valueAt? names.2 (spelled (.object (without names.1 entries))) =
        some value := by
      rw [spelled_without, valueAt?_filter_of_ne (ne_of_older names older), found]
    exact ofValue_congr (readsAlike_of_kept older
      (fun name other => (kept_of_older older entries other).2) (.present found still))

/-! ## The check -/

/--
The check gives the same configuration, or the same fault, for the same values in any order and
under keys in either spelling, as long as no two keys spell one name.  An older name counts as
the current one exactly when no key spells that.
-/
theorem ofValue_respelled (entries : List (String × Value))
    (distinct : ((entries.map Prod.fst).map Spelling.underscored).Nodup) :
    (∀ name ∈ namesAsked, Spelling.isUnderscored name.toList = true) ∧
    (∀ name, Spelling.isUnderscored name.toList = true →
      Alike name (Spelling.capitalized name)) ∧
    (∀ others, Respelled entries others → ofValue (.object others) = ofValue (.object entries)) ∧
    ∀ names ∈ olderNames, CountsWhenAbsent entries names.1 names.2 := by
  refine ⟨isUnderscored_of_mem_namesAsked, fun _ => alike_capitalized, ?_, ?_⟩
  · intro others respelled
    exact ofValue_congr_of_values fun name asked => respelled.valueAt? distinct asked
  · exact fun names older => countsWhenAbsent older entries

/-- A format, an older list of flags and an older offset, the other way round and respelled. -/
theorem ofValue_respelled_showcase :
    ofValue (.object [("pop_flash_offset", .int (-20)),
        ("audio_channel_id_pop", .list [.bool true]), ("video_format", .string "720p50")]) =
      ofValue (.object [("videoFormat", .string "720p50"),
        ("audioChannelIdPop", .list [.bool true]), ("popFlashOffset", .int (-20))]) := by
  refine (ofValue_respelled _ (by decide +kernel)).2.2.1 _ ⟨_, (List.reverse_perm _).symm, ?_⟩
  exact .cons ⟨.inl (by decide +kernel), rfl⟩ (.cons ⟨.inl (by decide +kernel), rfl⟩
    (.cons ⟨.inl (by decide +kernel), rfl⟩ .nil))

/--
The two spellings have their limits.  A name with an underscore before a digit is unknown, but its
control panel's spelling can be that of a field.  And a current name that is capitalized in one of
its words is in neither spelling, but the older name does not count beside it.
-/
theorem spellings_have_limits :
    ofValue (.object [(Spelling.capitalized "audio_channel_force_400", .list [.bool true])]) ≠
      ofValue (.object [("audio_channel_force_400", .list [.bool true])]) ∧
    ¬ ∀ (entries : List (String × Value)) (names : String × String),
      ((entries.map Prod.fst).map Spelling.underscored).Nodup → names ∈ olderNames →
      names.2 ∉ entries.map Prod.fst → Spelling.capitalized names.2 ∉ entries.map Prod.fst →
      ofValue (.object (renewed names.1 names.2 entries)) = ofValue (.object entries) := by
  constructor
  · intro same
    have forced := congrArg (fun outcome : Except Fault Config =>
      outcome.toOption.map Config.audioChannelForce400) same
    exact absurd forced (by decide +kernel)
  · intro counts
    have same := counts [("flash_overlayOffset", .int 5), ("popFlashOffset", .int (-20))]
      ("pop_flash_offset", "flash_overlay_offset") (by decide +kernel) (by decide +kernel)
      (by decide +kernel) (by decide +kernel)
    have offsets := congrArg (fun outcome : Except Fault Config =>
      outcome.toOption.map Config.flashOverlayOffset) same
    exact absurd offsets (by decide +kernel)

end Config

end TestSignal
