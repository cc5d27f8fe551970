import TestSignal.Proofs.Config.WellFormed

namespace TestSignal

/-!
# Entries of written configurations

A configuration is written with its names in the control panel's spelling, and reading
turns them back, so the entries that are read are the fields that were written: each
of the field names is underscored, and no two are the same.
-/

namespace Spelling

/-! ## Both spellings -/

/-- An underscored spelling: small letters follow underscores, and there are no capitals. -/
def isUnderscored : List Char → Bool
  | '_' :: c :: rest => c.isLower && isUnderscored rest
  | c :: rest => !c.isUpper && c != '_' && isUnderscored rest
  | [] => true

theorem underscoredChar_toUpper {c : Char} (small : c.isLower = true) :
    underscoredChar c.toUpper = ['_', c] := by
  exact Text.ofAscii (fun c => c.isLower = true → underscoredChar c.toUpper = ['_', c])
    (by decide +kernel) (Text.toNat_lt_of_isLower small) small

/-- The control panel's spelling of an underscored name is read as that name. -/
theorem flatMap_capitalizedChars {text : List Char} (spelled : isUnderscored text = true) :
    (capitalizedChars text).flatMap underscoredChar = text := by
  induction text using isUnderscored.induct with
  | case1 c rest ih =>
      rw [isUnderscored, Bool.and_eq_true] at spelled
      have letter : c ≠ '_' := by
        rintro rfl
        exact absurd spelled.1 (by decide)
      rw [capitalizedChars, List.flatMap_cons, underscoredChar_toUpper spelled.1, ih spelled.2]
      · rfl
      · exact letter
  | case2 c rest other ih =>
      rw [isUnderscored, Bool.and_eq_true, Bool.and_eq_true, Bool.not_eq_true', bne_iff_ne]
        at spelled
      · have kept : underscoredChar c = [c] := by
          unfold underscoredChar
          rw [spelled.1.1]
          rfl
        rw [capitalizedChars, List.flatMap_cons, kept, ih spelled.2]
        · rfl
        · exact fun _ same => absurd same spelled.1.2
        · exact other
        · exact fun same => absurd same spelled.1.2
      · exact other
  | case3 => rfl

theorem underscored_capitalized {name : String} (spelled : isUnderscored name.toList = true) :
    underscored (capitalized name) = name := by
  unfold underscored capitalized
  rw [String.toList_ofList, flatMap_capitalizedChars spelled, String.ofList_toList]

/-- A name in the underscored spelling is read as itself. -/
theorem flatMap_underscoredChar {text : List Char} (spelled : isUnderscored text = true) :
    text.flatMap underscoredChar = text := by
  have kept {c : Char} (notCapital : c.isUpper = false) : underscoredChar c = [c] := by
    unfold underscoredChar
    rw [notCapital]
    rfl
  induction text using isUnderscored.induct with
  | case1 c rest inductionHypothesis =>
      rw [isUnderscored, Bool.and_eq_true] at spelled
      have notCapital : c.isUpper = false :=
        Text.ofAscii (fun c => c.isLower = true → c.isUpper = false) (by decide +kernel)
          (Text.toNat_lt_of_isLower spelled.1) spelled.1
      rw [List.flatMap_cons, List.flatMap_cons, kept notCapital, inductionHypothesis spelled.2]
      rfl
  | case2 c rest other inductionHypothesis =>
      rw [isUnderscored, Bool.and_eq_true, Bool.and_eq_true, Bool.not_eq_true'] at spelled
      · rw [List.flatMap_cons, kept spelled.1.1, inductionHypothesis spelled.2]
        rfl
      · exact other
  | case3 => rfl

theorem underscored_of_isUnderscored {name : String}
    (spelled : isUnderscored name.toList = true) : underscored name = name := by
  unfold underscored
  rw [flatMap_underscoredChar spelled, String.ofList_toList]

end Spelling

/-! ## Entries by name -/

namespace Value

theorem valueAt?_eq_none {α : Type} {key : String} {entries : List (String × α)}
    (absent : key ∉ entries.map Prod.fst) : valueAt? key entries = none := by
  induction entries with
  | nil => rfl
  | cons entry rest ih =>
      rw [List.map_cons, List.mem_cons, not_or] at absent
      rw [valueAt?, ih absent.2]
      exact if_neg fun same => absent.1 same.symm

/-- Under distinct keys, each value is found under its own. -/
theorem valueAt?_of_mem {α : Type} {key : String} {value : α} {entries : List (String × α)}
    (distinct : (entries.map Prod.fst).Nodup) (member : (key, value) ∈ entries) :
    valueAt? key entries = some value := by
  induction entries with
  | nil => exact absurd member List.not_mem_nil
  | cons entry rest ih =>
      rw [List.map_cons, List.nodup_cons] at distinct
      rcases List.mem_cons.mp member with here | later
      · rw [← here] at distinct ⊢
        rw [valueAt?, valueAt?_eq_none distinct.1]
        exact if_pos rfl
      · rw [valueAt?, ih distinct.2 later]

end Value

namespace RawConfig

/-- The names of the fields, which are the same for every configuration. -/
def names : List String := Config.standard.toRaw.fields.map Prod.fst

theorem map_fst_fields (raw : RawConfig) : raw.fields.map Prod.fst = names := rfl

/-- The names are distinct, and each is spelled with underscores. -/
theorem names_spelled : names.Nodup ∧
    ∀ name ∈ names, Spelling.isUnderscored name.toList = true := by
  decide +kernel

theorem nodup_names : names.Nodup := names_spelled.1

theorem isUnderscored_of_mem_names :
    ∀ name ∈ names, Spelling.isUnderscored name.toList = true := names_spelled.2

end RawConfig

namespace Config

/-- A written configuration has its own fields as entries. -/
theorem spelled_toValue (config : Config) : spelled config.toValue = config.toRaw.fields := by
  unfold spelled toValue
  dsimp only
  rw [List.map_map]
  refine (List.map_congr_left ?_).trans (List.map_id _)
  rintro ⟨name, value⟩ member
  have named : name ∈ RawConfig.names := List.mem_map_of_mem (f := Prod.fst) member
  have same := Spelling.underscored_capitalized (RawConfig.isUnderscored_of_mem_names name named)
  exact congrArg (·, value) same

/-- Every field of a written configuration is found under its name. -/
theorem valueAt?_toValue (config : Config) :
    ∀ field ∈ config.toRaw.fields,
      Value.valueAt? field.1 (spelled config.toValue) = some field.2 := by
  rintro ⟨name, value⟩ member
  rw [spelled_toValue]
  exact Value.valueAt?_of_mem (config.toRaw.map_fst_fields ▸ RawConfig.nodup_names) member

theorem valueOf_toValue (config : Config) :
    ∀ field ∈ config.toRaw.fields, valueOf (spelled config.toValue) field.1 = field.2 := by
  intro field member
  unfold valueOf
  rw [valueAt?_toValue config field member]
  rfl

end Config

end TestSignal
