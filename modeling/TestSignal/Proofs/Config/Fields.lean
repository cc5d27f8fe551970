import Mathlib.Data.List.GetD
import TestSignal.Proofs.Config.Color
import TestSignal.Proofs.Number.Exact
import TestSignal.Proofs.Number.Order

namespace TestSignal

namespace Config

/-!
# The rules for single fields

Every field of a configuration has a rule that makes a checked value of any value.
Two things are said of each rule: what its results are like, and that it leaves its
own results alone.  Rules for numbers may exchange a number for an equal one of the
other kind, so for them the second statement is about equality of value.

A result that is one of a few constants is treated by computing with the constant.
Any other number is a binary64 number that the rule already accepted, and is accepted
again for the same reason.
-/

/-! ## Names and texts -/

section Names

variable (allowed : List String) (fallback : String) (value : Value)

theorem choose_mem (known : fallback ∈ allowed) : choose allowed fallback value ∈ allowed := by
  unfold choose
  split
  · split
    · assumption
    · exact known
  · exact known

theorem choose_choose :
    choose allowed fallback (.string (choose allowed fallback value)) =
      choose allowed fallback value := by
  have kept : choose allowed fallback value ∈ allowed ∨
      choose allowed fallback value = fallback := by
    unfold choose
    split
    · split
      · exact Or.inl ‹_›
      · exact Or.inr rfl
    · exact Or.inr rfl
  change (if choose allowed fallback value ∈ allowed then choose allowed fallback value
    else fallback) = _
  rcases kept with member | same
  · exact if_pos member
  · rw [same, ite_self]

end Names

theorem anchorOr_label (fallback anchor : Anchor) :
    anchorOr fallback (.string anchor.label) = anchor := by
  change (Anchor.ofLabel? anchor.label).getD fallback = anchor
  rw [Anchor.ofLabel?_label]
  rfl

theorem animationOf_mem {value : Value} {id : String} (chosen : animationOf value = some id) :
    id ∈ Animation.all.map Animation.id := by
  unfold animationOf at chosen
  split at chosen
  · rcases Option.map_eq_some_iff.mp chosen with ⟨animation, found, rfl⟩
    exact List.mem_map_of_mem (List.mem_of_find?_eq_some found)
  · cases chosen

theorem animationOf_animationOf (value : Value) :
    animationOf (.optionalString (animationOf value)) = animationOf value := by
  cases chosen : animationOf value with
  | none => rfl
  | some id =>
      rcases List.mem_map.mp (animationOf_mem chosen) with ⟨animation, _, rfl⟩
      change (Animation.ofId? animation.id).map Animation.id = _
      rw [Animation.ofId?_id]
      rfl

theorem nonEmptyString?_ne {value : Value} {text : String}
    (present : value.nonEmptyString? = some text) : text.isEmpty = false := by
  unfold Value.nonEmptyString? at present
  split at present
  · split at present
    · cases present
    · rename_i other
      rw [← Option.some.inj present]
      exact Bool.eq_false_iff.mpr other
  · cases present

theorem nonEmptyString?_string {text : String} (nonempty : text.isEmpty = false) :
    (Value.string text).nonEmptyString? = some text := by
  change (if text.isEmpty then none else some text) = some text
  rw [nonempty]
  rfl

theorem nonEmptyString?_again (value : Value) :
    (Value.optionalString value.nonEmptyString?).nonEmptyString? = value.nonEmptyString? := by
  cases present : value.nonEmptyString? with
  | none => rfl
  | some text => exact nonEmptyString?_string (nonEmptyString?_ne present)

theorem textOr_ne {fallback : String} (nonempty : fallback.isEmpty = false) (value : Value) :
    (value.nonEmptyString?.getD fallback).isEmpty = false := by
  cases present : value.nonEmptyString? with
  | none => exact nonempty
  | some text => exact nonEmptyString?_ne present

/-- A trimmed text is not empty, and trimming leaves it alone. -/
theorem trimmedText?_spec {value : Value} {text : String}
    (present : trimmedText? value = some text) :
    text.isEmpty = false ∧ Text.trim text = text := by
  unfold trimmedText? at present
  split at present
  · dsimp only at present
    split at present
    · cases present
    · rename_i ink
      rw [← Option.some.inj present]
      exact ⟨Bool.eq_false_iff.mpr ink, Text.trim_trim _⟩
  · cases present

theorem trimmedText?_again (value : Value) :
    trimmedText? (.optionalString (trimmedText? value)) = trimmedText? value := by
  cases present : trimmedText? value with
  | none => rfl
  | some text =>
      rcases trimmedText?_spec present with ⟨nonempty, trimmed⟩
      change (if (Text.trim text).isEmpty then none else some (Text.trim text)) = some text
      rw [trimmed, nonempty]
      rfl

/-- A colour is well formed and has no blanks around it. -/
theorem colorOr_spec {fallback : String} (formed : Color.isWellFormed fallback.toList = true)
    (trimmed : Text.trim fallback = fallback) (value : Value) :
    Color.isWellFormed (colorOr fallback value).toList = true ∧
      Text.trim (colorOr fallback value) = colorOr fallback value := by
  unfold colorOr
  split
  · dsimp only
    split
    · exact ⟨‹_›, Text.trim_trim _⟩
    · exact ⟨formed, trimmed⟩
  · exact ⟨formed, trimmed⟩

theorem colorOr_colorOr {fallback : String} (formed : Color.isWellFormed fallback.toList = true)
    (trimmed : Text.trim fallback = fallback) (value : Value) :
    colorOr fallback (.string (colorOr fallback value)) = colorOr fallback value := by
  rcases colorOr_spec formed trimmed value with ⟨kept, alone⟩
  change (if Color.isWellFormed (Text.trim (colorOr fallback value)).toList then
    Text.trim (colorOr fallback value) else fallback) = _
  rw [alone, if_pos kept]

/-! ## Channel lists -/

theorem length_flags (value : Value) (fill : Bool) :
    (Channels.flags value fill).length = channelSlots := by
  unfold Channels.flags
  dsimp only
  rw [List.length_append, List.length_replicate]
  split
  · rw [List.length_map, List.length_take]
    omega
  · rfl

/-- A switch is read where the list has one, and only there. -/
theorem flagAt_ok {flags : List Bool} {index : Nat} {flag : Bool} :
    Channels.flagAt flags index = .ok flag ↔
      index < flags.length ∧ flags.getD index false = flag := by
  unfold Channels.flagAt
  by_cases inside : index < flags.length
  · rw [List.getElem?_eq_getElem inside, List.getD_eq_getElem _ _ inside]
    simp [inside]
  · rw [List.getElem?_eq_none (Nat.le_of_not_lt inside)]
    simp [inside]

theorem faultsWhen_flagAt (flags : List Bool) (index : Nat) :
    Outcome.FaultsWhen (flags.length ≤ index) .beyondEnd (Channels.flagAt flags index) where
  faults beyond := by
    rw [Channels.flagAt, List.getElem?_eq_none beyond]
  succeeds inside := ⟨_, flagAt_ok.mpr ⟨Nat.lt_of_not_le inside, rfl⟩⟩

/-- A list with a switch for every slot is read as it is. -/
theorem flags_flagList {flags : List Bool} (full : flags.length = channelSlots) (fill : Bool) :
    Channels.flags (flagList flags) fill = flags := by
  have read : ((flags.map Value.bool).take channelSlots).map Value.isOn = flags := by
    rw [List.take_of_length_le (by rw [List.length_map, full]), List.map_map]
    exact List.map_id flags
  change ((flags.map Value.bool).take channelSlots).map Value.isOn ++
    List.replicate (channelSlots - (((flags.map Value.bool).take channelSlots).map
      Value.isOn).length) fill = flags
  rw [read, full, Nat.sub_self]
  exact List.append_nil flags

theorem length_withFirstPair {map : List Bool} (full : map.length = channelSlots) :
    (Channels.withFirstPair map).length = channelSlots := by
  unfold Channels.withFirstPair
  split
  · exact full
  · rw [List.length_cons, List.length_cons, List.length_drop, full]
    rfl

theorem any_withFirstPair (map : List Bool) : (Channels.withFirstPair map).any id = true := by
  unfold Channels.withFirstPair
  split
  · assumption
  · rfl

theorem length_firstChannels {count : Value} {map : List Bool}
    (made : Channels.firstChannels count = .ok map) : map.length = channelSlots := by
  rcases Outcome.bind_ok.mp made with ⟨number, _, rest⟩
  rw [← Outcome.pure_ok.mp rest, List.length_append, List.length_replicate,
    List.length_replicate]
  omega

/-- A channel map has a switch for every slot and an active channel. -/
theorem activeMap_spec {value count : Value} {map : List Bool}
    (made : Channels.activeMap value count = .ok map) :
    map.length = channelSlots ∧ map.any id = true := by
  unfold Channels.activeMap at made
  split at made
  · rw [← Except.ok.inj made]
    exact ⟨length_withFirstPair (length_flags _ _), any_withFirstPair _⟩
  · rcases Outcome.bind_ok.mp made with ⟨first, filled, rest⟩
    rw [← Outcome.pure_ok.mp rest]
    exact ⟨length_withFirstPair (length_firstChannels filled), any_withFirstPair _⟩

theorem activeMap_flagList {map : List Bool} (full : map.length = channelSlots)
    (active : map.any id = true) (count : Value) :
    Channels.activeMap (flagList map) count = .ok map := by
  change Except.ok (Channels.withFirstPair (Channels.flags (flagList map))) = .ok map
  rw [flags_flagList full, Channels.withFirstPair, if_pos active]

/-! ## Numbers -/

/-- Only a finite number is taken for a number. -/
theorem isFinite_of_asNumber {value : Value} {x : Binary64}
    (read : value.asNumber = .ok (some x)) : x.isFinite = true := by
  have finite : ∀ {y : Binary64}, y.finite? = some x → x.isFinite = true := by
    intro y kept
    rcases Binary64.finite?_eq_some.mp kept with ⟨rfl, finite⟩
    exact finite
  unfold Value.asNumber at read
  split at read
  · rcases Outcome.bind_ok.mp read with ⟨y, converted, rest⟩
    have same := Option.some.inj (Outcome.pure_ok.mp rest)
    rw [same] at converted
    have held := Number.toBinary64_int.mp converted
    unfold Binary64.ofInt? at held
    exact finite held
  · exact finite (Except.ok.inj read)
  · rcases Option.bind_eq_some_iff.mp (Except.ok.inj read) with ⟨y, _, kept⟩
    exact finite kept
  · cases Except.ok.inj read

/-- A finite binary64 number is read as itself. -/
theorem asNumber_float {x : Binary64} (finite : x.isFinite = true) :
    (Value.number (.float x)).asNumber = .ok (some x) := by
  have kept := Binary64.finite?_eq_some.mpr ⟨rfl, finite⟩
  exact congrArg Except.ok kept

/-- A font size is the default, or a positive finite number. -/
theorem fontSizeOr_spec {fallback size : Number} {value : Value}
    (made : fontSizeOr fallback value = .ok size) :
    size = fallback ∨
      ∃ x, size = .float x ∧ x.isFinite = true ∧ (0 : Number).lt (.float x) = true := by
  rcases Outcome.bind_ok.mp made with ⟨number, read, rest⟩
  cases number with
  | none => exact Or.inl (Outcome.pure_ok.mp rest).symm
  | some x =>
      have chosen := Outcome.pure_ok.mp rest
      split at chosen
      · exact Or.inr ⟨x, chosen.symm, isFinite_of_asNumber read, ‹_›⟩
      · exact Or.inl chosen.symm

theorem fontSizeOr_positive {fallback size : Number} {value : Value}
    (finite : fallback.isFinite = .ok true) (positive : (0 : Number).lt fallback = true)
    (made : fontSizeOr fallback value = .ok size) :
    size.isFinite = .ok true ∧ (0 : Number).lt size = true := by
  rcases fontSizeOr_spec made with rfl | ⟨x, rfl, found, above⟩
  · exact ⟨finite, positive⟩
  · exact ⟨congrArg Except.ok found, above⟩

theorem fontSizeOr_float {fallback : Number} {x : Binary64} (finite : x.isFinite = true)
    (positive : (0 : Number).lt (.float x) = true) :
    fontSizeOr fallback (.number (.float x)) = .ok (.float x) := by
  unfold fontSizeOr
  rw [asNumber_float finite]
  change Except.ok (if (0 : Number).lt (.float x) then .float x else fallback) = _
  rw [if_pos positive]

/-- A font size is left alone in value, if the default one is. -/
theorem fontSizeOr_again {fallback size : Number} {value : Value}
    (settled : (fontSizeOr fallback (.number fallback)).toOption.any (·.same fallback) = true)
    (made : fontSizeOr fallback value = .ok size) :
    ∃ again, fontSizeOr fallback (.number size) = .ok again ∧ again.same size = true := by
  rcases fontSizeOr_spec made with rfl | ⟨x, rfl, finite, positive⟩
  · exact Outcome.any_ok.mp settled
  · exact ⟨.float x, fontSizeOr_float finite positive, Number.same_float finite⟩

/-- A font size that is checked again stands for the same binary64 number, if the default
one does. -/
theorem asNumber_fontSizeOr {fallback size again : Number} {value : Value}
    (settled : (fontSizeOr fallback (.number fallback)).toOption.any fun again =>
      (Value.number again).asNumber = (Value.number fallback).asNumber)
    (made : fontSizeOr fallback value = .ok size)
    (remade : fontSizeOr fallback (.number size) = .ok again) :
    (Value.number again).asNumber = (Value.number size).asNumber := by
  rcases fontSizeOr_spec made with rfl | ⟨x, rfl, finite, positive⟩
  · rw [remade] at settled
    exact of_decide_eq_true settled
  · rw [fontSizeOr_float finite positive] at remade
    rw [Except.ok.inj remade]

/-- A bounded number is one of its bounds, the default, or a number between the bounds. -/
theorem boundedOr_spec {low high fallback number : Number} {value : Value}
    (made : boundedOr low high fallback value = .ok number) :
    number ∈ [low, high, fallback] ∨
      ∃ x, number = .float x ∧ x.isFinite = true ∧
        low.lt (.float x) = true ∧ (Number.float x).lt high = true := by
  rcases Outcome.bind_ok.mp made with ⟨found, read, rest⟩
  cases found with
  | none =>
      rw [← Outcome.pure_ok.mp rest]
      left
      simp
  | some x =>
      have clamped := Outcome.pure_ok.mp rest
      unfold Number.clamp Number.max Number.min at clamped
      split at clamped
      · split at clamped
        · exact Or.inr ⟨x, clamped.symm, isFinite_of_asNumber read, ‹_›, ‹_›⟩
        · rw [← clamped]
          left
          simp
      · split at clamped <;>
        · rw [← clamped]
          left
          simp

theorem boundedOr_bounds {low high fallback number : Number} {value : Value}
    (constants : ∀ constant ∈ [low, high, fallback],
      low.le constant = true ∧ constant.le high = true)
    (made : boundedOr low high fallback value = .ok number) :
    low.le number = true ∧ number.le high = true := by
  rcases boundedOr_spec made with constant | ⟨x, rfl, _, above, below⟩
  · exact constants number constant
  · exact ⟨Number.le_of_lt above, Number.le_of_lt below⟩

/-- A number between the bounds is left alone. -/
theorem boundedOr_float {low high fallback : Number} {x : Binary64} (finite : x.isFinite = true)
    (above : low.lt (.float x) = true) (below : (Number.float x).lt high = true) :
    boundedOr low high fallback (.number (.float x)) = .ok (.float x) := by
  unfold boundedOr
  rw [asNumber_float finite]
  change Except.ok (Number.clamp (.float x) low high) = _
  unfold Number.clamp Number.max Number.min
  rw [if_pos below, if_pos above]

/-- A bounded number is left alone in value, if the bounds and the default are. -/
theorem boundedOr_again {low high fallback number : Number} {value : Value}
    (settled : ∀ constant ∈ [low, high, fallback],
      (boundedOr low high fallback (.number constant)).toOption.any (·.same constant) = true)
    (made : boundedOr low high fallback value = .ok number) :
    ∃ again, boundedOr low high fallback (.number number) = .ok again ∧
      again.same number = true := by
  rcases boundedOr_spec made with constant | ⟨x, rfl, finite, above, below⟩
  · exact Outcome.any_ok.mp (settled number constant)
  · exact ⟨.float x, boundedOr_float finite above below, Number.same_float finite⟩

/-- A bounded number that is checked again stands for the same binary64 number, if the
bounds and the default do. -/
theorem asNumber_boundedOr {low high fallback number again : Number} {value : Value}
    (settled : ∀ constant ∈ [low, high, fallback],
      (boundedOr low high fallback (.number constant)).toOption.any fun again =>
        (Value.number again).asNumber = (Value.number constant).asNumber)
    (made : boundedOr low high fallback value = .ok number)
    (remade : boundedOr low high fallback (.number number) = .ok again) :
    (Value.number again).asNumber = (Value.number number).asNumber := by
  rcases boundedOr_spec made with constant | ⟨x, rfl, finite, above, below⟩
  · have kept := settled number constant
    rw [remade] at kept
    exact of_decide_eq_true kept
  · rw [boundedOr_float finite above below] at remade
    rw [Except.ok.inj remade]

/-- An integer between the bounds is left alone, if it is of moderate size. -/
theorem boundedInteger?_int {low high value : Int} (short : value.natAbs < 2 ^ 51)
    (above : low ≤ value) (below : value ≤ high) :
    boundedInteger? low high (.int value) = .ok (some value) := by
  rcases Binary64.ofInt?_exact (Nat.lt_trans short (by decide)) with ⟨x, converted, _⟩
  have read : (Value.int value).asNumber = .ok (some x) :=
    Outcome.bind_ok.mpr ⟨x, Number.toBinary64_int.mpr converted, rfl⟩
  unfold boundedInteger?
  refine Outcome.bind_ok.mpr ⟨some x, read, ?_⟩
  refine Outcome.bind_ok.mpr ⟨value, Number.roundHalfUp_ofInt? converted short, ?_⟩
  refine congrArg (fun number => Except.ok (some number)) ?_
  omega

/-- A bounded integer is between its bounds. -/
theorem boundedInteger?_spec {low high number : Int} {value : Value} (ordered : low ≤ high)
    (made : boundedInteger? low high value = .ok (some number)) :
    low ≤ number ∧ number ≤ high := by
  rcases Outcome.bind_ok.mp made with ⟨found, _, rest⟩
  cases found with
  | none => cases Outcome.pure_ok.mp rest
  | some x =>
      rcases Outcome.bind_ok.mp rest with ⟨rounded, _, chosen⟩
      rw [← Option.some.inj (Outcome.pure_ok.mp chosen)]
      omega

end Config

end TestSignal
