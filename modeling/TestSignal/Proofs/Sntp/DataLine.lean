import TestSignal.Proofs.Sntp.Search
import TestSignal.Proofs.Text.Lines

namespace TestSignal

namespace Sntp

open Text (IsLine StartsIn StartsOutside EndsIn EndsOutside isBlank endsLine)
open Reading (DecimalText)

/-!
# The data line is read

The time client ends what it prints with a data line: an offset, the plus-minus sign and a
dispersion, with dates and addresses around them.  Whatever it printed before that line, and
whatever stands in the line before the offset and after the dispersion, the two numbers are
those that are read.  Trimming the whole answer may cut into both ends of the line, but only
into what is not looked at.

A text that is found as an offset is always a number.  So reading an answer never fails: there
are numbers, or there is no offset.
-/

/-! ## Data lines -/

/-- The parts of a data line. -/
structure DataLine where
  lead : List Char
  offset : DecimalText
  before : List Char
  after : List Char
  dispersion : DecimalText
  rest : List Char
  lead_isLine : IsLine lead
  lead_unmarked : ¬plusMinus <:+: lead
  lead_ends : EndsIn isBlank lead
  before_isGap : IsGap before
  before_isLine : IsLine before
  after_isGap : IsGap after
  after_isLine : IsLine after
  unsigned : dispersion.sign = []
  ascii : ∀ c ∈ dispersion.whole ++ dispersion.places, c.isDigit = true
  rest_isLine : IsLine rest
  rest_starts : StartsIn isBlank rest

namespace DataLine

variable (line : DataLine)

/-- The measured part of a line. -/
def core : List Char :=
  line.offset.chars ++ (line.before ++ (plusMinus ++ (line.after ++ line.dispersion.chars)))

def chars : List Char := line.lead ++ (line.core ++ line.rest)

/-- What the line says, in seconds. -/
def numbers : Binary64 × Option Binary64 := (line.offset.value, some line.dispersion.value)

/-- The line without something of its front and of its end. -/
def shorten {lead rest : List Char} (isLead : lead <:+ line.lead) (isRest : rest <+: line.rest) :
    DataLine :=
  { line with
    lead, rest
    lead_isLine := fun c member => line.lead_isLine c (isLead.subset member)
    lead_unmarked := fun marked => line.lead_unmarked (marked.trans isLead.isInfix)
    lead_ends := line.lead_ends.of_suffix isLead
    rest_isLine := fun c member => line.rest_isLine c (isRest.subset member)
    rest_starts := line.rest_starts.of_prefix isRest }

/-! ## The offset of a line -/

theorem core_ne_nil : line.core ≠ [] :=
  List.append_ne_nil_of_left_ne_nil line.offset.chars_ne_nil _

theorem core_starts : StartsOutside isBlank line.core := by
  apply StartsOutside.append _ line.offset.chars_ne_nil
  exact fun c first => line.offset.isBlank_of_mem (List.mem_of_mem_head? first)

theorem core_ends : EndsOutside isBlank line.core := by
  intro c last
  rw [core, ← List.append_assoc, ← List.append_assoc, ← List.append_assoc,
    List.getLast?_append_of_ne_nil _ line.dispersion.chars_ne_nil] at last
  exact line.dispersion.isBlank_of_mem (List.mem_of_getLast? last)

theorem slash_not_mem_decimal (decimal : DecimalText) : '/' ∉ decimal.chars :=
  decimal.not_mem_chars (by decide) (by decide)

/-- An offset is no plus-minus sign. -/
theorem not_plusMinus_prefix (offset : DecimalText) (rest : List Char) :
    ¬plusMinus <+: offset.chars ++ rest := by
  intro marked
  rcases List.prefix_or_prefix_of_prefix marked (List.prefix_append offset.chars rest) with
    inside | beyond
  · exact slash_not_mem_decimal offset (inside.subset (by decide))
  · have point : '.' ∈ offset.chars :=
      List.mem_append_right _ List.mem_cons_self
    exact absurd (beyond.subset point) (by decide)

/-- No offset begins in a text without the plus-minus sign that ends in a blank: the offset
would have to end before that blank, and the sign come right after the blanks there. -/
theorem offsetAtFront?_lead {part rest : List Char} (nonempty : part ≠ [])
    (unmarked : ¬plusMinus <:+: part) (ends : EndsIn isBlank part)
    (inked : StartsOutside isBlank rest) (unsigned : ¬plusMinus <+: rest) :
    offsetAtFront? (part ++ rest) = none := by
  rw [Option.eq_none_iff_forall_ne_some]
  intro found read
  rcases eq_append_of_offsetAtFront? read with ⟨offset, gap, more, rfl, isGap, whole⟩
  have reaches : offset.chars <+: part ++ rest := ⟨_, whole.symm⟩
  rcases prefix_of_endsIn_blank (fun _ => offset.isBlank_of_mem) ends nonempty reaches with
    ⟨left, rfl⟩
  rw [List.append_assoc] at whole
  rcases List.append_eq_append_iff.mp (List.append_cancel_left whole) with
    ⟨blanks, rfl, begins⟩ | ⟨behind, rfl, begins⟩
  · -- The blanks of the offset would reach up to the end of the text, or beyond it.
    cases blanks with
    | nil => exact unsigned ⟨more, begins.symm⟩
    | cons c blanks =>
        have ink := inked c (by rw [begins]; rfl)
        rw [isGap.blank c (List.mem_append_right _ List.mem_cons_self)] at ink
        cases ink
  · by_cases exhausted : behind = []
    · rw [exhausted, List.nil_append] at begins
      exact unsigned ⟨more, begins⟩
    · have last : EndsIn isBlank behind :=
        ends.of_suffix ⟨offset.chars ++ gap, by rw [List.append_assoc]⟩
      have marked := prefix_of_endsIn_blank isBlank_of_mem_plusMinus last exhausted ⟨more, begins⟩
      apply unmarked
      exact marked.isInfix.trans ⟨offset.chars ++ gap, [], by simp⟩

theorem offsetIn?_chars : offsetIn? line.chars = some line.offset.chars := by
  have here := offsetAtFront?_append line.offset line.before_isGap
    (line.after ++ line.dispersion.chars ++ line.rest)
  have shape : line.core ++ line.rest = line.offset.chars ++
      (line.before ++ (plusMinus ++ (line.after ++ line.dispersion.chars ++ line.rest))) := by
    simp only [core, List.append_assoc]
  rw [← shape] at here
  rw [offsetIn?, chars, firstIn?_unmarked line.lead_unmarked line.lead_ends]
  · exact firstIn?_of_found (List.append_ne_nil_of_left_ne_nil line.core_ne_nil _) here
  · intro part nonempty unmarked ends
    apply offsetAtFront?_lead nonempty unmarked ends
    · exact line.core_starts.append line.core_ne_nil line.rest
    · rw [shape]
      exact not_plusMinus_prefix line.offset _

/-! ## The dispersion of a line -/

/-- A dispersion begins with the plus-minus sign, so none begins in a text without one. -/
theorem dispersionAtFront?_lead {part rest : List Char} (nonempty : part ≠ [])
    (unmarked : ¬plusMinus <:+: part) (ends : EndsIn isBlank part) :
    dispersionAtFront? (part ++ rest) = none := by
  rw [Option.eq_none_iff_forall_ne_some]
  intro found read
  have reaches := startsPlusMinus_of_dispersionAtFront? read
  exact unmarked (prefix_of_endsIn_blank isBlank_of_mem_plusMinus ends nonempty reaches).isInfix

theorem isDispersionChar_of_mem {c : Char} (member : c ∈ line.dispersion.chars) :
    isDispersionChar c = true := by
  rw [DecimalText.chars, line.unsigned, List.nil_append] at member
  rcases List.mem_append.mp member with inWhole | inPlaces
  · exact Bool.or_eq_true_iff.mpr (.inl (line.ascii c (List.mem_append_left _ inWhole)))
  · rcases List.mem_cons.mp inPlaces with rfl | inPlaces
    · decide
    · exact Bool.or_eq_true_iff.mpr (.inl (line.ascii c (List.mem_append_right _ inPlaces)))

theorem dispersionIn?_chars : dispersionIn? line.chars = some line.dispersion.chars := by
  have here := dispersionAtFront?_append line.after_isGap line.dispersion.chars_ne_nil
    (fun _ => line.isDispersionChar_of_mem) line.rest_starts
  have shape : line.core ++ line.rest = (line.offset.chars ++ line.before) ++
      (plusMinus ++ (line.after ++ (line.dispersion.chars ++ line.rest))) := by
    simp only [core, List.append_assoc]
  have unmarked : ¬plusMinus <:+: line.offset.chars ++ line.before := by
    intro marked
    have slash : '/' ∈ line.offset.chars ++ line.before := marked.subset (by decide)
    rcases List.mem_append.mp slash with inOffset | inGap
    · exact slash_not_mem_decimal line.offset inOffset
    · exact absurd (line.before_isGap.blank '/' inGap) (by decide)
  have gapEnds : EndsIn isBlank (line.offset.chars ++ line.before) := by
    intro c last
    rw [List.getLast?_append_of_ne_nil _ line.before_isGap.nonempty] at last
    exact line.before_isGap.blank c (List.mem_of_getLast? last)
  rw [dispersionIn?, chars,
    firstIn?_unmarked line.lead_unmarked line.lead_ends fun _ => dispersionAtFront?_lead, shape,
    firstIn?_unmarked unmarked gapEnds fun _ => dispersionAtFront?_lead]
  exact firstIn?_of_found (List.cons_ne_nil _ _) here

theorem readLine?_chars : readLine? (String.ofList line.chars) = some line.numbers := by
  simp only [readLine?, String.toList_ofList, line.offsetIn?_chars, line.dispersionIn?_chars,
    DecimalText.binary64?_chars, Option.bind_eq_bind, Option.bind_some]
  rfl

theorem isLine_decimal (decimal : DecimalText) : IsLine decimal.chars := by
  intro c member
  rw [Bool.eq_false_iff]
  intro ends
  have blank := Text.isBlank_of_endsLine ends
  rw [decimal.isBlank_of_mem member] at blank
  cases blank

theorem isLine_chars : IsLine line.chars := by
  have sign : IsLine plusMinus := by decide
  have behind := line.after_isLine.append (isLine_decimal line.dispersion)
  have measured := (isLine_decimal line.offset).append
    (line.before_isLine.append (sign.append behind))
  exact line.lead_isLine.append (measured.append line.rest_isLine)

theorem hasInk_chars : Text.hasInk (String.ofList line.chars) = true := by
  rcases List.exists_cons_of_ne_nil line.core_ne_nil with ⟨c, more, begins⟩
  apply List.any_eq_true.mpr
  refine ⟨c, ?_, (Bool.not_eq_true' _).mpr (line.core_starts c (by rw [begins]; rfl))⟩
  rw [String.toList_ofList, chars, begins]
  exact List.mem_append_right _ List.mem_cons_self

end DataLine

/-! ## Answers -/

/-- What the time client prints: earlier lines, the data line, and blank lines. -/
structure Answer where
  earlier : List Char
  line : DataLine
  blankLines : List Char
  earlier_ends : EndsIn endsLine earlier
  blank : ∀ c ∈ blankLines, isBlank c = true
  blankLines_start : StartsIn endsLine blankLines

namespace Answer

variable (answer : Answer)

def text : String :=
  String.ofList (answer.earlier ++ (answer.line.chars ++ answer.blankLines))

/-- Trimming leaves lines and then the data line, shortened at its ends at most. -/
theorem trim_text : ∃ earlier lead rest, EndsIn endsLine earlier ∧
    ∃ (isLead : lead <:+ answer.line.lead) (isRest : rest <+: answer.line.rest),
      (Text.trim answer.text).toList = earlier ++ (answer.line.shorten isLead isRest).chars := by
  let line := answer.line
  have front : ∃ earlier lead, EndsIn endsLine earlier ∧ lead <:+ line.lead ∧
      (answer.earlier ++ line.lead).dropWhile isBlank = earlier ++ lead := by
    rw [List.dropWhile_append]
    split
    · exact ⟨[], _, nofun, List.dropWhile_suffix isBlank, rfl⟩
    · exact ⟨_, _, answer.earlier_ends.of_suffix (List.dropWhile_suffix isBlank),
        List.suffix_refl _, rfl⟩
  have back : ((line.rest ++ answer.blankLines).reverse.dropWhile isBlank).reverse <+:
      line.rest := by
    have blank : ∀ c ∈ answer.blankLines.reverse, isBlank c = true :=
      fun c member => answer.blank c (List.mem_reverse.mp member)
    rw [List.reverse_append, List.dropWhile_append_of_pos blank]
    exact List.rdropWhile_prefix isBlank line.rest
  rcases front with ⟨earlier, lead, ends, isLead, dropped⟩
  refine ⟨earlier, lead, _, ends, isLead, back, ?_⟩
  have whole : answer.text.toList =
      (answer.earlier ++ line.lead) ++ (line.core ++ (line.rest ++ answer.blankLines)) := by
    simp only [text, String.toList_ofList, DataLine.chars, List.append_assoc, line]
  rw [Text.trim, String.toList_ofList, whole,
    Text.trimBy_append line.core_ne_nil line.core_starts line.core_ends, dropped,
    List.append_assoc]
  rfl

/-- The last line that is not blank is the data line. -/
theorem dataLine?_text : ∃ line : DataLine, line.numbers = answer.line.numbers ∧
    dataLine? answer.text = some (String.ofList line.chars) := by
  rcases answer.trim_text with ⟨earlier, lead, rest, ends, isLead, isRest, trimmed⟩
  let line := answer.line.shorten isLead isRest
  refine ⟨line, rfl, ?_⟩
  have nonempty : line.chars ≠ [] := List.append_ne_nil_of_right_ne_nil _
    (List.append_ne_nil_of_left_ne_nil line.core_ne_nil _)
  have lines : Text.lines (Text.trim answer.text) =
      (Text.lineChars earlier).map String.ofList ++ [String.ofList line.chars] := by
    rw [Text.lines, trimmed, Text.lineChars_append_line ends line.isLine_chars nonempty,
      List.map_append, List.map_singleton]
  rw [dataLine?, lines, List.filter_append, List.filter_singleton, line.hasInk_chars]
  exact List.getLast?_concat

theorem readOutput?_text : readOutput? answer.text = some answer.line.numbers := by
  rcases answer.dataLine?_text with ⟨line, same, last⟩
  rw [readOutput?, last, ← same]
  exact line.readLine?_chars

end Answer

/-! ## Answers of any kind -/

/-- The number that a text gives, or the fault that it gives none. -/
def numberOf (text : String) : Except Fault Binary64 :=
  match Reading.binary64? text with
  | some value => .ok value
  | none => .error (.reported .invalid ("could not convert string to float: " ++ Text.quoted text))

/-- An answer read so that an offset that is no number is a fault.  A dispersion that is no
number is only unknown. -/
def readChecked (output : String) : Except Fault (Option (Binary64 × Option Binary64)) :=
  match dataLine? output with
  | none => .ok none
  | some line =>
      match offsetIn? line.toList with
      | none => .ok none
      | some offset => do
          let seconds ← numberOf (String.ofList offset)
          let dispersion := (dispersionIn? line.toList).bind fun digits =>
            (numberOf (String.ofList digits)).toOption
          return some (seconds, dispersion)

theorem toOption_numberOf (text : String) : (numberOf text).toOption = Reading.binary64? text := by
  unfold numberOf
  cases Reading.binary64? text <;> rfl

/-- Whatever is found as an offset is a number. -/
theorem exists_decimal_of_offsetIn? {text offset : List Char} (found : offsetIn? text = some offset) :
    ∃ decimal : DecimalText, offset = decimal.chars := by
  rcases exists_atFront?_of_firstIn? found with ⟨part, atFront⟩
  rcases eq_append_of_offsetAtFront? atFront with ⟨decimal, _, _, same, _⟩
  exact ⟨decimal, same⟩

/-- Reading an answer never fails. -/
theorem readChecked_eq (output : String) : readChecked output = .ok (readOutput? output) := by
  unfold readChecked readOutput?
  cases dataLine? output with
  | none => rfl
  | some line =>
      cases found : offsetIn? line.toList with
      | none => simp only [readLine?, found, Option.bind_eq_bind, Option.bind_some, Option.bind_none]
      | some offset =>
          rcases exists_decimal_of_offsetIn? found with ⟨decimal, rfl⟩
          have number : numberOf (String.ofList decimal.chars) = .ok decimal.value := by
            rw [numberOf, decimal.binary64?_chars]
          simp only [readLine?, found, number, toOption_numberOf, decimal.binary64?_chars,
            Option.bind_eq_bind, Option.bind_some]
          rfl

/--
An answer that ends in a data line is read as the numbers of that line, whatever stands around
them.  And whatever an answer is, reading it never fails.
-/
theorem reads_dataLine :
    (∀ answer : Answer, ∃ offset dispersion,
      Reading.binary64? (String.ofList answer.line.offset.chars) = some offset ∧
      Reading.binary64? (String.ofList answer.line.dispersion.chars) = some dispersion ∧
      readOutput? answer.text = some (offset, some dispersion)) ∧
    ∀ output, readChecked output = .ok (readOutput? output) := by
  refine ⟨fun answer => ⟨_, _, ?_, ?_, answer.readOutput?_text⟩, readChecked_eq⟩
  · exact answer.line.offset.binary64?_chars
  · exact answer.line.dispersion.binary64?_chars

/-- A line with a date, a time and a zone in front of the offset, and another plus-minus sign
behind the dispersion. -/
def showcaseLine : DataLine where
  lead := "2024-01-01 12:00:00.123 (+0100) ".toList
  offset :=
    { sign := ['-'], whole := ['0'], places := "012345".toList, isSign := .inr (.inr rfl)
      isWhole := ⟨by decide, List.all_eq_true.mp (by decide)⟩
      isPlaces := ⟨by decide, List.all_eq_true.mp (by decide)⟩ }
  before := [' ', '\t']
  after := ['\u2003']
  dispersion :=
    { sign := [], whole := ['0'], places := "025".toList, isSign := .inl rfl
      isWhole := ⟨by decide, List.all_eq_true.mp (by decide)⟩
      isPlaces := ⟨by decide, List.all_eq_true.mp (by decide)⟩ }
  rest := " time.example +/- 9.9 s1".toList
  lead_isLine := by decide
  lead_unmarked := by decide +kernel
  lead_ends := by rintro c ⟨⟩; decide
  before_isGap := ⟨by decide, List.all_eq_true.mp (by decide)⟩
  before_isLine := by decide
  after_isGap := ⟨by decide, List.all_eq_true.mp (by decide)⟩
  after_isLine := by decide
  unsigned := rfl
  ascii := List.all_eq_true.mp (by decide)
  rest_isLine := by decide
  rest_starts := by rintro c ⟨⟩; decide

/-- The line after a heading that looks like one, and before blank lines. -/
def showcaseAnswer : Answer where
  earlier := "sntp 4.2 +7.5 +/- 1.0\r".toList
  line := showcaseLine
  blankLines := "\n \n".toList
  earlier_ends := by rintro c ⟨⟩; decide
  blank := List.all_eq_true.mp (by decide)
  blankLines_start := by rintro c ⟨⟩; decide

theorem reads_dataLine_showcase :
    readOutput? ("sntp 4.2 +7.5 +/- 1.0\r2024-01-01 12:00:00.123 (+0100) -0.012345 \t+/-\u2003" ++
      "0.025 time.example +/- 9.9 s1\n \n") =
        some (.ofDecimal true 12345 (-6), some (.ofDecimal false 25 (-3))) := by
  have text : showcaseAnswer.text =
      "sntp 4.2 +7.5 +/- 1.0\r2024-01-01 12:00:00.123 (+0100) -0.012345 \t+/-\u2003" ++
        "0.025 time.example +/- 9.9 s1\n \n" := by
    decide
  have offsetDigits : showcaseLine.offset.coefficient = 12345 := by decide +kernel
  have dispersionDigits : showcaseLine.dispersion.coefficient = 25 := by decide +kernel
  have offsetValue : showcaseLine.offset.value = .ofDecimal true 12345 (-6) :=
    congrArg (Binary64.ofDecimal true · (-6)) offsetDigits
  have dispersionValue : showcaseLine.dispersion.value = .ofDecimal false 25 (-3) :=
    congrArg (Binary64.ofDecimal false · (-3)) dispersionDigits
  rcases reads_dataLine.1 showcaseAnswer with ⟨offset, dispersion, isOffset, isDispersion, read⟩
  have sameOffset := Option.some.inj (isOffset.symm.trans showcaseLine.offset.binary64?_chars)
  have sameDispersion :=
    Option.some.inj (isDispersion.symm.trans showcaseLine.dispersion.binary64?_chars)
  rw [← text, read, sameOffset, sameDispersion, offsetValue, dispersionValue]

end Sntp

end TestSignal
