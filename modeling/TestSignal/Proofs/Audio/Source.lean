import TestSignal.Proofs.Audio.Flashing
import TestSignal.Text.Split

namespace TestSignal

open Outcome

/-!
# The text of the audio source

The engine reads the description of a source as options with colons between them, and the
first option as expressions with bars between them.  The expressions stand there without
quotes.  So they must have none of the marks that end an expression, an option or a filter,
the comma between two arguments needs a backslash, and every bracket that is opened is closed.

A text of this kind is called tidy.  Tidy texts may be put side by side and into brackets, so
the text of an expression is tidy when its symbols are words: one case for each kind of node.
The sound knows two symbols, whatever is asked of a slot.
-/

namespace Audio

/-! ## Delimited texts -/

/-- The marks that end an expression, an option or a filter, and those around pads and
quoted text. -/
def sourceMarks : List Char := ['|', ':', ';', '\x27', '[', ']']

/-- The open brackets behind a character; a bracket that is not open cannot be closed. -/
def countOpen? (depth : Nat) (c : Char) : Option Nat :=
  if c = '(' then some (depth + 1)
  else if c = ')' then (if depth = 0 then none else some (depth - 1))
  else some depth

def openAfter? (depth : Nat) (text : List Char) : Option Nat := text.foldlM countOpen? depth

/-- A text that can stand without quotes as one expression of a source. -/
structure Delimited (text : List Char) : Prop where
  unmarked : ∀ c ∈ text, c ∉ sourceMarks
  /-- In front of a comma there is one backslash, and not a second one. -/
  commas_escaped : ∀ before after, text = before ++ ',' :: after →
    ∃ kept, before = kept ++ ['\x5c'] ∧ kept.getLast? ≠ some '\x5c'
  balanced : openAfter? 0 text = some 0

/-! ## Commas -/

/-- A text of characters that are neither comma nor backslash, and of pairs of the two. -/
inductive Paired : List Char → Prop where
  | nil : Paired []
  | plain {c : Char} {rest : List Char} :
      c ≠ ',' → c ≠ '\x5c' → Paired rest → Paired (c :: rest)
  | comma {rest : List Char} : Paired rest → Paired ('\x5c' :: ',' :: rest)

namespace Paired

variable {left right text : List Char}

theorem append (first : Paired left) (second : Paired right) : Paired (left ++ right) := by
  induction first with
  | nil => exact second
  | plain noComma noBackslash _ inductionHypothesis =>
      exact .plain noComma noBackslash inductionHypothesis
  | comma _ inductionHypothesis => exact .comma inductionHypothesis

theorem ofPlain (plain : ∀ c ∈ text, c ≠ ',' ∧ c ≠ '\x5c') : Paired text := by
  induction text with
  | nil => exact .nil
  | cons c rest inductionHypothesis =>
      rcases List.forall_mem_cons.mp plain with ⟨first, others⟩
      exact .plain first.1 first.2 (inductionHypothesis others)

/-- A character in front leaves the last one alone, and is the last one of nothing else. -/
theorem getLast?_cons_ne {c : Char} (other : c ≠ '\x5c') {kept : List Char}
    (single : kept.getLast? ≠ some '\x5c') : (c :: kept).getLast? ≠ some '\x5c' := by
  cases kept with
  | nil => exact fun same => other (Option.some.inj same)
  | cons d rest => rwa [List.getLast?_cons_cons]

/-- Every comma is one of a pair, and what is in front of the pair ends in no backslash. -/
theorem exists_before (paired : Paired text) {before after : List Char}
    (split : text = before ++ ',' :: after) :
    ∃ kept, before = kept ++ ['\x5c'] ∧ kept.getLast? ≠ some '\x5c' := by
  induction paired generalizing before with
  | nil => exact absurd split (by simp)
  | plain noComma noBackslash _ inductionHypothesis =>
      cases before with
      | nil => exact absurd (List.cons.inj split).1 noComma
      | cons c front =>
          rcases List.cons.inj split with ⟨rfl, rest⟩
          rcases inductionHypothesis rest with ⟨kept, rfl, single⟩
          exact ⟨_ :: kept, rfl, getLast?_cons_ne noBackslash single⟩
  | comma _ inductionHypothesis =>
      cases before with
      | nil => exact absurd (List.cons.inj split).1 (by decide)
      | cons c front =>
          rcases List.cons.inj split with ⟨rfl, pair⟩
          cases front with
          | nil => exact ⟨[], rfl, nofun⟩
          | cons d front =>
              rcases List.cons.inj pair with ⟨rfl, rest⟩
              rcases inductionHypothesis rest with ⟨kept, rfl, single⟩
              refine ⟨'\x5c' :: ',' :: kept, rfl, ?_⟩
              rw [List.getLast?_cons_cons]
              exact getLast?_cons_ne (by decide) single

end Paired

/-! ## Brackets -/

theorem openAfter?_append (depth : Nat) (left right : List Char) :
    openAfter? depth (left ++ right) =
      (openAfter? depth left).bind fun between => openAfter? between right :=
  List.foldlM_append

theorem openAfter?_of_plain {text : List Char} (plain : ∀ c ∈ text, c ≠ '(' ∧ c ≠ ')')
    (depth : Nat) : openAfter? depth text = some depth := by
  induction text with
  | nil => rfl
  | cons c rest inductionHypothesis =>
      rcases List.forall_mem_cons.mp plain with ⟨first, others⟩
      have kept : countOpen? depth c = some depth := by
        unfold countOpen?
        rw [if_neg first.1, if_neg first.2]
      unfold openAfter?
      rw [List.foldlM_cons, kept]
      exact inductionHypothesis others

/-! ## Tidy texts -/

/-- A text that can be put anywhere between other tidy texts, in however many brackets. -/
structure Tidy (text : String) : Prop where
  unmarked : Avoids sourceMarks text
  paired : Paired text.toList
  neutral : ∀ depth, openAfter? depth text.toList = some depth

/-- The marks that a word of an expression keeps away from. -/
def wordMarks : List Char := ',' :: '\x5c' :: '(' :: ')' :: sourceMarks

namespace Tidy

variable {left right inner text : String}

theorem append (first : Tidy left) (second : Tidy right) : Tidy (left ++ right) where
  unmarked := first.unmarked.append second.unmarked
  paired := by
    rw [String.toList_append]
    exact first.paired.append second.paired
  neutral depth := by
    rw [String.toList_append, openAfter?_append, first.neutral]
    exact second.neutral depth

theorem ofWord (word : Avoids wordMarks text) : Tidy text where
  unmarked := word.weaken (by decide)
  paired := .ofPlain fun c member =>
    ⟨fun same => word c member (by rw [same]; decide),
      fun same => word c member (by rw [same]; decide)⟩
  neutral := openAfter?_of_plain fun c member =>
    ⟨fun same => word c member (by rw [same]; decide),
      fun same => word c member (by rw [same]; decide)⟩

theorem literal {chars : List Char} (plain : keepsFrom wordMarks chars = true) :
    Tidy (String.ofList chars) :=
  ofWord (.literal plain)

theorem comma : Tidy "\\," where
  unmarked := .literal rfl
  paired := .comma .nil
  neutral _ := rfl

/-- The bracket that is opened in front of a tidy text is the one that is closed behind it. -/
theorem brackets (tidy : Tidy inner) : Tidy ("(" ++ inner ++ ")") where
  unmarked := (Avoids.append (.literal rfl) tidy.unmarked).append (.literal rfl)
  paired := by
    rw [String.toList_append, String.toList_append]
    have opening : Paired ['('] := .plain (by decide) (by decide) .nil
    have closing : Paired [')'] := .plain (by decide) (by decide) .nil
    exact (opening.append tidy.paired).append closing
  neutral depth := by
    rw [String.toList_append, String.toList_append, openAfter?_append, openAfter?_append]
    change ((openAfter? (depth + 1) inner.toList).bind _) = _
    rw [tidy.neutral]
    rfl

theorem delimited (tidy : Tidy text) : Delimited text.toList where
  unmarked := tidy.unmarked
  commas_escaped _ _ split := tidy.paired.exists_before split
  balanced := tidy.neutral 0

end Tidy

end Audio

/-! ## Expressions -/

namespace Expr

open Audio

/-- The symbols of an expression, in the order of the text. -/
def symbols : Expr → List String
  | numeral _ => []
  | symbol text => [text]
  | paren inner => inner.symbols
  | add left right | sub left right | mul left right | div left right =>
      left.symbols ++ right.symbols
  | call _ argument => argument.symbols
  | call2 _ first second => first.symbols ++ second.symbols
  | call3 _ first second third => first.symbols ++ second.symbols ++ third.symbols

/-- A name and an argument in brackets behind it. -/
theorem tidy_call {name argument : String} (named : Tidy name) (tidy : Tidy argument) :
    Tidy (name ++ "(" ++ argument ++ ")") := by
  have whole := named.append tidy.brackets
  simp only [← String.append_assoc] at whole
  exact whole

/-- An expression whose symbols are words has a tidy text. -/
theorem tidy_escapedText {e : Expr} (words : ∀ name ∈ e.symbols, Avoids wordMarks name) :
    Tidy e.escapedText := by
  unfold escapedText
  induction e with
  | numeral value => exact .ofWord (.ofTest (by decide) value.isNumeral_toText)
  | symbol text => exact .ofWord (words text List.mem_cons_self)
  | paren inner inductionHypothesis => exact (inductionHypothesis words).brackets
  | add left right leftHypothesis rightHypothesis
  | sub left right leftHypothesis rightHypothesis
  | mul left right leftHypothesis rightHypothesis
  | div left right leftHypothesis rightHypothesis =>
      rcases List.forall_mem_append.mp words with ⟨first, second⟩
      exact ((leftHypothesis first).append (.literal rfl)).append (rightHypothesis second)
  | call function argument inductionHypothesis =>
      have name : Tidy function.name := by cases function <;> exact .literal rfl
      exact tidy_call name (inductionHypothesis words)
  | call2 function first second firstHypothesis secondHypothesis =>
      have name : Tidy function.name := by cases function <;> exact .literal rfl
      rcases List.forall_mem_append.mp words with ⟨inFirst, inSecond⟩
      have arguments := ((firstHypothesis inFirst).append .comma).append (secondHypothesis inSecond)
      have whole := tidy_call name arguments
      simp only [← String.append_assoc] at whole
      exact whole
  | call3 function first second third firstHypothesis secondHypothesis thirdHypothesis =>
      have name : Tidy function.name := by cases function <;> exact .literal rfl
      rcases List.forall_mem_append.mp words with ⟨inBoth, inThird⟩
      rcases List.forall_mem_append.mp inBoth with ⟨inFirst, inSecond⟩
      have arguments := ((((firstHypothesis inFirst).append .comma).append
        (secondHypothesis inSecond)).append .comma).append (thirdHypothesis inThird)
      have whole := tidy_call name arguments
      simp only [← String.append_assoc] at whole
      exact whole

end Expr

namespace Audio

/-! ## The expressions of the slots -/

/-- The circle's constant and the stream time are the only symbols of the sound. -/
def soundSymbols : List String := ["PI", "t"]

theorem symbols_carrier (slot : Slot) (frequency : Number) :
    (carrier slot frequency).symbols ⊆ soundSymbols := by
  unfold carrier
  dsimp only
  split
  · exact (by decide : ["PI", "t", "t"] ⊆ soundSymbols)
  · exact (by decide : ["PI", "t"] ⊆ soundSymbols)

theorem symbols_flash {fps : Number} {gates : FlashGates} (gated : flashGates fps = .ok gates) :
    (Expr.add (leadFlash gates) (tailFlash gates)).symbols ⊆ soundSymbols := by
  rcases bind_ok.mp gated with ⟨length, _, gated⟩
  rw [← pure_ok.mp gated]
  exact (by decide : ["PI", "t", "t", "PI", "t", "t"] ⊆ soundSymbols)

theorem symbols_slotExpr {slot : Slot} {frequency fps : Number} {e : Expr}
    (made : slotExpr slot frequency fps = .ok e) : e.symbols ⊆ soundSymbols := by
  unfold slotExpr at made
  split at made
  case isTrue =>
      rw [← pure_ok.mp made]
      exact List.nil_subset _
  case isFalse =>
      split at made
      case isFalse =>
          rw [← pure_ok.mp made]
          exact symbols_carrier slot frequency
      case isTrue =>
          rcases bind_ok.mp made with ⟨gates, gated, made⟩
          have pair := symbols_flash gated
          split at made
          case isTrue =>
              rw [← pure_ok.mp made]
              change ((carrier slot frequency).symbols ++ (leadFlash gates).symbols) ++
                (tailFlash gates).symbols ⊆ soundSymbols
              rw [List.append_assoc]
              exact List.append_subset.mpr ⟨symbols_carrier slot frequency, pair⟩
          case isFalse =>
              rw [← pure_ok.mp made]
              exact pair

/-- Whatever a slot is asked to carry, its expression has a tidy text. -/
theorem tidy_slotExpr {slot : Slot} {frequency fps : Number} {e : Expr}
    (made : slotExpr slot frequency fps = .ok e) : Tidy e.escapedText := by
  refine Expr.tidy_escapedText fun name member => ?_
  have known := symbols_slotExpr made member
  simp only [soundSymbols, List.mem_cons, List.not_mem_nil, or_false] at known
  rcases known with rfl | rfl <;> exact .literal rfl

/-! ## Silence -/

/-- A tone is named wherever it is multiplied with something. -/
theorem mem_product (frequency : Number) (factor : Expr) :
    's' ∈ (Expr.paren (.mul (tone frequency) factor)).escapedText.toList := by
  change 's' ∈ ("(" ++ ((tone frequency).escapedText ++ "*" ++ factor.escapedText) ++ ")").toList
  rw [escapedText_tone]
  simp

theorem mem_carrier (slot : Slot) (frequency : Number) :
    's' ∈ (carrier slot frequency).escapedText.toList := by
  unfold carrier
  dsimp only
  split
  · exact mem_product _ cycleEnvelope
  · rw [escapedText_tone]
    simp

/-- What an active slot carries has a tone in it. -/
theorem mem_slotExpr {slot : Slot} {frequency fps : Number} {e : Expr}
    (made : slotExpr slot frequency fps = .ok e) (active : slot.active = true) :
    's' ∈ e.escapedText.toList := by
  unfold slotExpr at made
  rw [active, Bool.not_true, if_neg Bool.false_ne_true] at made
  split at made
  case isFalse =>
      rw [← pure_ok.mp made]
      exact mem_carrier slot frequency
  case isTrue =>
      rcases bind_ok.mp made with ⟨gates, _, made⟩
      have lead : 's' ∈ (leadFlash gates).escapedText.toList := mem_product leadFrequency gates.lead
      split at made
      case isTrue =>
          rw [← pure_ok.mp made]
          exact (Expr.Within.addLeft (.addRight .here)).occurs.mem lead
      case isFalse =>
          rw [← pure_ok.mp made]
          exact (Expr.Within.addLeft .here).occurs.mem lead

/-- A slot carries the silence exactly when it is not active. -/
theorem escapedText_slotExpr_eq_silence_iff {slot : Slot} {frequency fps : Number} {e : Expr}
    (made : slotExpr slot frequency fps = .ok e) :
    e.escapedText = silence.escapedText ↔ slot.active = false := by
  constructor
  · intro silent
    rw [← Bool.not_eq_true]
    intro active
    have sounds := mem_slotExpr made active
    rw [silent] at sounds
    exact absurd sounds (by decide)
  · intro inactive
    unfold slotExpr at made
    rw [inactive, Bool.not_false, if_pos rfl] at made
    rw [← pure_ok.mp made]

namespace Plan.MadeFrom

variable {channelMap idCycle flash force400 frequency : Value} {fps : Number} {plan : Plan}

theorem length_expressions
    (made : plan.MadeFrom channelMap idCycle flash force400 frequency fps) :
    plan.expressions.length = channelSlots := by
  rw [length_of_mapM_ok made.expressions, List.length_range]

/-- The expressions of a plan have the order of its slots. -/
theorem silent_iff (made : plan.MadeFrom channelMap idCycle flash force400 frequency fps)
    {index : Nat} {e : Expr} (placed : plan.expressions[index]? = some e) :
    e.escapedText = silence.escapedText ↔ plan.channelMap.getD index false = false := by
  have bound : index < channelSlots := by
    rw [← made.length_expressions]
    exact (List.getElem?_eq_some_iff.mp placed).1
  rcases exists_getElem?_of_mapM_ok made.expressions (List.getElem?_range bound)
    with ⟨found, same, voiced⟩
  rw [Option.some.inj (placed.symm.trans same)]
  exact escapedText_slotExpr_eq_silence_iff voiced

end Plan.MadeFrom

/-! ## The source, read back -/

/-- The parts of the description of a source. -/
structure SourceParts where
  expressions : List String
  options : List String
  deriving DecidableEq

/-- Reads the description of a source: expressions between bars, up to the first colon, and
options between colons. -/
def readSource? (text : String) : Option SourceParts := do
  let body ← text.toList.dropPrefix? "aevalsrc=exprs=".toList
  let (expressions, options) := Text.cut ':' body
  return {
    expressions := (expressions.splitOn '|').map String.ofList
    options := (options.splitOn ':').map String.ofList }

/-- Texts without a separator are the pieces of what they are joined to. -/
theorem map_ofList_splitOn {separator : Char} {texts : List String} (nonempty : texts ≠ [])
    (free : ∀ text ∈ texts, separator ∉ text.toList) :
    (([separator].intercalate (texts.map String.toList)).splitOn separator).map String.ofList =
      texts := by
  rw [List.splitOn_intercalate separator (by simpa using free) (by simpa using nonempty),
    List.map_map]
  exact List.map_id'' (fun text => String.ofList_toList) texts

/-- What is joined has no mark that neither the texts have nor the separator. -/
theorem not_mem_intercalate {mark separator : Char} (other : mark ≠ separator)
    {texts : List String} (free : ∀ text ∈ texts, mark ∉ text.toList) :
    mark ∉ [separator].intercalate (texts.map String.toList) := by
  induction texts with
  | nil => exact List.not_mem_nil
  | cons first rest inductionHypothesis =>
      rcases List.forall_mem_cons.mp free with ⟨start, others⟩
      cases rest with
      | nil => simpa using start
      | cons second more =>
          have later := inductionHypothesis others
          simp only [List.map_cons, List.intercalate_cons_cons, List.mem_append,
            List.mem_singleton, not_or] at later ⊢
          exact ⟨⟨start, other⟩, later⟩

/-- A plan for two channels or for eight has the name of their layout. -/
theorem layout_synthesize {channelMap idCycle flash force400 frequency : Value} {fps : Number}
    {plan : Plan} (made : synthesize channelMap idCycle flash force400 frequency fps = .ok plan) :
    plan.layout = "stereo" ∨ plan.layout = "7.1" := by
  rcases bind_ok.mp made with ⟨map, _, made⟩
  rcases bind_ok.mp made with ⟨tuned, _, made⟩
  rcases bind_ok.mp made with ⟨expressions, _, made⟩
  rw [← pure_ok.mp made]
  change layoutName (channelCount map) = _ ∨ layoutName (channelCount map) = _
  unfold channelCount
  split
  · exact .inr (by decide)
  · exact .inl (by decide)

/-- A source is read back when its texts have no separators in them. -/
theorem readSource?_source {plan : Plan} (voiced : plan.expressions ≠ [])
    (delimited : ∀ e ∈ plan.expressions, Delimited e.escapedText.toList)
    (named : ':' ∉ plan.layout.toList) :
    readSource? plan.source = some
      { expressions := plan.expressions.map Expr.escapedText
        options := ["sample_rate=" ++ toString sampleRate, "channel_layout=" ++ plan.layout] } := by
  let texts := plan.expressions.map Expr.escapedText
  let options := ["sample_rate=" ++ toString sampleRate, "channel_layout=" ++ plan.layout]
  have free (mark : Char) (marked : mark ∈ sourceMarks) : ∀ text ∈ texts, mark ∉ text.toList := by
    intro text member inText
    rcases List.mem_map.mp member with ⟨e, inPlan, rfl⟩
    exact (delimited e inPlan).unmarked mark inText marked
  have optionsFree : ∀ text ∈ options, ':' ∉ text.toList := by
    have digits : ':' ∉ (toString sampleRate).toList := by
      intro member
      rw [Nat.toString_eq_repr, Nat.toList_repr] at member
      exact absurd (Nat.isDigit_of_mem_toDigits (by decide) (by decide) member) (by decide)
    have behind (name value : String) (plain : ':' ∉ name.toList) (free : ':' ∉ value.toList) :
        ':' ∉ (name ++ value).toList := by
      rw [String.toList_append, List.mem_append, not_or]
      exact ⟨plain, free⟩
    exact List.forall_mem_cons.mpr ⟨behind "sample_rate=" _ (by decide) digits,
      List.forall_mem_singleton.mpr (behind "channel_layout=" _ (by decide) named)⟩
  have written (rate : String) : ("aevalsrc=exprs=" ++ plan.expressionsText ++ ":sample_rate=" ++
      rate ++ ":channel_layout=" ++ plan.layout).toList = "aevalsrc=exprs=".toList ++
      (['|'].intercalate (texts.map String.toList) ++ ':' ::
        [':'].intercalate (["sample_rate=" ++ rate, "channel_layout=" ++ plan.layout].map
          String.toList)) := by
    simp [Plan.expressionsText, texts]
  have noColon := not_mem_intercalate (show ':' ≠ '|' by decide) (free ':' (by decide))
  have pieces := map_ofList_splitOn (by simpa [texts] using voiced) (free '|' (by decide))
  have settings := map_ofList_splitOn (List.cons_ne_nil _ _) optionsFree
  unfold readSource? Plan.source
  rw [written, List.dropPrefix?_append_of_beq _ (beq_self_eq_true _), Option.bind_eq_bind,
    Option.bind_some, Text.cut_append noColon]
  dsimp only
  rw [pieces, settings]
  rfl

/--
The source is one well-delimited text.  Whatever the lists, the frequency and the rate are, the
expressions of a plan can stand in it without quotes, and the source is read back as these
expressions, one for each slot, and the two options behind them.
-/
theorem synthesize_delimited {channelMap idCycle flash force400 frequency : Value} {fps : Number}
    {plan : Plan} (made : synthesize channelMap idCycle flash force400 frequency fps = .ok plan) :
    plan.expressions.length = channelSlots ∧
      (∀ e ∈ plan.expressions, Delimited e.escapedText.toList) ∧
      readSource? plan.source = some
        { expressions := plan.expressions.map Expr.escapedText
          options := ["sample_rate=" ++ toString sampleRate, "channel_layout=" ++ plan.layout] } := by
  have parts := madeFrom_synthesize made
  have count := parts.length_expressions
  have delimited : ∀ e ∈ plan.expressions, Delimited e.escapedText.toList := by
    intro e member
    rcases exists_item_of_mapM_ok parts.expressions member with ⟨slot, _, voiced⟩
    exact (tidy_slotExpr voiced).delimited
  have voiced : plan.expressions ≠ [] := by
    intro none
    rw [none] at count
    exact absurd count (by decide)
  have named : ':' ∉ plan.layout.toList := by
    rcases layout_synthesize made with layout | layout <;> rw [layout] <;> decide
  exact ⟨count, delimited, readSource?_source voiced delimited named⟩

/-- The first channel identifies itself and flashes, the fourth has the forced tone, at a
frequency between two integers and a rate that divides no sample rate. -/
theorem synthesize_delimited_showcase :
    ∃ plan, synthesize (.list [.bool true, .null, .null, .int 1]) (.list [.bool true])
        (.list [.string "on"]) (.list [.null, .null, .null, .bool true])
        (.number (Number.decimal 4405 1)) (Number.decimal 2997 2) = .ok plan ∧
      plan.expressions.length = 8 ∧
      readSource? plan.source = some
        { expressions := plan.expressions.map Expr.escapedText
          options := ["sample_rate=48000", "channel_layout=7.1"] } := by
  have finishes : (synthesize (.list [.bool true, .null, .null, .int 1]) (.list [.bool true])
      (.list [.string "on"]) (.list [.null, .null, .null, .bool true])
      (.number (Number.decimal 4405 1)) (Number.decimal 2997 2)).toOption.any
        (fun plan => plan.layout = "7.1") = true := by decide +kernel
  rcases any_ok.mp finishes with ⟨plan, made, layout⟩
  rcases synthesize_delimited made with ⟨count, _, reads⟩
  rw [of_decide_eq_true layout] at reads
  exact ⟨plan, made, count, reads⟩

end Audio

end TestSignal
