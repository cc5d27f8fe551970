import TestSignal.Text.Digit

namespace TestSignal

namespace CommandLine

/-!
# Options of a command line

An option is named by a letter behind one dash or by a word behind two.  A word
may be shortened as long as it stays unambiguous, letters without arguments may
be written together, and an argument follows its option as the next word, after
an equals sign, or directly behind a letter.  Letters written together are known
all or the whole word is a misuse, and the first of them may have an equals sign
behind it.

The words are first told apart one by one, and then read in order into
occurrences of options and words that belong to none.  Reading never fails as a
whole: a misuse is the last item that is read, so what stands in the words before
it still counts, a question for help for instance.
-/

/-- The options of one command, each with its spellings and whether it takes an argument. -/
structure Options (α : Type) where
  spellings : List (String × α)
  takesArgument : α → Bool

/-! ## Telling words apart -/

/-- An argument that is written in the same word as its option. -/
inductive Attached where
  | none
  /-- Behind a letter, directly or after an equals sign. -/
  | joined (text : List Char)
  /-- Behind a word, after an equals sign. -/
  | equals (text : List Char)
  deriving DecidableEq

inductive WordKind (α : Type) where
  | plain
  /-- Two dashes alone: only plain words follow. -/
  | separator
  | known (option : α) (attached : Attached)
  /-- It looks like an option and is none. -/
  | unknown
  /-- It shortens several options. -/
  | ambiguous

structure Word (α : Type) where
  text : String
  kind : WordKind α

/-- Whether a text is digits alone, at least one. -/
def isDigits (text : List Char) : Bool := !text.isEmpty && text.all Text.isDigit

/-- A minus sign and a number without exponent; one line feed may follow. -/
def isNegativeNumber (text : List Char) : Bool :=
  match text with
  | '-' :: number =>
      let body := if number.getLast? = some '\n' then number.dropLast else number
      let whole := body.takeWhile Text.isDigit
      match body.dropWhile Text.isDigit with
      | [] => isDigits whole
      | '.' :: places => isDigits places
      | _ => false
  | _ => false

/-- Splits a word at its first equals sign. -/
def splitAtEquals (word : List Char) : List Char × Option (List Char) :=
  match word.dropWhile (· != '=') with
  | _ :: argument => (word.takeWhile (· != '='), some argument)
  | [] => (word, none)

/-- An argument after an equals sign, if there is one. -/
def attachedBehindEquals (behindLetter : Bool) : Option (List Char) → Attached
  | some argument => if behindLetter then .joined argument else .equals argument
  | none => .none

namespace Options

variable {α : Type}

def find? (options : Options α) (spelling : List Char) : Option α :=
  options.spellings.lookup (String.ofList spelling)

/-- The options that begin with a text. -/
def startingWith (options : Options α) (start : List Char) : List α :=
  (options.spellings.filter fun pair => start.isPrefixOf pair.1.toList).map Prod.snd

/-- A word that is neither an option as it stands nor with an argument after an equals sign. -/
def indirectKind (options : Options α) (word : List Char) : WordKind α :=
  let candidates : List (WordKind α) :=
    match word with
    | '-' :: '-' :: _ =>
        let (start, argument) := splitAtEquals word
        (options.startingWith start).map fun option =>
          .known option (attachedBehindEquals false argument)
    | '-' :: letter :: rest =>
        ((options.find? ['-', letter]).map fun option => .known option (.joined rest)).toList
    | _ => []
  match candidates with
  | [kind] => kind
  | _ :: _ => .ambiguous
  | [] => if isNegativeNumber word || ' ' ∈ word then .plain else .unknown

/-- What one word is. -/
def kindOf (options : Options α) (word : List Char) : WordKind α :=
  match word with
  | '-' :: second :: _ =>
      let (name, argument) := splitAtEquals word
      match options.find? word, options.find? name with
      | some option, _ => .known option .none
      | none, some option => .known option (attachedBehindEquals (second != '-') argument)
      | none, none => options.indirectKind word
  | _ => .plain

/-- What each word is; behind a separator every word is plain. -/
def words (options : Options α) : List String → List (Word α)
  | [] => []
  | text :: rest =>
      if text = "--" then
        { text, kind := .separator } :: rest.map fun later => { text := later, kind := .plain }
      else { text, kind := options.kindOf text.toList } :: words options rest

end Options

/-! ## Reading words -/

inductive Item (α : Type) where
  | option (option : α) (argument : Option String)
  /-- A word that belongs to no option. -/
  | stray
  /-- The words cannot be read any further. -/
  | misuse

/-- What one word of options gives. -/
inductive Bundle (α : Type) where
  | complete (items : List (Item α))
  /-- The last option still needs its argument. -/
  | pending (items : List (Item α)) (last : α)
  | misuse

namespace Bundle

variable {α : Type}

def after (item : Item α) : Bundle α → Bundle α
  | complete items => complete (item :: items)
  | pending items last => pending (item :: items) last
  | misuse => misuse

end Bundle

namespace Options

variable {α : Type}

/-- An option with nothing behind it in its word. -/
def bare (options : Options α) (option : α) : Bundle α :=
  if options.takesArgument option then .pending [] option else .complete [.option option none]

/-- An attached argument; two dashes alone are none. -/
def attachedArgument (text : List Char) : Option String :=
  if text = ['-', '-'] then none else some (String.ofList text)

/-- A word with an argument after an equals sign, which it must take. -/
def withArgument (options : Options α) (option : α) (argument : List Char) : Bundle α :=
  if options.takesArgument option then .complete [.option option (attachedArgument argument)]
  else .misuse

/--
A letter with characters behind it: its argument, or further letters, of which
the last may be followed by nothing.
-/
def letters (options : Options α) (option : α) : List Char → Bundle α
  | [] => options.withArgument option []
  | next :: rest =>
      if options.takesArgument option then options.withArgument option (next :: rest)
      else
        match options.find? ['-', next] with
        | none => .misuse
        | some known =>
            let following :=
              if rest.isEmpty then options.bare known else options.letters known rest
            following.after (.option option none)

/-- What a word that is an option gives. -/
def bundle (options : Options α) (option : α) : Attached → Bundle α
  | .none => options.bare option
  | .joined behind => options.letters option behind
  | .equals argument => options.withArgument option argument

/-- Reads words into items, up to the first misuse. -/
def items (options : Options α) : List (Word α) → List (Item α)
  | [] => []
  | word :: rest =>
      match word.kind with
      | .known option attached =>
          match options.bundle option attached with
          | .complete found => found ++ options.items rest
          | .pending found last =>
              match rest with
              | { text, kind := .plain } :: more =>
                  found ++ .option last (some text) :: options.items more
              | _ => [.misuse]
          | .misuse => [.misuse]
      | _ => .stray :: options.items rest

/-- Whether a word leaves open what it means. -/
def isAmbiguous (words : List (Word α)) : Bool :=
  words.any fun word =>
    match word.kind with
    | .ambiguous => true
    | _ => false

end Options

/-! ## Applying items -/

/-- Why a command line is not carried out. -/
inductive Refusal where
  /-- It asks for help. -/
  | help
  | misuse
  deriving DecidableEq

/--
Applies the options in order.  The flag tells whether a stray word was met, which
is a misuse only when all options have been applied.
-/
def applyItems {α β : Type} (apply : β → α → Option String → Except Refusal β) :
    List (Item α) → β × Bool → Except Refusal (β × Bool)
  | [], state => .ok state
  | .option option argument :: rest, (arguments, strays) => do
      let arguments ← apply arguments option argument
      applyItems apply rest (arguments, strays)
  | .stray :: rest, (arguments, _) => applyItems apply rest (arguments, true)
  | .misuse :: _, _ => .error .misuse

end CommandLine

end TestSignal
