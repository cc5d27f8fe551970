import TestSignal.Proofs.Expr.Value
import TestSignal.Proofs.Text

namespace TestSignal

/-!
# Expressions read from their text

The engine is given an expression as text.  The text is read from left to right, one
character after the other: a product binds closer than a sum, operators of one kind group to
the left, a minus sign where an operand is expected belongs to a number, and a word before a
bracket is the name of a function.

The text of a tree is read as that tree again, when its operators are nested as they bind.
So the value of the tree is the value of the text.
-/

/-! ## Numerals -/

namespace FixedDecimal

theorem isDigit_padDigits {width n : Nat} {c : Char} (member : c ∈ (padDigits width n).toList) :
    c.isDigit = true := by
  unfold padDigits at member
  rw [String.toList_ofList] at member
  rcases List.mem_append.mp member with zero | digit
  · rw [List.eq_of_mem_replicate zero]
    rfl
  · exact Nat.isDigit_of_mem_toDigits (by decide) (by decide) digit

theorem padDigits_ne_nil (width n : Nat) : (padDigits width n).toList ≠ [] := by
  unfold padDigits
  rw [String.toList_ofList]
  exact List.append_ne_nil_of_right_ne_nil _ Nat.toDigits_ne_nil

theorem ofDigitChars_padDigits (width n : Nat) :
    Nat.ofDigitChars 10 (padDigits width n).toList 0 = n := by
  unfold padDigits
  rw [String.toList_ofList, Nat.ofDigitChars_append, Nat.ofDigitChars_replicate_zero,
    Nat.mul_zero, Nat.ofDigitChars_ten_toDigits]

theorem length_padDigits {width n : Nat} (positive : 0 < width) (short : n < 10 ^ width) :
    (padDigits width n).toList.length = width := by
  unfold padDigits
  have digits := (Nat.length_toDigits_le_iff (by decide) positive).mpr short
  rw [String.toList_ofList, List.length_append, List.length_replicate,
    Nat.sub_add_cancel digits]

/-- A decimal with places is its sign, its whole part, a point and its places. -/
theorem toList_toText (d : FixedDecimal) (placed : 0 < d.places) :
    d.toText.toList = (if d.negative then ['-'] else []) ++
      ((padDigits 1 (d.units / 10 ^ d.places)).toList ++
        '.' :: (padDigits d.places (d.units % 10 ^ d.places)).toList) := by
  unfold toText
  dsimp only
  rw [if_neg (Nat.ne_of_gt placed), String.toList_append, String.toList_append,
    String.toList_append, List.append_assoc, List.append_assoc]
  cases d.negative <;> rfl

end FixedDecimal

namespace Numeral

/-- The numeral of a size: digits, and perhaps a point and places after it. -/
def ofSize? (negative : Bool) (size : List Char) : Option Numeral :=
  let whole := size.takeWhile Char.isDigit
  if whole.isEmpty then none
  else
    match size.dropWhile Char.isDigit with
    | [] =>
        let value := Nat.ofDigitChars 10 whole 0
        some (.integer (if negative then -(value : Int) else value))
    | '.' :: places =>
        if places.isEmpty || !places.all Char.isDigit then none
        else
          let units := Nat.ofDigitChars 10 (whole ++ places) 0
          some (.fixed { negative, units, places := places.length })
    | _ => none

/-- Reads a number that may have a minus sign. -/
def read? : List Char → Option Numeral
  | '-' :: size => ofSize? true size
  | size => ofSize? false size

section Sizes

variable {whole : List Char} (digits : ∀ c ∈ whole, c.isDigit = true) (nonempty : whole ≠ [])
include digits nonempty

theorem ofSize?_whole (negative : Bool) :
    ofSize? negative whole =
      some (.integer (if negative then -(Nat.ofDigitChars 10 whole 0 : Int)
        else Nat.ofDigitChars 10 whole 0)) := by
  unfold ofSize?
  dsimp only
  rw [List.takeWhile_eq_self_iff.mpr digits, List.dropWhile_eq_nil_iff.mpr digits,
    if_neg (nonempty ∘ List.isEmpty_iff.mp)]

theorem ofSize?_places (negative : Bool) {places : List Char}
    (placeDigits : ∀ c ∈ places, c.isDigit = true) (placed : places ≠ []) :
    ofSize? negative (whole ++ '.' :: places) = some (.fixed
      { negative, units := Nat.ofDigitChars 10 (whole ++ places) 0, places := places.length }) := by
  have point : ¬Char.isDigit '.' = true := by decide
  have sound : (places.isEmpty || !places.all Char.isDigit) = false := by
    rw [List.isEmpty_eq_false_iff.mpr placed, List.all_eq_true.mpr placeDigits]
    rfl
  unfold ofSize?
  dsimp only
  rw [List.takeWhile_append_of_pos digits, List.dropWhile_append_of_pos digits,
    List.takeWhile_cons_of_neg point, List.dropWhile_cons_of_neg point, List.append_nil,
    if_neg (nonempty ∘ List.isEmpty_iff.mp)]
  exact if_neg (by rw [sound]; exact Bool.false_ne_true)

/-- Without a sign, a number is its size. -/
theorem read?_unsigned (rest : List Char) :
    read? (whole ++ rest) = ofSize? false (whole ++ rest) := by
  refine read?.eq_2 _ fun size signed => ?_
  cases whole with
  | nil => exact nonempty rfl
  | cons c whole =>
      have digit := digits c List.mem_cons_self
      rw [(List.cons.inj signed).1] at digit
      cases digit

end Sizes

theorem read?_integer (value : Int) : read? (toString value).toList = some (.integer value) := by
  have digits (n : Nat) : ∀ c ∈ Nat.toDigits 10 n, c.isDigit = true :=
    fun c member => Nat.isDigit_of_mem_toDigits (by decide) (by decide) member
  cases value with
  | ofNat n =>
      change read? n.repr.toList = _
      have whole := ofSize?_whole (digits n) Nat.toDigits_ne_nil false
      rw [Nat.ofDigitChars_ten_toDigits] at whole
      rw [Nat.toList_repr, ← List.append_nil (Nat.toDigits 10 n),
        read?_unsigned (digits n) Nat.toDigits_ne_nil, List.append_nil, whole]
      rfl
  | negSucc n =>
      change read? ("-" ++ (n + 1).repr).toList = _
      have whole := ofSize?_whole (digits (n + 1)) Nat.toDigits_ne_nil true
      rw [Nat.ofDigitChars_ten_toDigits] at whole
      rw [String.toList_append, Nat.toList_repr]
      exact whole

theorem read?_fixed (d : FixedDecimal) (placed : 0 < d.places) :
    read? d.toText.toList = some (.fixed d) := by
  rcases d with ⟨negative, units, places⟩
  have short : units % 10 ^ places < 10 ^ places := Nat.mod_lt _ (Nat.pow_pos (by decide))
  have whole : ∀ c ∈ (FixedDecimal.padDigits 1 (units / 10 ^ places)).toList, c.isDigit = true :=
    fun c => FixedDecimal.isDigit_padDigits
  have nonempty := FixedDecimal.padDigits_ne_nil 1 (units / 10 ^ places)
  have size := ofSize?_places whole nonempty negative
    (fun c => FixedDecimal.isDigit_padDigits)
    (FixedDecimal.padDigits_ne_nil places (units % 10 ^ places))
  rw [Nat.ofDigitChars_append, Nat.ofDigitChars_eq_ofDigitChars_zero,
    FixedDecimal.ofDigitChars_padDigits, FixedDecimal.ofDigitChars_padDigits,
    FixedDecimal.length_padDigits placed short, Nat.div_add_mod] at size
  rw [FixedDecimal.toList_toText _ placed]
  cases negative with
  | true =>
      rw [if_pos rfl, List.singleton_append, read?]
      exact size
  | false =>
      rw [if_neg Bool.false_ne_true, List.nil_append, read?_unsigned whole nonempty]
      exact size

end Numeral

namespace Expr

/-! ## The reader -/

/-- What is written to the left of an operand: the sum that it goes on, and within it the
product that it goes on. -/
structure Waiting where
  sum : Expr → Expr := id
  product : Expr → Expr := id

/-- All of it with the operand. -/
def Waiting.complete (waiting : Waiting) (operand : Expr) : Expr :=
  waiting.sum (waiting.product operand)

/-- An open bracket: the name in front of it, the arguments that are complete, and what is
written to the left of both. -/
structure Bracket where
  name : List Char
  arguments : List Expr := []
  outside : Waiting

/-- The reader between two characters. -/
structure Reader where
  /-- The open brackets, the inmost first. -/
  brackets : List Bracket := []
  waiting : Waiting := {}
  /-- The operand in brackets, or the call, that was just closed. -/
  closed : Option Expr := none
  /-- The characters of a word that is being read. -/
  word : List Char := []

/-- Names have letters and underscores. -/
def inName (c : Char) : Bool := c.isAlpha || c == '_'

/-- A word is a name or a number: digits and points are in it as well. -/
def inWord (c : Char) : Bool := inName c || c.isDigit || c == '.'

/-- A word that is an operand: a name, or a number. -/
def ofWord? : List Char → Option Expr
  | [] => none
  | c :: rest =>
      if inName c then
        if rest.all inName then some (symbol (String.ofList (c :: rest))) else none
      else (Numeral.read? (c :: rest)).map numeral

/-- Brackets with the name in front of them; without a name they only group. -/
def ofBracket? (name : List Char) : List Expr → Option Expr
  | [argument] =>
      if name.isEmpty then some (paren argument)
      else
        ([.floor, .abs, .sin].find? fun function : Function => function.name.toList = name).map
          fun function => call function argument
  | [first, second] =>
      ([.mod, .lt, .gt, .eq].find? fun function : Function2 => function.name.toList = name).map
        fun function => call2 function first second
  | [first, second, third] =>
      ([.between, .choose].find? fun function : Function3 => function.name.toList = name).map
        fun function => call3 function first second third
  | _ => none

namespace Reader

/-- The operand that was read, when there is one. -/
def operand? (reader : Reader) : Option Expr := reader.closed.orElse fun _ => ofWord? reader.word

/-- Whether no character of an operand was read yet. -/
def expectsOperand (reader : Reader) : Bool := reader.closed.isNone && reader.word.isEmpty

/-- The sum that was read since the last open bracket. -/
def complete? (reader : Reader) : Option Expr := reader.operand?.map reader.waiting.complete

def readLetter (reader : Reader) (c : Char) : Option Reader :=
  if reader.closed.isSome then none else some { reader with word := reader.word ++ [c] }

/-- An operator joins the operand to what is waiting for it. -/
def readOperator (reader : Reader) (join : Waiting → Expr → Waiting) : Option Reader :=
  reader.operand?.map fun operand =>
    { brackets := reader.brackets, waiting := join reader.waiting operand }

def openBracket (reader : Reader) : Option Reader :=
  if reader.closed.isSome then none
  else
    some { brackets := { name := reader.word, outside := reader.waiting } :: reader.brackets }

def readComma (reader : Reader) : Option Reader :=
  match reader.brackets, reader.complete? with
  | bracket :: others, some argument =>
      some { brackets :=
        { bracket with arguments := bracket.arguments ++ [argument] } :: others }
  | _, _ => none

def closeBracket (reader : Reader) : Option Reader :=
  match reader.brackets, reader.complete? with
  | bracket :: others, some argument =>
      (ofBracket? bracket.name (bracket.arguments ++ [argument])).map fun closed =>
        { brackets := others, waiting := bracket.outside, closed := some closed }
  | _, _ => none

/-- A minus sign belongs to a word that it may begin. -/
def step (reader : Reader) (c : Char) : Option Reader :=
  if inWord c || (c == '-' && reader.expectsOperand) then reader.readLetter c
  else
    match c with
    | '(' => reader.openBracket
    | ',' => reader.readComma
    | ')' => reader.closeBracket
    | '+' => reader.readOperator fun waiting e => { sum := add (waiting.complete e) }
    | '-' => reader.readOperator fun waiting e => { sum := sub (waiting.complete e) }
    | '*' =>
        reader.readOperator fun waiting e => { waiting with product := mul (waiting.product e) }
    | '/' =>
        reader.readOperator fun waiting e => { waiting with product := div (waiting.product e) }
    | _ => none

def run (reader : Reader) (text : List Char) : Option Reader := text.foldlM step reader

end Reader

/-- Reads a whole text, in which every bracket must be closed. -/
def read? (text : String) : Option Expr := do
  let reader ← ({} : Reader).run text.toList
  if reader.brackets.isEmpty then reader.complete? else none

/-- The value of a text under the engine's assignment of values to symbols. -/
def textValue? (assign : String → Option ℚ) (text : String) : Option ℚ := do
  (← read? text).value? assign

/-- Whether a text switches something on: any value but zero does. -/
def textIsOn? (assign : String → Option ℚ) (text : String) : Option Bool := do
  (← read? text).isOn? assign

/-! ## The characters of a tree's text -/

/-- A text with one character between two others. -/
theorem toList_between (left middle right : String) {c : Char} (single : middle.toList = [c]) :
    (left ++ middle ++ right).toList = left.toList ++ c :: right.toList := by
  rw [String.toList_append, String.toList_append, single, List.append_assoc]
  rfl

theorem toList_paren (inner : Expr) :
    (paren inner).text.toList = '(' :: (inner.text.toList ++ [')']) := by
  change ("(" ++ inner.text ++ ")").toList = _
  rw [String.toList_append, String.toList_append]
  rfl

theorem toList_call (function : Function) (argument : Expr) :
    (call function argument).text.toList =
      function.name.toList ++ '(' :: (argument.text.toList ++ [')']) := by
  change (function.name ++ "(" ++ argument.text ++ ")").toList = _
  rw [String.toList_append, String.toList_append, String.toList_append]
  simp

theorem toList_call2 (function : Function2) (first second : Expr) :
    (call2 function first second).text.toList =
      function.name.toList ++
        '(' :: (first.text.toList ++ ',' :: (second.text.toList ++ [')'])) := by
  change (function.name ++ "(" ++ first.text ++ "," ++ second.text ++ ")").toList = _
  simp only [String.toList_append]
  simp

theorem toList_call3 (function : Function3) (first second third : Expr) :
    (call3 function first second third).text.toList =
      function.name.toList ++ '(' :: (first.text.toList ++ ',' ::
        (second.text.toList ++ ',' :: (third.text.toList ++ [')']))) := by
  change (function.name ++ "(" ++ first.text ++ "," ++ second.text ++ "," ++ third.text ++
    ")").toList = _
  simp only [String.toList_append]
  simp

/-! ## Trees whose text groups as they do -/

/-- How close the outmost operator of a tree binds: a sum, a product, or none. -/
def binding : Expr → Nat
  | add _ _ | sub _ _ => 0
  | mul _ _ | div _ _ => 1
  | _ => 2

/-- A tree that can be read from its text: sums and products are nested as they bind, names are
words, and numbers are integers or have fixed places. -/
def Readable : Expr → Prop
  | numeral (.integer _) => True
  | numeral (.fixed d) => 0 < d.places
  | numeral _ => False
  | symbol name => name.toList ≠ [] ∧ ∀ c ∈ name.toList, inName c = true
  | paren inner => inner.Readable
  | add left right | sub left right => left.Readable ∧ right.Readable ∧ 1 ≤ right.binding
  | mul left right | div left right =>
      left.Readable ∧ right.Readable ∧ 1 ≤ left.binding ∧ 2 ≤ right.binding
  | call _ argument => argument.Readable
  | call2 _ first second => first.Readable ∧ second.Readable
  | call3 _ first second third => first.Readable ∧ second.Readable ∧ third.Readable

/-- A name of letters and underscores is readable. -/
theorem readable_symbol {name : String} (some : name.toList ≠ [])
    (letters : name.toList.all inName = true) : (symbol name).Readable :=
  ⟨some, List.all_eq_true.mp letters⟩

namespace Reader

theorem run_append (reader : Reader) (left right : List Char) :
    reader.run (left ++ right) = (reader.run left).bind fun between => between.run right :=
  List.foldlM_append

theorem run_cons (reader : Reader) (c : Char) (rest : List Char) :
    reader.run (c :: rest) = (reader.step c).bind fun between => between.run rest :=
  List.foldlM_cons

/-! ## Words -/

theorem step_letter {reader : Reader} {c : Char} (letter : inWord c = true) :
    reader.step c = reader.readLetter c := by
  unfold step
  rw [if_pos (by rw [letter]; rfl)]

theorem run_word (brackets : List Bracket) (waiting : Waiting) {letters : List Char}
    (allowed : ∀ c ∈ letters, inWord c = true) (word : List Char) :
    run { brackets, waiting, word } letters =
      some { brackets, waiting, word := word ++ letters } := by
  induction letters generalizing word with
  | nil =>
      rw [List.append_nil]
      rfl
  | cons c rest inductionHypothesis =>
      rcases List.forall_mem_cons.mp allowed with ⟨letter, others⟩
      rw [run_cons, step_letter letter]
      refine (inductionHypothesis others (word ++ [c])).trans ?_
      rw [List.append_assoc]
      rfl

/-- A minus sign that begins a word belongs to it. -/
theorem run_signed (brackets : List Bracket) (waiting : Waiting) {letters : List Char}
    (allowed : ∀ c ∈ letters, inWord c = true) :
    run { brackets, waiting } ('-' :: letters) =
      some { brackets, waiting, word := '-' :: letters } :=
  run_word brackets waiting allowed ['-']

/-- Whoever has read an operand expects none. -/
theorem expectsOperand_of_operand? {reader : Reader} {e : Expr}
    (operand : reader.operand? = some e) : reader.expectsOperand = false := by
  rcases reader with ⟨brackets, waiting, closed, word⟩
  cases closed with
  | some group => rfl
  | none =>
      cases word with
      | nil => cases operand
      | cons c rest => rfl

/-! ## What is read of a tree -/

/-- The tree is read as an operand, whatever is to its left. -/
def ReadsOperand (e : Expr) : Prop :=
  ∀ brackets waiting, ∃ reader, run { brackets, waiting } e.text.toList = some reader ∧
    reader.brackets = brackets ∧ reader.waiting = waiting ∧ reader.operand? = some e

/-- The tree is read as a product, in whatever sum. -/
def ReadsProduct (e : Expr) : Prop :=
  ∀ brackets sum, ∃ reader, run { brackets, waiting := { sum } } e.text.toList = some reader ∧
    reader.brackets = brackets ∧ reader.waiting.sum = sum ∧
    reader.operand?.map reader.waiting.product = some e

/-- The tree is read as a sum, in whatever brackets. -/
def ReadsSum (e : Expr) : Prop :=
  ∀ brackets, ∃ reader, run { brackets } e.text.toList = some reader ∧
    reader.brackets = brackets ∧ reader.complete? = some e

/-- The tree is read as what it is. -/
structure Reads (e : Expr) : Prop where
  sum : ReadsSum e
  product : 1 ≤ e.binding → ReadsProduct e
  operand : 2 ≤ e.binding → ReadsOperand e

theorem ReadsProduct.sum {e : Expr} (product : ReadsProduct e) : ReadsSum e := by
  intro brackets
  rcases product brackets id with ⟨reader, read, inside, alone, whole⟩
  refine ⟨reader, read, inside, ?_⟩
  unfold complete? Waiting.complete
  rw [alone]
  exact whole

theorem ReadsOperand.product {e : Expr} (operand : ReadsOperand e) : ReadsProduct e := by
  intro brackets sum
  rcases operand brackets { sum } with ⟨reader, read, inside, alone, whole⟩
  refine ⟨reader, read, inside, by rw [alone], ?_⟩
  rw [alone, whole]
  rfl

theorem Reads.ofSum {e : Expr} (sum : ReadsSum e) (loose : e.binding = 0) : Reads e where
  sum := sum
  product binds := absurd binds (by omega)
  operand binds := absurd binds (by omega)

theorem Reads.ofProduct {e : Expr} (product : ReadsProduct e) (loose : e.binding = 1) :
    Reads e where
  sum := product.sum
  product _ := product
  operand binds := absurd binds (by omega)

theorem Reads.ofOperand {e : Expr} (operand : ReadsOperand e) : Reads e where
  sum := operand.product.sum
  product _ := operand.product
  operand _ := operand

/-! ## Operators -/

section Operators

variable {left right : Expr} {mark : Char} {join : Expr → Expr → Expr}

/-- A sum is read when its mark joins all that was read to what comes. -/
theorem readsSum_join (first : ReadsSum left) (second : ReadsProduct right)
    (marked : ∀ reader : Reader, reader.expectsOperand = false →
      reader.step mark = reader.readOperator fun waiting e => { sum := join (waiting.complete e) })
    (written : (join left right).text.toList = left.text.toList ++ mark :: right.text.toList) :
    ReadsSum (join left right) := by
  intro brackets
  rcases first brackets with ⟨between, readLeft, rfl, whole⟩
  rcases Option.map_eq_some_iff.mp whole with ⟨operand, given, rfl⟩
  rcases second between.brackets (join (between.waiting.complete operand)) with
    ⟨reader, readRight, inside, sum, last⟩
  refine ⟨reader, ?_, inside, ?_⟩
  · rw [written, run_append, readLeft, Option.bind_some, run_cons,
      marked between (expectsOperand_of_operand? given), readOperator, given]
    exact readRight
  · rcases Option.map_eq_some_iff.mp last with ⟨operand', given', rfl⟩
    unfold complete? Waiting.complete
    rw [given', sum]
    rfl

/-- A product is read when its mark joins the product that was read to what comes. -/
theorem readsProduct_join (first : ReadsProduct left) (second : ReadsOperand right)
    (marked : ∀ reader : Reader, reader.step mark = reader.readOperator fun waiting e =>
      { waiting with product := join (waiting.product e) })
    (written : (join left right).text.toList = left.text.toList ++ mark :: right.text.toList) :
    ReadsProduct (join left right) := by
  intro brackets sum
  rcases first brackets sum with ⟨between, readLeft, rfl, rfl, whole⟩
  rcases Option.map_eq_some_iff.mp whole with ⟨operand, given, rfl⟩
  rcases second between.brackets
      { between.waiting with product := join (between.waiting.product operand) } with
    ⟨reader, readRight, inside, waiting, last⟩
  refine ⟨reader, ?_, inside, by rw [waiting], ?_⟩
  · rw [written, run_append, readLeft, Option.bind_some, run_cons, marked, readOperator, given]
    exact readRight
  · rw [waiting, last]
    rfl

end Operators

/-! ## Brackets -/

/-- A word and a bracket after it open a new sum. -/
theorem run_open (brackets : List Bracket) (waiting : Waiting) {name : List Char}
    (letters : ∀ c ∈ name, inWord c = true) (rest : List Char) :
    run { brackets, waiting } (name ++ '(' :: rest) =
      run { brackets := { name, outside := waiting } :: brackets } rest := by
  rw [run_append, run_word brackets waiting letters []]
  rfl

theorem run_comma (bracket : Bracket) (others : List Bracket) {argument : Expr}
    (reads : ReadsSum argument) (rest : List Char) :
    run { brackets := bracket :: others } (argument.text.toList ++ ',' :: rest) =
      run { brackets :=
        { bracket with arguments := bracket.arguments ++ [argument] } :: others } rest := by
  rcases reads (bracket :: others) with ⟨reader, read, inside, whole⟩
  have comma : reader.step ',' = some { brackets :=
      { bracket with arguments := bracket.arguments ++ [argument] } :: others } := by
    change reader.readComma = _
    unfold readComma
    rw [inside, whole]
  rw [run_append, read, Option.bind_some, run_cons, comma]
  rfl

theorem run_close (bracket : Bracket) (others : List Bracket) {argument closed : Expr}
    (reads : ReadsSum argument)
    (made : ofBracket? bracket.name (bracket.arguments ++ [argument]) = some closed) :
    run { brackets := bracket :: others } (argument.text.toList ++ [')']) =
      some { brackets := others, waiting := bracket.outside, closed := some closed } := by
  rcases reads (bracket :: others) with ⟨reader, read, inside, whole⟩
  have close : reader.step ')' =
      some { brackets := others, waiting := bracket.outside, closed := some closed } := by
    change reader.closeBracket = _
    unfold closeBracket
    rw [inside, whole]
    dsimp only
    rw [made]
    rfl
  rw [run_append, read, Option.bind_some, run_cons, close]
  rfl

/-! ## Operands -/

theorem inName_of_isDigit {c : Char} (digit : c.isDigit = true) : inName c = false :=
  Text.ofAscii (fun c => c.isDigit = true → inName c = false) (by decide +kernel)
    (Text.toNat_lt_of_isDigit digit) digit

/-- A numeral is read when its text is one of digits and points, perhaps behind a minus sign. -/
theorem readsOperand_numeral {value : Numeral} (negative : Bool) {size : List Char}
    (written : value.toText.toList = (if negative then ['-'] else []) ++ size)
    (allowed : ∀ c ∈ size, c.isDigit = true ∨ c = '.')
    (reads : Numeral.read? value.toText.toList = some value) : ReadsOperand (numeral value) := by
  intro brackets waiting
  have letters : ∀ c ∈ size, inWord c = true := by
    intro c member
    rcases allowed c member with digit | rfl
    · rw [inWord, digit, Bool.or_true]
      rfl
    · rfl
  have noName : ∀ c ∈ size, ¬inName c = true := by
    intro c member
    rcases allowed c member with digit | rfl
    · rw [inName_of_isDigit digit]
      exact Bool.false_ne_true
    · decide
  refine ⟨{ brackets, waiting, word := value.toText.toList }, ?_, rfl, rfl, ?_⟩
  · change run _ value.toText.toList = _
    rw [written]
    cases negative with
    | true => exact run_signed brackets waiting letters
    | false => exact run_word brackets waiting letters []
  · change ofWord? value.toText.toList = _
    unfold ofWord?
    split
    · rename_i empty
      rw [empty] at reads
      cases reads
    · rename_i c rest word
      have noLetter : ¬inName c = true := by
        rw [written] at word
        cases negative with
        | true =>
            rw [← (List.cons.inj word).1]
            decide
        | false =>
            refine noName c ?_
            rw [show size = c :: rest from word]
            exact List.mem_cons_self
      rw [if_neg noLetter, ← word, reads]
      rfl

theorem readsOperand_integer (value : Int) : ReadsOperand (numeral (.integer value)) := by
  have digits (n : Nat) : ∀ c ∈ Nat.toDigits 10 n, c.isDigit = true ∨ c = '.' :=
    fun c member => .inl (Nat.isDigit_of_mem_toDigits (by decide) (by decide) member)
  have reads := Numeral.read?_integer value
  cases value with
  | ofNat n => exact readsOperand_numeral false Nat.toList_repr (digits n) reads
  | negSucc n =>
      refine readsOperand_numeral true ?_ (digits (n + 1)) reads
      change ("-" ++ (n + 1).repr).toList = _
      rw [String.toList_append, Nat.toList_repr]
      rfl

theorem readsOperand_fixed {d : FixedDecimal} (placed : 0 < d.places) :
    ReadsOperand (numeral (.fixed d)) := by
  refine readsOperand_numeral d.negative (d.toList_toText placed) ?_ (Numeral.read?_fixed d placed)
  rw [List.forall_mem_append, List.forall_mem_cons]
  exact ⟨fun c member => .inl (FixedDecimal.isDigit_padDigits member), .inr rfl,
    fun c member => .inl (FixedDecimal.isDigit_padDigits member)⟩

theorem readsOperand_symbol {name : String} (nonempty : name.toList ≠ [])
    (letters : ∀ c ∈ name.toList, inName c = true) : ReadsOperand (symbol name) := by
  intro brackets waiting
  have allowed : ∀ c ∈ name.toList, inWord c = true := by
    intro c member
    rw [inWord, letters c member]
    rfl
  refine ⟨{ brackets, waiting, word := name.toList }, run_word brackets waiting allowed [], rfl,
    rfl, ?_⟩
  change ofWord? name.toList = _
  cases word : name.toList with
  | nil => exact absurd word nonempty
  | cons c rest =>
      rw [word] at letters
      rcases List.forall_mem_cons.mp letters with ⟨first, others⟩
      unfold ofWord?
      dsimp only
      rw [if_pos first, if_pos (List.all_eq_true.mpr others), ← word, String.ofList_toList]

/-- A tree that ends in a bracket is an operand as soon as that is closed. -/
theorem readsOperand_closed {e : Expr}
    (closes : ∀ brackets waiting, run { brackets, waiting } e.text.toList =
      some { brackets, waiting, closed := some e }) : ReadsOperand e :=
  fun brackets waiting => ⟨_, closes brackets waiting, rfl, rfl, rfl⟩

theorem readsOperand_paren {inner : Expr} (reads : ReadsSum inner) :
    ReadsOperand (paren inner) := by
  refine readsOperand_closed fun brackets waiting => ?_
  rw [toList_paren, ← List.nil_append ('(' :: _),
    run_open brackets waiting (List.forall_mem_nil _)]
  exact run_close _ brackets reads rfl

theorem readsOperand_call (function : Function) {argument : Expr} (reads : ReadsSum argument) :
    ReadsOperand (call function argument) := by
  refine readsOperand_closed fun brackets waiting => ?_
  have letters : ∀ c ∈ function.name.toList, inWord c = true :=
    List.all_eq_true.mp (by cases function <;> decide)
  rw [toList_call, run_open brackets waiting letters]
  exact run_close _ brackets reads (by cases function <;> rfl)

theorem readsOperand_call2 (function : Function2) {first second : Expr} (reads : ReadsSum first)
    (reads' : ReadsSum second) : ReadsOperand (call2 function first second) := by
  refine readsOperand_closed fun brackets waiting => ?_
  have letters : ∀ c ∈ function.name.toList, inWord c = true :=
    List.all_eq_true.mp (by cases function <;> decide)
  rw [toList_call2, run_open brackets waiting letters, run_comma _ brackets reads]
  exact run_close _ brackets reads' (by cases function <;> rfl)

theorem readsOperand_call3 (function : Function3) {first second third : Expr}
    (reads : ReadsSum first) (reads' : ReadsSum second) (reads'' : ReadsSum third) :
    ReadsOperand (call3 function first second third) := by
  refine readsOperand_closed fun brackets waiting => ?_
  have letters : ∀ c ∈ function.name.toList, inWord c = true :=
    List.all_eq_true.mp (by cases function <;> decide)
  rw [toList_call3, run_open brackets waiting letters, run_comma _ brackets reads,
    run_comma _ brackets reads']
  exact run_close _ brackets reads'' (by cases function <;> rfl)

/-! ## The whole tree -/

theorem reads_of_readable {e : Expr} (readable : e.Readable) : Reads e := by
  induction e with
  | numeral value =>
      cases value with
      | integer value => exact .ofOperand (readsOperand_integer value)
      | fixed d => exact .ofOperand (readsOperand_fixed readable)
      | shown _ | short _ => exact readable.elim
  | symbol name => exact .ofOperand (readsOperand_symbol readable.1 readable.2)
  | paren inner inductionHypothesis =>
      exact .ofOperand (readsOperand_paren (inductionHypothesis readable).sum)
  | add left right leftHypothesis rightHypothesis =>
      rcases readable with ⟨first, second, binds⟩
      have sum : ReadsSum (add left right) := readsSum_join (leftHypothesis first).sum
        ((rightHypothesis second).product binds) (fun reader _ => rfl)
        (toList_between left.text "+" right.text rfl)
      exact .ofSum sum rfl
  | sub left right leftHypothesis rightHypothesis =>
      rcases readable with ⟨first, second, binds⟩
      have marked (reader : Reader) (read : reader.expectsOperand = false) : reader.step '-' =
          reader.readOperator fun waiting e => { sum := sub (waiting.complete e) } := by
        unfold step
        rw [read]
        rfl
      have sum : ReadsSum (sub left right) := readsSum_join (leftHypothesis first).sum
        ((rightHypothesis second).product binds) marked
        (toList_between left.text "-" right.text rfl)
      exact .ofSum sum rfl
  | mul left right leftHypothesis rightHypothesis =>
      rcases readable with ⟨first, second, binds, closed⟩
      exact .ofProduct (readsProduct_join ((leftHypothesis first).product binds)
        ((rightHypothesis second).operand closed) (fun reader => rfl)
        (toList_between left.text "*" right.text rfl)) rfl
  | div left right leftHypothesis rightHypothesis =>
      rcases readable with ⟨first, second, binds, closed⟩
      exact .ofProduct (readsProduct_join ((leftHypothesis first).product binds)
        ((rightHypothesis second).operand closed) (fun reader => rfl)
        (toList_between left.text "/" right.text rfl)) rfl
  | call function argument inductionHypothesis =>
      exact .ofOperand (readsOperand_call function (inductionHypothesis readable).sum)
  | call2 function first second firstHypothesis secondHypothesis =>
      exact .ofOperand (readsOperand_call2 function (firstHypothesis readable.1).sum
        (secondHypothesis readable.2).sum)
  | call3 function first second third firstHypothesis secondHypothesis thirdHypothesis =>
      exact .ofOperand (readsOperand_call3 function (firstHypothesis readable.1).sum
        (secondHypothesis readable.2.1).sum (thirdHypothesis readable.2.2).sum)

end Reader

/-- The text of a readable tree is read as the tree. -/
theorem read?_text {e : Expr} (readable : e.Readable) : read? e.text = some e := by
  rcases (Reader.reads_of_readable readable).sum [] with ⟨reader, read, inside, whole⟩
  change ((({} : Reader).run e.text.toList).bind fun reader =>
    if reader.brackets.isEmpty then reader.complete? else none) = _
  rw [read, Option.bind_some, inside, whole]
  rfl

/-- A character at which the reader stops is in the text of no readable tree. -/
theorem not_mem_text {e : Expr} (readable : e.Readable) {c : Char}
    (unread : ∀ reader : Reader, reader.step c = none) : c ∉ e.text.toList := by
  intro member
  rcases List.append_of_mem member with ⟨before, after, split⟩
  rcases (Reader.reads_of_readable readable).sum [] with ⟨reader, read, _⟩
  rw [split, Reader.run_append] at read
  rcases Option.bind_eq_some_iff.mp read with ⟨between, _, stopped⟩
  rw [Reader.run_cons, unread] at stopped
  cases stopped

theorem textValue?_text {e : Expr} (readable : e.Readable) (assign : String → Option ℚ) :
    textValue? assign e.text = e.value? assign := by
  unfold textValue?
  rw [read?_text readable]
  rfl

theorem textIsOn?_text {e : Expr} (readable : e.Readable) (assign : String → Option ℚ) :
    textIsOn? assign e.text = e.isOn? assign := by
  unfold textIsOn?
  rw [read?_text readable]
  rfl

end Expr

end TestSignal
