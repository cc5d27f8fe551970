import TestSignal.Anchor
import TestSignal.Font
import TestSignal.Proofs.Filter.Reader
import TestSignal.Proofs.Number.Written
import TestSignal.Proofs.Outcome

namespace TestSignal

/-!
# Legible options

Most of what a graph prints without quotes is fixed text, or a number.  A fixed text is
tested on its characters, and a number has none of the marks.  What is quoted is the text of
an expression, which has no backslash when its symbols have none, or the path of a font
file.  So the files of the fonts must be free of backslashes, and nothing is asked of which
of them exist.
-/

/-! ## Numbers and expressions -/

theorem avoids_of_isNumeral {text : String} (numeral : IsNumeral text.toList) :
    Avoids valueMarks text := .ofTest (by decide) numeral

theorem Avoids.unescaped {text : String} (avoids : Avoids valueMarks text) :
    Avoids ['\x5c'] text := avoids.weaken (by decide)

namespace Expr

/-- No symbol of an expression has a backslash. -/
def Unescaped : Expr → Prop
  | numeral _ => True
  | symbol text => Avoids ['\x5c'] text
  | paren inner => inner.Unescaped
  | add left right | sub left right | mul left right | div left right =>
      left.Unescaped ∧ right.Unescaped
  | call _ argument => argument.Unescaped
  | call2 _ first second => first.Unescaped ∧ second.Unescaped
  | call3 _ first second third => first.Unescaped ∧ second.Unescaped ∧ third.Unescaped

theorem Unescaped.text {e : Expr} (unescaped : e.Unescaped) : Avoids ['\x5c'] e.text := by
  unfold Expr.text
  induction e with
  | numeral value => exact (avoids_of_isNumeral value.isNumeral_toText).unescaped
  | symbol text => exact unescaped
  | paren inner inductionHypothesis =>
      have opening : Avoids ['\x5c'] "(" := .literal rfl
      exact (opening.append (inductionHypothesis unescaped)).append (.literal rfl)
  | add left right leftHypothesis rightHypothesis
  | sub left right leftHypothesis rightHypothesis
  | mul left right leftHypothesis rightHypothesis
  | div left right leftHypothesis rightHypothesis =>
      exact ((leftHypothesis unescaped.1).append (.literal rfl)).append (rightHypothesis unescaped.2)
  | call function argument inductionHypothesis =>
      have name : Avoids ['\x5c'] function.name := by cases function <;> exact .literal rfl
      exact ((name.append (.literal rfl)).append (inductionHypothesis unescaped)).append (.literal rfl)
  | call2 function first second firstHypothesis secondHypothesis =>
      have name : Avoids ['\x5c'] function.name := by cases function <;> exact .literal rfl
      exact ((((name.append (.literal rfl)).append (firstHypothesis unescaped.1)).append
        (.literal rfl)).append (secondHypothesis unescaped.2)).append (.literal rfl)
  | call3 function first second third firstHypothesis secondHypothesis thirdHypothesis =>
      have name : Avoids ['\x5c'] function.name := by cases function <;> exact .literal rfl
      exact ((((((name.append (.literal rfl)).append (firstHypothesis unescaped.1)).append
        (.literal rfl)).append (secondHypothesis unescaped.2.1)).append (.literal rfl)).append
        (thirdHypothesis unescaped.2.2)).append (.literal rfl)

theorem unescaped_fixed (places : Nat) (x : Binary64) : (fixed places x).Unescaped := by
  unfold fixed
  split
  · trivial
  · exact (avoids_of_isNumeral (x.isNumeral_fixedText places)).unescaped

end Expr

/-! ## Values -/

namespace OptionValue

theorem legible_text {content : String} (avoids : Avoids valueMarks content) :
    (text content).Legible := avoids

theorem legible_number (value : Number) : (number value).Legible :=
  avoids_of_isNumeral value.isNumeral_toShortText

theorem legible_int (value : Int) : (int value).Legible := legible_number (.int value)

theorem legible_expr {e : Expr} (unescaped : e.Unescaped) : (quoted e.text).Legible :=
  unescaped.text

end OptionValue

open OptionValue

namespace LegibleParams

theorem nil : LegibleParams [] := nofun

/-- One more option, with a fixed key. -/
theorem cons {key : List Char} {value : OptionValue} {rest : List (String × OptionValue)}
    (plain : keepsFrom valueMarks key = true) (legible : value.Legible)
    (others : LegibleParams rest) : LegibleParams ((String.ofList key, value) :: rest) :=
  List.forall_mem_cons.mpr ⟨⟨.literal plain, legible⟩, others⟩

theorem append {left right : List (String × OptionValue)} (first : LegibleParams left)
    (second : LegibleParams right) : LegibleParams (left ++ right) :=
  List.forall_mem_append.mpr ⟨first, second⟩

end LegibleParams

/-- A filter with a fixed name, legible values and legible options. -/
theorem Filter.Legible.of {c : Char} {name : List Char} {args : List OptionValue}
    {params : List (String × OptionValue)}
    (plain : keepsFrom ('=' :: valueMarks) (c :: name) = true)
    (values : ∀ value ∈ args, value.Legible) (keyed : LegibleParams params) :
    Filter.Legible { name := String.ofList (c :: name), args, params } where
  named := by
    intro empty
    have characters := congrArg String.toList empty
    rw [String.toList_ofList] at characters
    cases characters
  name := .literal plain
  args := values
  params := keyed

/-- A filter with one value and no options. -/
theorem Filter.Legible.ofValue {c : Char} {name : List Char} {value : OptionValue}
    (plain : keepsFrom ('=' :: valueMarks) (c :: name) = true) (legible : value.Legible) :
    Filter.Legible { name := String.ofList (c :: name), args := [value] } :=
  .of plain (List.forall_mem_singleton.mpr legible) .nil

/-! ## Fonts -/

def Font.Legible (font : Font) : Prop := LegibleParams [font.param]

namespace Font

theorem legible_file {path : String} (unescaped : Avoids ['\x5c'] path) : (file path).Legible :=
  .cons rfl unescaped .nil

theorem legible_named {name : String} (plain : Avoids valueMarks name) : (named name).Legible :=
  .cons rfl (legible_text plain) .nil

end Font

namespace Fonts

/-- All files of some fonts are without backslashes, and all names without marks. -/
structure Legible (fonts : Fonts) : Prop where
  default_path : Avoids ['\x5c'] fonts.defaultPath
  candidates : ∀ entry ∈ fonts.families, ∀ path ∈ entry.2.candidates, Avoids ['\x5c'] path
  names : ∀ entry ∈ fonts.families, ∀ name ∈ entry.2.fallbackName, Avoids valueMarks name

theorem avoids_installedAt {fileName : String} (unescaped : Avoids ['\x5c'] fileName) :
    ∀ path ∈ installedAt fileName, Avoids ['\x5c'] path := by
  refine List.forall_mem_cons.mpr ⟨Avoids.append (.literal rfl) unescaped, ?_⟩
  refine List.forall_mem_cons.mpr ⟨Avoids.append (.literal rfl) unescaped, ?_⟩
  exact List.forall_mem_singleton.mpr (Avoids.append (.literal rfl) unescaped)

theorem legible_standard {path : String} (unescaped : Avoids ['\x5c'] path) :
    (standard path).Legible where
  default_path := unescaped
  candidates := by
    refine List.forall_mem_cons.mpr ⟨List.forall_mem_singleton.mpr unescaped, ?_⟩
    refine List.forall_mem_cons.mpr ⟨avoids_installedAt (.literal rfl), ?_⟩
    refine List.forall_mem_cons.mpr ⟨avoids_installedAt (.literal rfl), ?_⟩
    exact List.forall_mem_singleton.mpr (avoids_installedAt (.literal rfl))
  names := by
    have named : ∀ {chars : List Char}, keepsFrom valueMarks chars = true →
        ∀ name ∈ some (String.ofList chars), Avoids valueMarks name := by
      intro chars plain name given
      rw [← Option.some.inj given]
      exact .literal plain
    refine List.forall_mem_cons.mpr ⟨nofun, ?_⟩
    refine List.forall_mem_cons.mpr ⟨named rfl, ?_⟩
    exact List.forall_mem_cons.mpr ⟨named rfl, List.forall_mem_singleton.mpr (named rfl)⟩

theorem Legible.default {fonts : Fonts} (legible : fonts.Legible) : fonts.default.Legible :=
  Font.legible_file legible.default_path

variable {host after : Host}

/-- The file that is found is one of those looked for. -/
theorem mem_of_firstInstalled {paths : List String} {path : String}
    (found : firstInstalled paths host = (.ok (some path), after)) : path ∈ paths := by
  induction paths generalizing host with
  | nil => cases (HostRun.pure_ok.mp found).1
  | cons first rest inductionHypothesis =>
      rcases HostRun.bind_ok.mp found with ⟨installed, between, _, found⟩
      split at found
      · cases (HostRun.pure_ok.mp found).1
        exact List.mem_cons_self
      · exact List.mem_cons_of_mem first (inductionHypothesis found)

theorem holds_of_lookup {fonts : Fonts} {holds : FontFamily → Prop} {name : String}
    {family : FontFamily} (listed : ∀ entry ∈ fonts.families, holds entry.2)
    (found : fonts.families.lookup name = some family) : holds family := by
  rcases List.lookup_eq_some_iff.mp found with ⟨before, rest, whole, _⟩
  have member : (name, family) ∈ fonts.families := by
    rw [whole]
    exact List.mem_append_right before List.mem_cons_self
  exact listed (name, family) member

/-- The family of a name is one of those listed, or the empty one. -/
theorem holds_family {fonts : Fonts} {holds : FontFamily → Prop}
    (listed : ∀ entry ∈ fonts.families, holds entry.2) (empty : holds {}) (name : Value) :
    holds (fonts.family name) := by
  have fallback : holds ((fonts.families.lookup defaultFamily).getD {}) := by
    cases found : fonts.families.lookup defaultFamily with
    | none => exact empty
    | some family => exact holds_of_lookup listed found
  unfold family
  cases name with
  | string text =>
      dsimp only
      cases found : fonts.families.lookup text with
      | none => exact fallback
      | some family => exact holds_of_lookup listed found
  | null | bool _ | number _ | list _ | object _ => exact fallback

/-- Whatever files exist, the font that is found is a legible one. -/
theorem Legible.resolve {fonts : Fonts} (legible : fonts.Legible) {name : Value} {font : Font}
    (made : fonts.resolve name host = (.ok font, after)) : font.Legible := by
  have candidates : ∀ path ∈ (fonts.family name).candidates, Avoids ['\x5c'] path :=
    @holds_family fonts (fun family => ∀ path ∈ family.candidates, Avoids ['\x5c'] path)
      legible.candidates nofun name
  have names : ∀ fallback ∈ (fonts.family name).fallbackName, Avoids valueMarks fallback :=
    @holds_family fonts (fun family => ∀ fallback ∈ family.fallbackName, Avoids valueMarks fallback)
      legible.names nofun name
  rcases HostRun.bind_ok.mp made with ⟨installed, between, found, made⟩
  cases installed with
  | some path =>
      rw [← (HostRun.pure_ok.mp made).1]
      exact Font.legible_file (candidates path (mem_of_firstInstalled found))
  | none =>
      cases kept : (fonts.family name).fallbackName.filter fun fallback => !fallback.isEmpty with
      | some fallback =>
          simp only [kept] at made
          rw [← (HostRun.pure_ok.mp made).1]
          exact Font.legible_named (names fallback (Option.filter_eq_some_iff.mp kept).1)
      | none =>
          simp only [kept] at made
          rw [← (HostRun.pure_ok.mp made).1]
          exact legible.default

end Fonts

/-! ## Positions -/

namespace Placement

theorem avoids_ofText {margin : String} (plain : Avoids valueMarks margin) (anchor : Anchor) :
    Avoids valueMarks (ofText margin anchor).x ∧ Avoids valueMarks (ofText margin anchor).y := by
  constructor
  · unfold ofText
    cases anchor.column with
    | left => exact plain
    | center => exact .literal rfl
    | right => exact Avoids.append (.literal rfl) plain
  · unfold ofText
    cases anchor.row with
    | top => exact plain
    | center => exact .literal rfl
    | bottom => exact Avoids.append (.literal rfl) plain

theorem avoids_logo (anchor : Anchor) :
    Avoids valueMarks (logo anchor).x ∧ Avoids valueMarks (logo anchor).y := by
  constructor
  · unfold logo
    cases anchor.column <;> exact .literal rfl
  · unfold logo
    cases anchor.row <;> exact .literal rfl

end Placement

end TestSignal
