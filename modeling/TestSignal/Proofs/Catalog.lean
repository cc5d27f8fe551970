import TestSignal.Animation
import TestSignal.Background
import TestSignal.Format

namespace TestSignal

/-!
# Tables that are looked up by identifier

Formats, backgrounds and animations are listed in tables.  An identifier from a table finds its own
entry, so the default that stands in for an unknown one is not needed; and what a value names is
always an entry of the table.
-/

/-- An identifier that is listed finds an entry, whatever the default is. -/
theorem find?_eq_some_getD {α : Type} (default : α) {items : List α} {name : α → String}
    {id : String} (known : id ∈ items.map name) :
    items.find? (fun item => name item = id) =
      some ((items.find? fun item => name item = id).getD default) := by
  rcases List.mem_map.mp known with ⟨item, listed, named⟩
  have isSome : (items.find? fun item => name item = id).isSome = true :=
    List.find?_isSome.mpr ⟨item, listed, decide_eq_true named⟩
  rcases Option.isSome_iff_exists.mp isSome with ⟨found, chosen⟩
  rw [chosen]
  rfl

theorem Format.ofId?_of_mem {id : String} (known : id ∈ Format.ids) :
    Format.ofId? id = some (Format.ofValue (.string id)) :=
  find?_eq_some_getD Format.standard known

theorem Background.ofId?_of_mem {id : String} (known : id ∈ Background.ids) :
    Background.ofId? id = some (Background.ofValue (.string id)) :=
  find?_eq_some_getD Background.standard known

/-- The animation that is found for an identifier has it. -/
theorem Animation.id_of_ofId? {id : String} {animation : Animation}
    (found : Animation.ofId? id = some animation) : animation.id = id := by
  have chosen := List.find?_some found
  exact of_decide_eq_true chosen

/-- Whatever names a format, the one that is used is listed. -/
theorem Format.ofValue_mem_all (value : Value) : Format.ofValue value ∈ Format.all := by
  unfold Format.ofValue
  split
  case h_1 id =>
      cases found : Format.ofId? id with
      | none =>
          rw [Option.getD_none]
          decide
      | some format => exact List.mem_of_find?_eq_some found
  case h_2 => decide

end TestSignal
