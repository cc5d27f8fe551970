import Mathlib.Data.List.Forall2
import TestSignal.Host

namespace TestSignal

/-!
# Outcomes

An operation of the library either gives a result or ends in a fault, and most
operations are sequences of others.  The laws here read the result of a sequence
as results of its parts.  Every later proof about an operation goes through them,
one part at a time, and never looks at how faults are passed on.
-/

namespace Outcome

variable {α β ε : Type}

/-- A sequence gives a result exactly when its first part gives one and the rest
does from there. -/
theorem bind_ok {first : Except ε α} {next : α → Except ε β} {result : β} :
    (first >>= next) = .ok result ↔ ∃ value, first = .ok value ∧ next value = .ok result := by
  cases first with
  | error fault =>
      constructor
      · intro impossible
        cases impossible
      · rintro ⟨value, impossible, _⟩
        cases impossible
  | ok value =>
      constructor
      · intro given
        exact ⟨value, rfl, given⟩
      · rintro ⟨_, same, given⟩
        cases same
        exact given

theorem pure_ok {value result : α} :
    (pure value : Except ε α) = .ok result ↔ value = result := by
  constructor
  · intro given
    exact Except.ok.inj given
  · intro same
    rw [same]
    rfl

theorem bind_of_ok {first : Except ε α} {value : α} (made : first = .ok value)
    (next : α → Except ε β) : (first >>= next) = next value := by
  rw [made]
  rfl

/-- A sequence gives some result when its first part gives one and the rest does. -/
theorem exists_bind {first : Except ε α} {value : α} {next : α → Except ε β}
    (made : first = .ok value) (rest : ∃ result, next value = .ok result) :
    ∃ result, (first >>= next) = .ok result := by
  rcases rest with ⟨result, given⟩
  exact ⟨result, bind_ok.mpr ⟨value, made, given⟩⟩

/-- A list of operations that all give results gives the list of them. -/
theorem exists_mapM {make : α → Except ε β} {items : List α}
    (each : ∀ item ∈ items, ∃ result, make item = .ok result) :
    ∃ results, items.mapM make = .ok results := by
  induction items with
  | nil => exact ⟨[], rfl⟩
  | cons item rest inductionHypothesis =>
      rcases List.forall_mem_cons.mp each with ⟨⟨first, made⟩, others⟩
      rcases inductionHypothesis others with ⟨more, madeRest⟩
      rw [List.mapM_cons]
      exact exists_bind made (exists_bind madeRest ⟨first :: more, rfl⟩)

/-- A test of the result, if there is one. -/
theorem any_ok {outcome : Except ε α} {test : α → Bool} :
    outcome.toOption.any test = true ↔ ∃ result, outcome = .ok result ∧ test result = true := by
  cases outcome with
  | error fault =>
      constructor
      · intro impossible
        cases impossible
      · rintro ⟨_, impossible, _⟩
        cases impossible
  | ok value =>
      constructor
      · intro passed
        exact ⟨value, rfl, passed⟩
      · rintro ⟨_, same, passed⟩
        cases same
        exact passed

/-- The results of a list are those of its items, one by one. -/
theorem forall₂_of_mapM_ok {make : α → Except ε β} {items : List α} {results : List β}
    (made : items.mapM make = .ok results) :
    List.Forall₂ (fun item result => make item = .ok result) items results := by
  induction items generalizing results with
  | nil =>
      cases made
      exact .nil
  | cons item rest inductionHypothesis =>
      rw [List.mapM_cons] at made
      rcases bind_ok.mp made with ⟨result, madeFirst, made⟩
      rcases bind_ok.mp made with ⟨more, madeRest, made⟩
      rw [← pure_ok.mp made]
      exact .cons madeFirst (inductionHypothesis madeRest)

section Results

variable {make : α → Except ε β} {items : List α} {results : List β}

theorem length_of_mapM_ok (made : items.mapM make = .ok results) :
    results.length = items.length := (forall₂_of_mapM_ok made).length_eq.symm

theorem getElem_of_mapM_ok (made : items.mapM make = .ok results) {index : Nat}
    (inside : index < items.length) (there : index < results.length) :
    make items[index] = .ok results[index] :=
  (forall₂_of_mapM_ok made).get inside there

/-- The result for an item has the item's place. -/
theorem exists_getElem?_of_mapM_ok (made : items.mapM make = .ok results) {index : Nat} {item : α}
    (placed : items[index]? = some item) :
    ∃ result, results[index]? = some result ∧ make item = .ok result := by
  rcases List.getElem?_eq_some_iff.mp placed with ⟨inside, rfl⟩
  have there : index < results.length := by rwa [length_of_mapM_ok made]
  exact ⟨_, List.getElem?_eq_getElem there, getElem_of_mapM_ok made inside there⟩

/-- The results of a list are also those of another operation that agrees where there are
results. -/
theorem mapM_ok_of_agrees {other : α → Except ε β}
    (agrees : ∀ item ∈ items, ∀ result, make item = .ok result → other item = .ok result)
    (made : items.mapM make = .ok results) : items.mapM other = .ok results := by
  induction items generalizing results with
  | nil => exact made
  | cons item rest inductionHypothesis =>
      rcases List.forall_mem_cons.mp agrees with ⟨first, others⟩
      rw [List.mapM_cons] at made ⊢
      rcases bind_ok.mp made with ⟨result, madeFirst, made⟩
      rcases bind_ok.mp made with ⟨more, madeRest, made⟩
      exact bind_ok.mpr ⟨result, first result madeFirst,
        bind_ok.mpr ⟨more, inductionHypothesis others madeRest, made⟩⟩

/-- Every item of a list that gives results has its result among them. -/
theorem exists_mem_of_mapM_ok (made : items.mapM make = .ok results) {item : α}
    (member : item ∈ items) : ∃ result ∈ results, make item = .ok result := by
  rcases List.mem_iff_getElem?.mp member with ⟨index, placed⟩
  rcases exists_getElem?_of_mapM_ok made placed with ⟨result, there, given⟩
  exact ⟨result, List.mem_of_getElem? there, given⟩

/-- Every result of a list is that of some item. -/
theorem exists_item_of_mapM_ok (made : items.mapM make = .ok results) {result : β}
    (member : result ∈ results) : ∃ item ∈ items, make item = .ok result := by
  rcases List.getElem_of_mem member with ⟨index, there, rfl⟩
  have inside : index < items.length := by rwa [← length_of_mapM_ok made]
  exact ⟨items[index], List.getElem_mem inside, getElem_of_mapM_ok made inside there⟩

/-- What holds of the result for each item holds of all results of a list. -/
theorem forall_of_mapM_ok {holds : β → Prop}
    (each : ∀ item ∈ items, ∀ result, make item = .ok result → holds result)
    (made : items.mapM make = .ok results) : ∀ result ∈ results, holds result := by
  intro result member
  rcases exists_item_of_mapM_ok made member with ⟨item, inItems, given⟩
  exact each item inItems result given

/-- What is read off each result of a list, when it can be told from the item. -/
theorem map_of_mapM_ok {γ : Type} {read : β → γ} {told : α → γ}
    (each : ∀ item ∈ items, ∀ result, make item = .ok result → read result = told item)
    (made : items.mapM make = .ok results) : results.map read = items.map told := by
  have both := (List.forall₂_and_left _ _).mpr ⟨each, forall₂_of_mapM_ok made⟩
  have same := both.imp fun item result paired => (paired.1 result paired.2).symm
  rw [← List.forall₂_map_right_iff, ← List.forall₂_map_left_iff, List.forall₂_eq_eq_eq] at same
  exact same.symm

end Results

theorem exists_ok {outcome : Except ε α} (given : outcome.isOk = true) :
    ∃ result, outcome = .ok result := by
  cases outcome with
  | error fault => exact absurd given Bool.false_ne_true
  | ok result => exact ⟨result, rfl⟩

/-! ## Operations with one possible fault -/

/-- An outcome that is a certain fault under a condition, and a result otherwise. -/
structure FaultsWhen (condition : Prop) (fault : ε) (outcome : Except ε α) : Prop where
  faults : condition → outcome = .error fault
  succeeds : ¬condition → ∃ result, outcome = .ok result

namespace FaultsWhen

variable {condition later : Prop} {fault : ε}

theorem pure (result : α) : FaultsWhen False fault (.ok result : Except ε α) where
  faults := False.elim
  succeeds _ := ⟨result, rfl⟩

/-- A sequence faults when its first part does, or the rest on the result of the first. -/
theorem bind {first : Except ε α} {next : α → Except ε β}
    (start : FaultsWhen condition fault first)
    (rest : ∀ value, first = .ok value → FaultsWhen later fault (next value)) :
    FaultsWhen (condition ∨ later) fault (first >>= next) := by
  by_cases now : condition
  · rw [start.faults now]
    exact ⟨fun _ => rfl, fun neither => absurd (Or.inl now) neither⟩
  · rcases start.succeeds now with ⟨value, made⟩
    have whole := rest value made
    rw [made]
    exact ⟨fun either => whole.faults (either.resolve_left now),
      fun neither => whole.succeeds fun after => neither (Or.inr after)⟩

theorem congr {outcome : Except ε α} (whole : FaultsWhen condition fault outcome)
    (same : condition ↔ later) : FaultsWhen later fault outcome := by
  rw [← same]
  exact whole

/-- A list of operations faults when one of them does. -/
theorem mapM {make : α → Except ε β} {items : List α} {bad : α → Prop}
    (each : ∀ item ∈ items, FaultsWhen (bad item) fault (make item)) :
    FaultsWhen (∃ item ∈ items, bad item) fault (items.mapM make) := by
  induction items with
  | nil => exact (pure []).congr (by simp)
  | cons item rest inductionHypothesis =>
      rcases List.forall_mem_cons.mp each with ⟨first, others⟩
      rw [List.mapM_cons]
      refine (first.bind fun result _ =>
        (inductionHypothesis others).bind fun more _ => pure (result :: more)).congr ?_
      simp only [or_false, List.mem_cons, exists_eq_or_imp]

theorem eq_error_iff {outcome : Except ε α} (whole : FaultsWhen condition fault outcome)
    {other : ε} : outcome = .error other ↔ other = fault ∧ condition := by
  constructor
  · intro ended
    by_cases holds : condition
    · rw [whole.faults holds] at ended
      exact ⟨(Except.error.inj ended).symm, holds⟩
    · rcases whole.succeeds holds with ⟨result, made⟩
      rw [made] at ended
      cases ended
  · rintro ⟨rfl, holds⟩
    exact whole.faults holds

end FaultsWhen

/-! ## Operations on a state -/

section State

variable {σ : Type} {state between : σ} {first : ExceptT ε (StateM σ) α}

/-- A sequence on a state is its first part, and the rest on the state that this leaves
unless it ends in a fault. -/
theorem bind_run (first : ExceptT ε (StateM σ) α) (next : α → ExceptT ε (StateM σ) β) :
    (first >>= next) state =
      match first state with
      | (.ok value, between) => next value between
      | (.error fault, between) => (.error fault, between) := by
  change (ExceptT.bindCont next (first state).1) (first state).2 = _
  rcases first state with ⟨outcome, between⟩
  cases outcome <;> rfl

theorem bind_of_run_ok {value : α} (made : first state = (.ok value, between))
    (next : α → ExceptT ε (StateM σ) β) : (first >>= next) state = next value between := by
  rw [bind_run, made]

theorem bind_of_run_error {fault : ε} (ended : first state = (.error fault, between))
    (next : α → ExceptT ε (StateM σ) β) :
    (first >>= next) state = (.error fault, between) := by
  rw [bind_run, ended]

/-- A sequence on a state gives a result exactly when its first part gives one and the rest
does on the state that the first part leaves. -/
theorem bind_run_ok {next : α → ExceptT ε (StateM σ) β} {result : β} {after : σ} :
    (first >>= next) state = (.ok result, after) ↔
      ∃ value between, first state = (.ok value, between) ∧
        next value between = (.ok result, after) := by
  rw [bind_run]
  rcases first state with ⟨outcome, between⟩
  cases outcome with
  | error fault =>
      constructor
      · intro impossible
        cases impossible
      · rintro ⟨_, _, impossible, _⟩
        cases impossible
  | ok value =>
      constructor
      · intro given
        exact ⟨value, between, rfl, given⟩
      · rintro ⟨_, _, same, given⟩
        cases same
        exact given

end State

end Outcome

namespace HostRun

variable {α β : Type} {host after : Host}

theorem bind_of_ok {first : HostRun α} {value : α} {between : Host}
    (made : first host = (.ok value, between)) (next : α → HostRun β) :
    (first >>= next) host = next value between :=
  Outcome.bind_of_run_ok made next

theorem bind_of_error {first : HostRun α} {fault : Fault} {between : Host}
    (ended : first host = (.error fault, between)) (next : α → HostRun β) :
    (first >>= next) host = (.error fault, between) :=
  Outcome.bind_of_run_error ended next

theorem bind_ok {first : HostRun α} {next : α → HostRun β} {result : β} :
    (first >>= next) host = (.ok result, after) ↔
      ∃ value between, first host = (.ok value, between) ∧
        next value between = (.ok result, after) :=
  Outcome.bind_run_ok

theorem pure_ok {value result : α} :
    (pure value : HostRun α) host = (.ok result, after) ↔ value = result ∧ host = after := by
  constructor
  · intro given
    cases given
    exact ⟨rfl, rfl⟩
  · rintro ⟨rfl, rfl⟩
    rfl

/-- A result that does not depend on the host leaves the host as it is. -/
theorem ofExcept_ok {outcome : Except Fault α} {result : α} :
    HostRun.ofExcept outcome host = (.ok result, after) ↔
      outcome = .ok result ∧ host = after := by
  constructor
  · intro given
    cases given
    exact ⟨rfl, rfl⟩
  · rintro ⟨rfl, rfl⟩
    rfl

/-- A sequence on a host gives some result when its first part gives one and the rest does. -/
theorem exists_bind {first : HostRun α} {value : α} {between : Host} {next : α → HostRun β}
    (made : first host = (.ok value, between))
    (rest : ∃ result after, next value between = (.ok result, after)) :
    ∃ result after, (first >>= next) host = (.ok result, after) := by
  rw [bind_of_ok made]
  exact rest

theorem exists_ofExcept {outcome : Except Fault α} (made : ∃ result, outcome = .ok result) :
    ∃ result after, HostRun.ofExcept outcome host = (.ok result, after) := by
  rcases made with ⟨result, made⟩
  exact ⟨result, host, ofExcept_ok.mpr ⟨made, rfl⟩⟩

theorem exists_ok {run : HostRun α} (given : (run host).1.isOk = true) :
    ∃ result after, run host = (.ok result, after) := by
  rcases Outcome.exists_ok given with ⟨result, same⟩
  exact ⟨result, (run host).2, Prod.ext same rfl⟩

end HostRun

/-- A host on which every file exists and no program ends in time. -/
def Host.idle : Host where
  now := 0
  programs := []
  furtherPrograms := .timedOut
  exists? := fun _ => .ok true

end TestSignal
