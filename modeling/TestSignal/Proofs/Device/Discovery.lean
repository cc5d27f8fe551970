import TestSignal.Device.Cache
import TestSignal.Proofs.Outcome

namespace TestSignal

namespace Device

/-!
# Discoveries

A discovery is judged from one answer of the source, and is kept from then on.  Whatever
the answer is, there is a sink afterwards, so whoever needs sinks gets them.  A failed
query is kept like any other, and the source is not asked again on account of it.
-/

namespace Cache

/-! ## How an answer is judged -/

/-- The discovery that an answer of the source leads to. -/
def found (fallback : String) (answer : Except Fault (List String)) : Discovery :=
  (judge fallback answer).1

/-- The answers without a sink: a fault, or no names. -/
def IsEmptyHanded (answer : Except Fault (List String)) : Prop :=
  (∃ fault, answer = .error fault) ∨ answer = .ok []

theorem isEmptyHanded_or (answer : Except Fault (List String)) :
    IsEmptyHanded answer ∨ ∃ names, answer = .ok names ∧ names ≠ [] := by
  cases answer with
  | error fault => exact .inl (.inl ⟨fault, rfl⟩)
  | ok names =>
      cases names with
      | nil => exact .inl (.inr rfl)
      | cons name rest => exact .inr ⟨_, rfl, List.cons_ne_nil name rest⟩

/-- Without a sink in the answer, the fallback is the only one. -/
theorem found_of_isEmptyHanded {answer : Except Fault (List String)}
    (empty : IsEmptyHanded answer) (fallback : String) :
    (found fallback answer).ok = false ∧ (found fallback answer).sinks = [fallback] := by
  rcases empty with ⟨fault, rfl⟩ | rfl
  · exact ⟨rfl, rfl⟩
  · exact ⟨rfl, rfl⟩

/-- Names that the source gives are the sinks. -/
theorem found_of_names {names : List String} (given : names ≠ []) (fallback : String) :
    (found fallback (.ok names)).ok = true ∧ (found fallback (.ok names)).sinks = names := by
  cases names with
  | nil => exact absurd rfl given
  | cons name rest => exact ⟨rfl, rfl⟩

/-- What a discovery says about the answer that it is judged from. -/
structure Tells (fallback : String) (answer : Except Fault (List String))
    (discovery : Discovery) : Prop where
  some_sink : discovery.sinks ≠ []
  fails_iff : discovery.ok = false ↔ IsEmptyHanded answer
  fallback_only : discovery.ok = false → discovery.sinks = [fallback]
  names : discovery.ok = true → answer = .ok discovery.sinks

theorem found_tells (fallback : String) (answer : Except Fault (List String)) :
    Tells fallback answer (found fallback answer) := by
  rcases isEmptyHanded_or answer with empty | ⟨names, rfl, given⟩
  · rcases found_of_isEmptyHanded empty fallback with ⟨fails, sinks⟩
    constructor
    case some_sink => simp [sinks]
    case fails_iff => simp [fails, empty]
    case fallback_only => exact fun _ => sinks
    case names => simp [fails]
  · rcases found_of_names given fallback with ⟨succeeds, sinks⟩
    have names : ¬IsEmptyHanded (.ok names) := by simp [IsEmptyHanded, given]
    constructor
    case some_sink => simp [sinks, given]
    case fails_iff => simp [succeeds, names]
    case fallback_only => simp [succeeds]
    case names => exact fun _ => congrArg Except.ok sinks.symm

/-! ## The kept discovery -/

/-- The cache with a discovery that is kept. -/
def knowing (cache : Cache) (discovery : Discovery) : Cache :=
  { cache with outcome := some discovery }

/-- The host after the line about a discovery. -/
def logged (fallback : String) (answer : Except Fault (List String)) (host : Host) : Host :=
  { host with log := host.log ++
      [{ level := (judge fallback answer).2.1, source := .devices
         text := (judge fallback answer).2.2 }] }

/-- A kept discovery is handed out, and the outside is not looked at. -/
theorem discover_of_known {cache : Cache} {discovery : Discovery}
    (known : cache.outcome = some discovery) (host : Host) :
    cache.discover host = (.ok (discovery, cache), host) := by
  unfold discover
  rw [known]
  rfl

/-- Without one the source is asked once, and what its answer leads to is kept. -/
theorem discover_of_unknown {cache : Cache} (unknown : cache.outcome = none) (host : Host) :
    cache.discover host =
      (.ok (found cache.fallback (cache.query host).1,
        cache.knowing (found cache.fallback (cache.query host).1)),
        logged cache.fallback (cache.query host).1 (cache.query host).2) := by
  unfold discover
  rw [unknown]
  rfl

/-- A discovery always succeeds, however the source answers. -/
theorem exists_discover (cache : Cache) (host : Host) :
    ∃ outcome after, cache.discover host = (.ok outcome, after) := by
  cases known : cache.outcome with
  | none => exact ⟨_, _, discover_of_unknown known host⟩
  | some discovery => exact ⟨_, _, discover_of_known known host⟩

/-- Every request for a sink is answered. -/
theorem exists_resolve (cache : Cache) (requested : Value) (host : Host) :
    ∃ outcome after, cache.resolve requested host = (.ok outcome, after) := by
  rcases exists_discover cache host with ⟨outcome, after, discovered⟩
  exact HostRun.exists_bind discovered ⟨_, after, rfl⟩

end Cache

end Device

end TestSignal
