import TestSignal.Proofs.Device.Discovery
import TestSignal.Proofs.Text.Occurrence

namespace TestSignal

namespace Device

/-!
# Choosing a sink by its name

A listing gives its names without blanks around them, and so does the fallback of a default
device whose name does not begin with a blank.  Such a name is what a request for it wants, so
a sink that is listed is found under its name, whichever other names begin with it or stand
before it.

Whatever is chosen is such a name in turn, and choosing it again chooses the same.
-/

/-! ## Proper names -/

/-- A name that is there, and has no blanks around it. -/
structure IsProperName (name : String) : Prop where
  nonempty : name ≠ ""
  trimmed : Text.trim name = name

theorem isProperName_of_inkedEnds {name : String} (inked : Text.InkedEnds name) :
    IsProperName name where
  nonempty := by
    rintro rfl
    rcases inked.starts with ⟨c, first, _⟩
    cases first
  trimmed := inked.trim

/-- The name that a line gives is proper, whatever the line is. -/
theorem isProperName_of_sinkName? {line name : String} (given : sinkName? line = some name) :
    IsProperName name := by
  rcases Option.bind_eq_some_iff.mp given with ⟨body, _, given⟩
  rcases Option.bind_eq_some_iff.mp given with ⟨inside, _, given⟩
  dsimp only at given
  split at given
  case isTrue => cases given
  case isFalse ink =>
      rw [← Option.some.inj given]
      constructor
      · intro empty
        have none_left := congrArg String.toList empty
        rw [String.toList_ofList] at none_left
        rw [none_left] at ink
        exact ink rfl
      · unfold Text.trim
        rw [String.toList_ofList, Text.trimBy_trimBy]

theorem isProperName_of_mem_sinkNames {listing name : String}
    (listed : name ∈ sinkNames listing) : IsProperName name := by
  rcases List.mem_filterMap.mp listed with ⟨line, _, given⟩
  exact isProperName_of_sinkName? given

namespace Cache

/-- The fallback ends in a bracket, so only its beginning matters. -/
theorem isProperName_fallback {cache : Cache} (inked : Text.BeginsWithInk cache.defaultName) :
    IsProperName cache.fallback := by
  apply isProperName_of_inkedEnds
  constructor
  case starts =>
      rcases inked with ⟨c, first, ink⟩
      refine ⟨c, ?_, ink⟩
      unfold fallback
      rw [String.toList_append, List.head?_append, first]
      rfl
  case ends =>
      refine ⟨')', ?_, by decide⟩
      unfold fallback
      rw [String.toList_append, List.getLast?_append]
      rfl

/-! ## Choices -/

section Choices

variable {sinks : List String} {name : String}

/-- A sink is found under its exact name, before any that only begins with it. -/
theorem choose_of_mem (listed : name ∈ sinks) (proper : IsProperName name) (fallback : String) :
    choose sinks fallback name = name := by
  unfold choose
  rw [if_neg (by simpa using proper.nonempty), if_pos listed]

/-- What is chosen is a sink, or the wanted name as it is. -/
theorem choose_mem_or_eq (some_sink : sinks ≠ []) (fallback wanted : String) :
    choose sinks fallback wanted ∈ sinks ∨ choose sinks fallback wanted = wanted := by
  unfold choose
  split
  case isTrue =>
      rcases List.exists_cons_of_ne_nil some_sink with ⟨first, rest, rfl⟩
      exact .inl List.mem_cons_self
  case isFalse =>
      split
      case isTrue => exact .inr rfl
      case isFalse =>
          cases found : sinks.find? fun name => wanted.toList.isPrefixOf name.toList with
          | none => exact .inr rfl
          | some name => exact .inl (List.mem_of_find?_eq_some found)

theorem wantedName_of_isProperName (proper : IsProperName name) :
    wantedName (.string name) = name := proper.trimmed

/-- A wanted name wants itself. -/
theorem wantedName_wantedName (requested : Value) :
    wantedName (.string (wantedName requested)) = wantedName requested := by
  cases requested with
  | string text => exact Text.trim_trim text
  | null | bool _ | number _ | list _ | object _ => rfl

/-- Choosing what is chosen chooses it again. -/
theorem choose_choose (some_sink : sinks ≠ []) (proper : ∀ name ∈ sinks, IsProperName name)
    (fallback : String) (requested : Value) :
    choose sinks fallback
        (wantedName (.string (choose sinks fallback (wantedName requested)))) =
      choose sinks fallback (wantedName requested) := by
  rcases choose_mem_or_eq some_sink fallback (wantedName requested) with listed | same
  · have named := proper _ listed
    rw [wantedName_of_isProperName named, choose_of_mem listed named]
  · rw [same, wantedName_wantedName, same]

end Choices

/-! ## Caches that are filled from listings -/

/-- The names of an answer, if it gives any, are those of a listing. -/
def PrintsNames (answer : Except Fault (List String)) : Prop :=
  ∀ names, answer = .ok names → ∃ listing, names = sinkNames listing

/-- A cache that gets its sinks from listings, and has got from one what it keeps. -/
structure Lists (cache : Cache) : Prop where
  source : ∀ host, PrintsNames (cache.query host).1
  kept : ∀ known ∈ cache.outcome, ∃ answer, PrintsNames answer ∧
    known = found cache.fallback answer

/-- The engine prints a listing or fails. -/
theorem lists_of_engine {cache : Cache} (engine : cache.source = .engine)
    (fresh : cache.outcome = none) : cache.Lists where
  source host names given := by
    unfold query at given
    rw [engine] at given
    rcases HostRun.bind_ok.mp (Prod.ext given rfl) with ⟨⟨code, output⟩, between, _, printed⟩
    dsimp only at printed
    split at printed
    · exact ⟨output, (HostRun.pure_ok.mp printed).1.symm⟩
    · cases printed
  kept := by simp [fresh]

/-- The discovery that a cache has, or would make on a host. -/
def discoveryOn (cache : Cache) (host : Host) : Discovery :=
  match cache.outcome with
  | some known => known
  | none => found cache.fallback (cache.query host).1

theorem exists_discoveryOn (cache : Cache) (host : Host) :
    ∃ after, cache.discover host =
      (.ok (cache.discoveryOn host, cache.knowing (cache.discoveryOn host)), after) := by
  cases known : cache.outcome with
  | none =>
      have made : cache.discoveryOn host = found cache.fallback (cache.query host).1 := by
        unfold discoveryOn
        rw [known]
      rw [made]
      exact ⟨_, discover_of_unknown known host⟩
  | some discovery =>
      have kept : cache.discoveryOn host = discovery := by
        unfold discoveryOn
        rw [known]
      have same : cache.knowing discovery = cache := by
        unfold knowing
        rw [← known]
      rw [kept, same]
      exact ⟨host, discover_of_known known host⟩

theorem exists_discoveryOn_eq_found {cache : Cache} (lists : cache.Lists) (host : Host) :
    ∃ answer, PrintsNames answer ∧ cache.discoveryOn host = found cache.fallback answer := by
  unfold discoveryOn
  cases known : cache.outcome with
  | none => exact ⟨_, lists.source host, rfl⟩
  | some discovery => exact lists.kept discovery known

/-- The sinks of a discovery have proper names, and there are some. -/
theorem isProperName_discoveryOn {cache : Cache} (lists : cache.Lists) {host : Host}
    (inked : (cache.discoveryOn host).ok = false → Text.BeginsWithInk cache.defaultName) :
    (cache.discoveryOn host).sinks ≠ [] ∧
      ∀ name ∈ (cache.discoveryOn host).sinks, IsProperName name := by
  rcases exists_discoveryOn_eq_found lists host with ⟨answer, prints, made⟩
  have tells := found_tells cache.fallback answer
  rw [← made] at tells
  refine ⟨tells.some_sink, ?_⟩
  intro name listed
  cases succeeded : (cache.discoveryOn host).ok with
  | false =>
      rw [tells.fallback_only succeeded, List.mem_singleton] at listed
      rw [listed]
      exact isProperName_fallback (inked succeeded)
  | true =>
      rcases prints _ (tells.names succeeded) with ⟨listing, names⟩
      rw [names] at listed
      exact isProperName_of_mem_sinkNames listed

/-! ## Requests -/

theorem resolve_of_known {cache : Cache} {found : Discovery} (known : cache.outcome = some found)
    (requested : Value) (host : Host) :
    cache.resolve requested host =
      (.ok (choose found.sinks cache.fallback (wantedName requested), cache), host) :=
  HostRun.bind_of_ok (discover_of_known known host) _

theorem exists_resolve_eq_choose (cache : Cache) (requested : Value) (host : Host) :
    ∃ after, cache.resolve requested host =
      (.ok (choose (cache.discoveryOn host).sinks cache.fallback (wantedName requested),
        cache.knowing (cache.discoveryOn host)), after) := by
  rcases exists_discoveryOn cache host with ⟨after, discovered⟩
  exact ⟨after, HostRun.bind_of_ok discovered _⟩

/-- What is found for a request is found again when it is requested. -/
theorem exists_resolve_again {cache : Cache} (lists : cache.Lists) {host : Host}
    (inked : (cache.discoveryOn host).ok = false → Text.BeginsWithInk cache.defaultName)
    (requested : Value) :
    ∃ name kept after, cache.resolve requested host = (.ok (name, kept), after) ∧
      ∀ later, kept.resolve (.string name) later = (.ok (name, kept), later) := by
  rcases isProperName_discoveryOn lists inked with ⟨some_sink, proper⟩
  rcases exists_resolve_eq_choose cache requested host with ⟨after, resolved⟩
  refine ⟨_, _, after, resolved, fun later => ?_⟩
  have known : (cache.knowing (cache.discoveryOn host)).outcome =
      some (cache.discoveryOn host) := rfl
  have same : (cache.knowing (cache.discoveryOn host)).fallback = cache.fallback := rfl
  rw [resolve_of_known known, same, choose_choose some_sink proper]

end Cache

end Device

end TestSignal
