import TestSignal.Proofs.Station.Reports

namespace TestSignal

open Device (Discovery)

/-!
# Sinks are asked for once

Visits to a station follow one another, and each finds the outside as it happens to be.
That nothing is asked is said by varying the source of the sinks: a visit that goes the same
with every source does not ask one.  That the source is asked once is said in the same way:
whatever the source is, the visit is determined by a single run of its query, on a host that
does not depend on it.

Between two invalidations there is then at most one visit that asks.  The visits before it
need no sinks and tell of none.  It and all that follow answer as if what it found had been
known from the start, however the source would answer later, and what they tell of the sinks
is told of that one discovery.  If no visit asks, then none tells of the sinks.
-/

namespace Station

/-! ## Visits -/

/-- An operation, and the outside as it finds it. -/
structure Visit where
  operation : Operation
  host : Host

/-- What a visit leads to. -/
structure Visited where
  answer : Except Fault Answer
  station : Station
  host : Host

/-- Carries out what a visit asks for; a fault leaves the station as it is. -/
def visit (station : Station) (visit : Visit) : Visited :=
  match station.perform visit.operation visit.host with
  | (.ok (answer, after), host) => { answer := .ok answer, station := after, host }
  | (.error fault, host) => { answer := .error fault, station, host }

theorem visit_of_ok {station after : Station} {visit : Visit} {answer : Answer} {host : Host}
    (done : station.perform visit.operation visit.host = (.ok (answer, after), host)) :
    station.visit visit = { answer := .ok answer, station := after, host } := by
  unfold Station.visit
  rw [done]

theorem visit_of_error {station : Station} {visit : Visit} {fault : Fault} {host : Host}
    (ended : station.perform visit.operation visit.host = (.error fault, host)) :
    station.visit visit = { answer := .error fault, station, host } := by
  unfold Station.visit
  rw [ended]

/-- The station after visits that follow one another. -/
def after (station : Station) (visits : List Visit) : Station :=
  visits.foldl (fun station visit => (station.visit visit).station) station

/-- The answers to visits that follow one another. -/
def answers (station : Station) : List Visit → List (Except Fault Answer)
  | [] => []
  | visit :: rest => (station.visit visit).answer :: (station.visit visit).station.answers rest

theorem answers_cons (station : Station) (visit : Visit) (rest : List Visit) :
    station.answers (visit :: rest) =
      (station.visit visit).answer :: (station.visit visit).station.answers rest := rfl

/-! ## The kept discovery -/

/-- The station with another source of sinks. -/
def withSource (station : Station) (source : Device.SinkSource) : Station :=
  { station with devices := { station.devices with source } }

/-- The station with another source, and with what is kept from it. -/
def withSinks (station : Station) (source : Device.SinkSource) (outcome : Option Discovery) :
    Station :=
  { station with devices := { station.devices with source, outcome } }

/-- The station without a discovery. -/
def forgetting (station : Station) : Station :=
  { station with devices := station.devices.invalidate }

/-! ## The two kinds of visits -/

/-- A visit that needs no sinks, at any station with this desk. -/
def Spares (desk : Desk) (visit : Visit) (answer : Except Fault Answer) (host : Host) : Prop :=
  ∀ station : Station, station.desk = desk →
    station.visit visit = { answer, station, host }

/-- A visit that needs sinks, on a host that it has prepared, at any station with this desk. -/
structure Needs (desk : Desk) (visit : Visit) (prepared : Host) (answer : Discovery → Answer) :
    Prop where
  known : ∀ (station : Station) (found : Discovery), station.desk = desk →
    station.devices.outcome = some found →
      station.visit visit = { answer := .ok (answer found), station, host := prepared }
  unknown : ∀ station : Station, station.desk = desk → station.devices.outcome = none →
    station.visit visit =
      { answer := .ok (answer (station.foundOn prepared))
        station := station.knowing (station.foundOn prepared)
        host := station.askedOn prepared }

/-- A visit that does not forget needs no sinks, or needs them in one way. -/
theorem spares_or_needs {visit : Visit} (keeps : visit.operation ≠ .invalidate) (desk : Desk) :
    (∃ answer host, Spares desk visit answer host) ∨
      ∃ prepared answer, Needs desk visit prepared answer := by
  rcases isCut_perform keeps with ⟨prepare, splits⟩
  have performed : ∀ station : Station, station.desk = desk →
      station.perform visit.operation visit.host =
        (prepare desk >>= fun reply => reply.at station) visit.host := by
    rintro station rfl
    exact congrFun (splits station) visit.host
  rcases made : prepare desk visit.host with ⟨outcome, between⟩
  cases outcome with
  | error fault =>
      refine .inl ⟨.error fault, between, fun station same => ?_⟩
      exact visit_of_error ((performed station same).trans (HostRun.bind_of_error made _))
  | ok reply =>
      have given : ∀ station : Station, station.desk = desk →
          station.perform visit.operation visit.host = reply.at station between :=
        fun station same => (performed station same).trans (HostRun.bind_of_ok made _)
      cases reply with
      | plain answer =>
          exact .inl ⟨.ok answer, between, fun station same => visit_of_ok (given station same)⟩
      | asking answer =>
          refine .inr ⟨between, answer, ?_, ?_⟩
          · intro station found same known
            exact visit_of_ok ((given station same).trans (answerFrom_of_known known _ _))
          · intro station same unknown
            exact visit_of_ok ((given station same).trans (answerFrom_of_unknown unknown _ _))

/-- A visit that goes the same whatever the sinks are and whether they are known, and leaves
the station as it is. -/
def NeedsNone (station : Station) (visit : Visit) : Prop :=
  ∀ source outcome, (station.withSinks source outcome).visit visit =
    { station.visit visit with station := station.withSinks source outcome }

/-- A visit that goes the same for every source of sinks, and leaves the station as it is. -/
def Silent (station : Station) (visit : Visit) : Prop :=
  ∀ source, (station.withSource source).visit visit =
    { station.visit visit with station := station.withSource source }

/-- A visit that asks once, whatever the source is: on a host that is prepared without it.
The outcome is kept, and the answer is made from it. -/
def Asks (station : Station) (visit : Visit) (prepared : Host) (answer : Discovery → Answer) :
    Prop :=
  ∀ source, (station.withSource source).visit visit =
    { answer := .ok (answer ((station.withSource source).foundOn prepared))
      station := (station.withSource source).knowing ((station.withSource source).foundOn prepared)
      host := (station.withSource source).askedOn prepared }

variable {station : Station} {visit : Visit}

theorem Spares.needsNone {answer : Except Fault Answer} {host : Host}
    (spares : Spares station.desk visit answer host) : station.NeedsNone visit := by
  intro source outcome
  rw [spares station rfl, spares (station.withSinks source outcome) rfl]

theorem Spares.silent {answer : Except Fault Answer} {host : Host}
    (spares : Spares station.desk visit answer host) : station.Silent visit := by
  intro source
  rw [spares station rfl, spares (station.withSource source) rfl]

theorem Needs.asks {prepared : Host} {answer : Discovery → Answer}
    (needs : Needs station.desk visit prepared answer) (fresh : station.devices.outcome = none) :
    station.Asks visit prepared answer :=
  fun source => needs.unknown (station.withSource source) rfl fresh

/-! ## What is told -/

/-- A visit that needs no sinks tells of none. -/
theorem Spares.spared {answer : Except Fault Answer} {host : Host}
    (spares : Spares station.desk visit answer host) (keeps : visit.operation ≠ .invalidate) :
    Spared visit.operation answer := by
  have here := spares station.forgetting rfl
  have account : station.forgetting.Accounted visit.operation
      (station.forgetting.perform visit.operation visit.host).1 :=
    accounted_perform rfl keeps visit.host
  rcases performed : station.forgetting.perform visit.operation visit.host with ⟨outcome, after⟩
  rw [performed] at account
  cases account with
  | reported _ =>
      -- Then a discovery would be kept from now on.
      have kept := congrArg (fun visited => visited.station.devices.outcome)
        ((visit_of_ok performed).symm.trans here)
      cases kept
  | spared spared =>
      cases (visit_of_ok performed).symm.trans here
      exact spared
  | failed spared =>
      cases (visit_of_error performed).symm.trans here
      exact spared

/-- A visit that needs sinks tells of what the source has answered, whatever that is. -/
theorem Needs.reports {prepared : Host} {answer : Discovery → Answer}
    (needs : Needs station.desk visit prepared answer) (keeps : visit.operation ≠ .invalidate)
    (outcome : Except Fault (List String)) :
    Reports station.desk (Device.Cache.found station.devices.fallback outcome) visit.operation
      (answer (Device.Cache.found station.devices.fallback outcome)) := by
  let asked := station.withSinks (.custom fun _ => HostRun.ofExcept outcome) none
  have here := needs.unknown asked rfl rfl
  have account : asked.Accounted visit.operation (asked.perform visit.operation visit.host).1 :=
    accounted_perform rfl keeps visit.host
  rcases performed : asked.perform visit.operation visit.host with ⟨result, after⟩
  rw [performed] at account
  cases account with
  | reported reports =>
      have same := (visit_of_ok performed).symm.trans here
      have kept := congrArg (fun visited => visited.station.devices.outcome) same
      have told := Except.ok.inj (congrArg Visited.answer same)
      cases Option.some.inj kept
      rw [told] at reports
      exact reports
  | spared _ =>
      have kept := congrArg (fun visited => visited.station.devices.outcome)
        ((visit_of_ok performed).symm.trans here)
      cases kept
  | failed _ =>
      have told := congrArg Visited.answer ((visit_of_error performed).symm.trans here)
      cases told

/-- An answer that is made from a discovery, or without the sinks. -/
inductive Based (desk : Desk) (found : Discovery) (operation : Operation) :
    Except Fault Answer → Prop where
  | told {answer : Answer} (reports : Reports desk found operation answer) :
      Based desk found operation (.ok answer)
  | spared {outcome : Except Fault Answer} (spared : Spared operation outcome) :
      Based desk found operation outcome

/-- At a station that has kept what its source answered, every answer is based on that. -/
theorem based_of_known {outcome : Except Fault (List String)}
    (known : station.devices.outcome =
      some (Device.Cache.found station.devices.fallback outcome))
    (keeps : visit.operation ≠ .invalidate) :
    Based station.desk (Device.Cache.found station.devices.fallback outcome) visit.operation
      (station.visit visit).answer := by
  rcases spares_or_needs keeps station.desk with ⟨answer, host, spares⟩ |
    ⟨prepared, answer, needs⟩
  · rw [spares station rfl]
    exact .spared (spares.spared keeps)
  · rw [needs.known station _ rfl known]
    exact .told (needs.reports keeps outcome)

/-! ## The station afterwards -/

/-- At a station that has kept a discovery, no visit asks or changes anything. -/
theorem visit_of_known {found : Discovery} (known : station.devices.outcome = some found)
    (keeps : visit.operation ≠ .invalidate) :
    station.Silent visit ∧ (station.visit visit).station = station := by
  rcases spares_or_needs keeps station.desk with ⟨answer, host, spares⟩ |
    ⟨prepared, answer, needs⟩
  · exact ⟨spares.silent, congrArg Visited.station (spares station rfl)⟩
  · have here := needs.known station found rfl known
    refine ⟨fun source => ?_, congrArg Visited.station here⟩
    rw [here, needs.known (station.withSource source) found rfl known]

/-- No visit changes anything but the kept discovery. -/
theorem forgetting_visit (station : Station) (visit : Visit) :
    (station.visit visit).station.forgetting = station.forgetting := by
  by_cases keeps : visit.operation ≠ .invalidate
  · rcases spares_or_needs keeps station.desk with ⟨answer, host, spares⟩ |
      ⟨prepared, answer, needs⟩
    · rw [spares station rfl]
    · cases known : station.devices.outcome with
      | none => rw [needs.unknown station rfl known]; rfl
      | some found => rw [needs.known station found rfl known]
  · rcases visit with ⟨operation, host⟩
    cases Classical.not_not.mp keeps
    rfl

/-! ## Runs -/

theorem after_cons (station : Station) (visit : Visit) (rest : List Visit) :
    station.after (visit :: rest) = (station.visit visit).station.after rest := rfl

theorem after_append (station : Station) (visits more : List Visit) :
    station.after (visits ++ more) = (station.after visits).after more :=
  List.foldl_append

theorem forgetting_after (station : Station) (visits : List Visit) :
    (station.after visits).forgetting = station.forgetting := by
  induction visits generalizing station with
  | nil => rfl
  | cons visit rest inductionHypothesis =>
      rw [after_cons, inductionHypothesis, forgetting_visit]

theorem after_of_known {found : Discovery} (known : station.devices.outcome = some found)
    {visits : List Visit} (keeps : ∀ visit ∈ visits, visit.operation ≠ .invalidate) :
    station.after visits = station := by
  induction visits with
  | nil => rfl
  | cons visit rest inductionHypothesis =>
      rcases List.forall_mem_cons.mp keeps with ⟨first, others⟩
      rw [after_cons, (visit_of_known known first).2, inductionHypothesis others]

theorem answers_of_known {found : Discovery} (known : station.devices.outcome = some found)
    {visits : List Visit} (keeps : ∀ visit ∈ visits, visit.operation ≠ .invalidate) :
    station.answers visits = visits.map fun visit => (station.visit visit).answer := by
  induction visits with
  | nil => rfl
  | cons visit rest inductionHypothesis =>
      rcases List.forall_mem_cons.mp keeps with ⟨first, others⟩
      rw [answers_cons, (visit_of_known known first).2, inductionHypothesis others, List.map_cons]

/-- A visit that needs no sinks, and tells of none. -/
structure Idles (station : Station) (visit : Visit) : Prop where
  needsNone : station.NeedsNone visit
  spared : Spared visit.operation (station.visit visit).answer

/-- How visits go at a station that has kept no discovery. -/
inductive AsksAtMostOnce (station : Station) : List Visit → Prop where
  /-- No visit needs a sink or tells of one. -/
  | never {visits : List Visit} (idle : ∀ visit ∈ visits, station.Idles visit)
      (answers : station.answers visits = visits.map fun visit => (station.visit visit).answer)
      (after : station.after visits = station) :
      AsksAtMostOnce station visits
  /-- One visit asks, and what it finds is what all the others know and tell of. -/
  | once {before rest : List Visit} {first : Visit} {prepared : Host}
      {answer : Discovery → Answer}
      (idle : ∀ visit ∈ before, station.Idles visit)
      (asks : station.Asks first prepared answer)
      (reports : Reports station.desk (station.foundOn prepared) first.operation
        (answer (station.foundOn prepared)))
      (tells : Device.Cache.Tells station.devices.fallback (station.devices.query prepared).1
        (station.foundOn prepared))
      (kept : ∀ visit ∈ first :: rest, (station.knowing (station.foundOn prepared)).Silent visit)
      (answers : station.answers (before ++ first :: rest) =
        (before ++ first :: rest).map fun visit =>
          ((station.knowing (station.foundOn prepared)).visit visit).answer)
      (based : ∀ visit ∈ before ++ first :: rest,
        Based station.desk (station.foundOn prepared) visit.operation
          ((station.knowing (station.foundOn prepared)).visit visit).answer)
      (after : station.after (before ++ first :: rest) =
        station.knowing (station.foundOn prepared)) :
      AsksAtMostOnce station (before ++ first :: rest)

namespace AsksAtMostOnce

/-- A visit that needs no sinks may come first. -/
theorem cons_of_spares {rest : List Visit} {answer : Except Fault Answer} {host : Host}
    (spares : Spares station.desk visit answer host) (keeps : visit.operation ≠ .invalidate)
    (whole : station.AsksAtMostOnce rest) : station.AsksAtMostOnce (visit :: rest) := by
  have here := spares station rfl
  have idles : station.Idles visit := by
    refine ⟨spares.needsNone, ?_⟩
    rw [here]
    exact spares.spared keeps
  cases whole with
  | never idle answers after =>
      refine .never (List.forall_mem_cons.mpr ⟨idles, idle⟩) ?_ ?_
      · rw [answers_cons, List.map_cons, ← answers, here]
      · rw [after_cons, here]
        exact after
  | @once before rest first prepared answer idle asks reports tells kept answers based after =>
      have known := spares (station.knowing (station.foundOn prepared)) rfl
      have sameAnswers : station.answers (visit :: (before ++ first :: rest)) =
          (visit :: (before ++ first :: rest)).map fun visit =>
            ((station.knowing (station.foundOn prepared)).visit visit).answer := by
        rw [answers_cons, List.map_cons, ← answers, here, known]
      have basedAll : ∀ other ∈ visit :: (before ++ first :: rest),
          Based station.desk (station.foundOn prepared) other.operation
            ((station.knowing (station.foundOn prepared)).visit other).answer := by
        refine List.forall_mem_cons.mpr ⟨?_, based⟩
        rw [known]
        exact .spared (spares.spared keeps)
      have sameAfter : station.after (visit :: (before ++ first :: rest)) =
          station.knowing (station.foundOn prepared) := by
        rw [after_cons, here]
        exact after
      exact .once (List.forall_mem_cons.mpr ⟨idles, idle⟩) asks reports tells kept sameAnswers
        basedAll sameAfter

/-- A visit that needs sinks is the one that asks, if it comes first. -/
theorem cons_of_needs {rest : List Visit} {prepared : Host} {answer : Discovery → Answer}
    (needs : Needs station.desk visit prepared answer) (fresh : station.devices.outcome = none)
    (keeps : ∀ other ∈ visit :: rest, other.operation ≠ .invalidate) :
    station.AsksAtMostOnce (visit :: rest) := by
  rcases List.forall_mem_cons.mp keeps with ⟨first, others⟩
  have here := needs.unknown station rfl fresh
  have known := needs.known (station.knowing (station.foundOn prepared)) _ rfl rfl
  have sameAnswers : station.answers ([] ++ visit :: rest) =
      ([] ++ visit :: rest).map fun visit =>
        ((station.knowing (station.foundOn prepared)).visit visit).answer := by
    rw [List.nil_append, answers_cons, List.map_cons, here, known]
    exact congrArg _ (answers_of_known rfl others)
  have sameAfter : station.after ([] ++ visit :: rest) =
      station.knowing (station.foundOn prepared) := by
    rw [List.nil_append, after_cons, here]
    exact after_of_known rfl others
  have reports : Reports station.desk (station.foundOn prepared) visit.operation
      (answer (station.foundOn prepared)) :=
    needs.reports first (station.devices.query prepared).1
  have based : ∀ other ∈ [] ++ visit :: rest,
      Based station.desk (station.foundOn prepared) other.operation
        ((station.knowing (station.foundOn prepared)).visit other).answer := by
    intro other member
    have kept : (station.knowing (station.foundOn prepared)).devices.outcome =
        some (Device.Cache.found station.devices.fallback (station.devices.query prepared).1) := rfl
    have told := based_of_known kept (keeps other member)
    exact told
  exact .once (List.forall_mem_nil _) (needs.asks fresh) reports (Device.Cache.found_tells _ _)
    (fun other member => (visit_of_known rfl (keeps other member)).1) sameAnswers based sameAfter

end AsksAtMostOnce

theorem asksAtMostOnce (fresh : station.devices.outcome = none) {visits : List Visit}
    (keeps : ∀ visit ∈ visits, visit.operation ≠ .invalidate) :
    station.AsksAtMostOnce visits := by
  induction visits with
  | nil => exact .never (List.forall_mem_nil _) rfl rfl
  | cons visit rest inductionHypothesis =>
      rcases List.forall_mem_cons.mp keeps with ⟨first, others⟩
      rcases spares_or_needs first station.desk with ⟨answer, host, spares⟩ |
        ⟨prepared, answer, needs⟩
      · exact .cons_of_spares spares first (inductionHypothesis others)
      · exact .cons_of_needs needs fresh keeps

/-! ## Between invalidations -/

/-- Visits that come first or right after an invalidation, up to the next one. -/
structure IsStretch (earlier stretch : List Visit) : Prop where
  starts : earlier = [] ∨ ∃ before host,
    earlier = before ++ [{ operation := .invalidate, host }]
  keeps : ∀ visit ∈ stretch, visit.operation ≠ .invalidate

theorem outcome_after_earlier (fresh : station.devices.outcome = none)
    {earlier stretch : List Visit} (isStretch : IsStretch earlier stretch) :
    (station.after earlier).devices.outcome = none := by
  rcases isStretch.starts with rfl | ⟨before, host, rfl⟩
  · exact fresh
  · rw [after_append]
    rfl

/--
A station that begins without a discovery asks its source at most once between two
invalidations, and no visit moves its timebase.
-/
theorem asksAtMostOnce_between (fresh : station.devices.outcome = none) (visits : List Visit) :
    (station.after visits).timebase = station.timebase ∧
      ∀ earlier stretch later, visits = earlier ++ stretch ++ later → IsStretch earlier stretch →
        (station.after earlier).AsksAtMostOnce stretch := by
  constructor
  · have same := congrArg Station.timebase (forgetting_after station visits)
    exact same
  · intro earlier stretch later _ isStretch
    exact asksAtMostOnce (outcome_after_earlier fresh isStretch) isStretch.keeps

def showcaseStation : Station :=
  ofSettings { picturesDir := Path.ofText "/pictures", uploadsDir := Path.ofText "/uploads" } 0

/-- A host whose engine lists one card. -/
def showcaseHost : Host :=
  { Host.idle with programs := [.exited 0 "2:0 [Mini (1)]"] }

/-- A failed query, a card that comes too late, and an invalidation after which it is found. -/
def showcaseVisits : List Visit :=
  [ { operation := .resolve .null, host := Host.idle },
    { operation := .sinks, host := showcaseHost },
    { operation := .invalidate, host := showcaseHost },
    { operation := .sinks, host := showcaseHost },
    { operation := .resolve .null, host := Host.idle } ]

example : showcaseStation.answers showcaseVisits =
    [ .ok (.sink "UltraStudio Mini Monitor (1)"), .ok (.sinks ["UltraStudio Mini Monitor (1)"]),
      .ok .done,
      .ok (.sinks ["Mini (1)"]), .ok (.sink "Mini (1)") ] := by
  rfl

theorem asksAtMostOnce_between_showcase :
    showcaseStation.devices.outcome = none ∧
      IsStretch (showcaseVisits.take 3) (showcaseVisits.drop 3) ∧
      (showcaseStation.after (showcaseVisits.take 3)).AsksAtMostOnce (showcaseVisits.drop 3) := by
  have isStretch : IsStretch (showcaseVisits.take 3) (showcaseVisits.drop 3) := by
    refine { starts := .inr ⟨showcaseVisits.take 2, showcaseHost, rfl⟩, keeps := ?_ }
    simp [showcaseVisits]
  exact ⟨rfl, isStretch,
    (asksAtMostOnce_between rfl showcaseVisits).2 _ _ [] rfl isStretch⟩

end Station

end TestSignal
