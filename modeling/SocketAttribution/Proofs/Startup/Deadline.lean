import Mathlib.Algebra.Order.Floor.Div
import SocketAttribution.Proofs.Startup.Loader

/-!
# How long the loader is waited for

Two things that the agent has no hand in decide how a wait ends: at which looks the marker is there,
and what the clock shows. Given a sighting for every look that might be taken, the wait ends at the
first that leaves it no choice. A clock that moves by an interval between looks bounds their number,
since a wait that goes on has time left.

The program is run with a bound on its looks, and the wait as such is what such runs come to as the
bound grows. A wait with an end to its time comes to something, and the bound that it is run with is
large enough. A wait without one comes to something if the marker is ever seen.

## Main definitions

* `Shows`, `Paced`: a sighting for every look, and a clock that moves between looks.
* `WaitLeaves`: what a wait comes to, however many looks it may take.
* `WaitEnd`: where a wait ends, and how.
* `TimedWait`, `UntimedWait`: what holds of a wait with an end to its time, and of one without.

## Main statements

* `awaitMarker_run_of_le`: **looks that are not needed make no difference**.
* `waitEnd_of_shows`: every run ends where its sightings say.
* `Paced.lt_ceilDiv`: a wait that goes on has been going for a limited number of looks.
* `awaitLoader_decides`: **every wait ends in time and decides rightly**.
-/

namespace SocketAttribution

variable {Prog Dir Handle σ : Type}

/-! ## Sightings -/

section Waits

variable (answer : (c : StartupCall Prog Dir Handle) → σ → c.Answer × σ)

/-- Whoever answers goes through these states, one look at the marker after another, and shows these
sightings. -/
def Shows (marker : Path) (states : ℕ → σ) (sightings : ℕ → Sighting) : Prop :=
  ∀ i, answer (.poll marker) (states i) = (sightings i, states (i + 1))

/-- The clock moves by at least 100 ms between two looks. -/
def Paced (sightings : ℕ → Sighting) : Prop :=
  ∀ i, (sightings i).elapsed.nanoseconds + (Duration.ofMillis 100).nanoseconds ≤
    (sightings (i + 1)).elapsed.nanoseconds

/-- The run of a wait that may take a number of looks. -/
def waitRun (state : σ) (marker : Path) (timeout : Option Duration) (patience : ℕ) :
    Transcript (StartupCall Prog Dir Handle) σ (Except InitError Unit) :=
  (awaitMarker marker timeout patience ⟨0⟩).run answer state

/-- **What a wait leaves, however many looks it may take**: the runs with looks enough all leave
this, so that no bound on their number has a part in it. -/
def WaitLeaves (state : σ) (marker : Path) (timeout : Option Duration)
    (t : Transcript (StartupCall Prog Dir Handle) σ (Except InitError Unit)) : Prop :=
  ∃ enough, ∀ patience, enough ≤ patience → waitRun answer state marker timeout patience = t

end Waits

/-- Where a wait ends that is shown these sightings: after how many looks, and with which outcome.
What was seen at the looks need not be told, as it is in a `LoaderWait`, since the sightings are
given; those behind the end are never looked at. -/
inductive WaitEnd (sightings : ℕ → Sighting) (marker : Path) (timeout : Option Duration)
    (patience : ℕ) : ℕ → Except InitError Unit → Prop where
  | seen (last : ℕ) (waiting : ∀ i < last, (sightings i).GoesOn timeout)
    (there : (sightings last).seen = true) (few : last < patience) :
    WaitEnd sightings marker timeout patience (last + 1) (.ok ())
  | late (last : ℕ) (waiting : ∀ i < last, (sightings i).GoesOn timeout)
    (unseen : (sightings last).seen = false) (past : TimeIsUp timeout (sightings last).elapsed)
    (few : last < patience) :
    WaitEnd sightings marker timeout patience (last + 1)
      (.error (loaderMissing marker (sightings last).elapsed))
  | abandoned (waiting : ∀ i < patience, (sightings i).GoesOn timeout) :
    WaitEnd sightings marker timeout patience patience (.error (.abandoned marker))

section Ends

variable {answer : (c : StartupCall Prog Dir Handle) → σ → c.Answer × σ} {states : ℕ → σ}
  {sightings : ℕ → Sighting} {marker : Path} {timeout : Option Duration} {limit : Duration}
  {patience more n : ℕ} {outcome : Except InitError Unit}

/-! ## Where a run ends -/

/-- The looks of a run are the sightings that it was shown, in their order. -/
theorem looks_eq_of_answered (shows : Shows answer marker states sightings) {looks : List Sighting}
    {i : ℕ} {final : σ}
    (answered : Dialogue.Answered answer (states i) (looks.map (Sighting.exchange marker)) final) :
    looks = (List.range' i looks.length).map sightings := by
  induction looks generalizing i with
  | nil => rfl
  | cons look looks ih =>
      obtain ⟨given, later⟩ := answered
      change look = (answer (.poll marker) (states i)).1 at given
      change Dialogue.Answered answer (answer (.poll marker) (states i)).2 _ final at later
      rw [shows i] at given later
      rw [List.length_cons, List.range'_succ, List.map_cons, ← ih later, given]

/-- The last of a row of sightings, and those before it. -/
theorem concat_eq_map_range {looks : List Sighting} {last : Sighting}
    (same : looks ++ [last] = (List.range (looks.length + 1)).map sightings) :
    looks = (List.range looks.length).map sightings ∧ last = sightings looks.length := by
  rw [List.range_succ, List.map_append] at same
  obtain ⟨front, back⟩ := List.append_inj' same rfl
  exact ⟨front, (List.cons.inj back).1⟩

/-- A wait over sightings ends where they say. -/
theorem waitEnd_of_loaderWait {looks : List Sighting}
    (wait : LoaderWait marker timeout patience looks outcome)
    (shown : looks = (List.range looks.length).map sightings) :
    WaitEnd sightings marker timeout patience looks.length outcome := by
  have waits {front : List Sighting} (shown : front = (List.range front.length).map sightings)
      (waiting : ∀ look ∈ front, look.GoesOn timeout) :
      ∀ i < front.length, (sightings i).GoesOn timeout := by
    intro i before
    refine waiting _ ?_
    rw [shown]
    exact List.mem_map_of_mem (List.mem_range.2 before)
  cases wait with
  | seen front last waiting there few =>
      rw [List.length_append] at shown ⊢
      obtain ⟨fronts, rfl⟩ := concat_eq_map_range shown
      exact .seen front.length (waits fronts waiting) there few
  | late front last waiting unseen past few =>
      rw [List.length_append] at shown ⊢
      obtain ⟨fronts, rfl⟩ := concat_eq_map_range shown
      exact .late front.length (waits fronts waiting) unseen past few
  | abandoned looks waiting all =>
      subst all
      exact .abandoned (waits shown waiting)

/-- A wait whose looks were answered ends where the sightings say. -/
theorem waitEnd_of_answered (shows : Shows answer marker states sightings) {looks : List Sighting}
    {final : σ}
    (answered : Dialogue.Answered answer (states 0) (looks.map (Sighting.exchange marker)) final)
    (wait : LoaderWait marker timeout patience looks outcome) :
    WaitEnd sightings marker timeout patience looks.length outcome := by
  have shown := looks_eq_of_answered shows answered
  rw [← List.range_eq_range'] at shown
  exact waitEnd_of_loaderWait wait shown

/-- **Every run ends where its sightings say.** -/
theorem waitEnd_of_shows (shows : Shows answer marker states sightings)
    (timeout : Option Duration) (patience : ℕ) :
    WaitEnd sightings marker timeout patience
      (waitRun answer (states 0) marker timeout patience).calls.length
      (waitRun answer (states 0) marker timeout patience).value := by
  have answered := Dialogue.answered_exchanges answer
    (awaitMarker marker timeout patience ⟨0⟩) (states 0)
  obtain ⟨looks, said, wait⟩ := awaitMarker_yields_iff.1
    (Dialogue.yields_exchanges answer (awaitMarker marker timeout patience ⟨0⟩) (states 0))
  rw [said] at answered
  have length : (waitRun answer (states 0) marker timeout patience).calls.length =
      looks.length := by
    rw [waitRun, ← Dialogue.map_fst_exchanges, said, List.length_map, List.length_map]
  rw [length]
  exact waitEnd_of_answered shows answered wait

/-! ## Looks that are not needed -/

/-- **Looks that are not needed make no difference**: a run that was not given up leaves the same if
it may take more of them. -/
theorem awaitMarker_run_of_le {noticed : Duration} {state : σ} (le : patience ≤ more)
    (kept : ((awaitMarker marker timeout patience noticed).run answer state).value ≠
      .error (.abandoned marker)) :
    (awaitMarker marker timeout more noticed).run answer state =
      (awaitMarker marker timeout patience noticed).run answer state := by
  induction patience generalizing more noticed state with
  | zero => exact absurd rfl kept
  | succ patience ih =>
      obtain ⟨more, rfl⟩ : ∃ m, more = m + 1 := ⟨more - 1, by omega⟩
      have le' : patience ≤ more := Nat.le_of_succ_le_succ le
      rw [awaitMarker, Dialogue.run_ask] at kept ⊢
      rw [awaitMarker, Dialogue.run_ask]
      refine congrArg (Transcript.afterCall _) ?_
      change Transcript.value (Dialogue.run answer _ _) ≠ _ at kept
      -- The look decides alike in both runs, and where it leaves the wait going they go on alike.
      split_ifs at kept ⊢
      · rfl
      · rfl
      · rw [Dialogue.run_log, Dialogue.run_log, ih le' kept]
      · exact ih le' kept

/-- A wait leaves what some run leaves that was not given up. -/
theorem waitLeaves_of_kept {state : σ}
    (kept : (waitRun answer state marker timeout patience).value ≠ .error (.abandoned marker)) :
    WaitLeaves answer state marker timeout (waitRun answer state marker timeout patience) :=
  ⟨patience, fun _ le => awaitMarker_run_of_le le kept⟩

/-- A run that was given up has taken all its looks. -/
theorem WaitEnd.of_abandoned
    (ends : WaitEnd sightings marker timeout patience n (.error (.abandoned marker))) :
    n = patience ∧ ∀ i < patience, (sightings i).GoesOn timeout := by
  cases ends with
  | abandoned waiting => exact ⟨rfl, waiting⟩

/-- What a wait leaves is not that it was given up: with one look more there would be one call more.
-/
theorem WaitLeaves.kept (shows : Shows answer marker states sightings)
    {t : Transcript (StartupCall Prog Dir Handle) σ (Except InitError Unit)}
    (leaves : WaitLeaves answer (states 0) marker timeout t) :
    t.value ≠ .error (.abandoned marker) := by
  obtain ⟨enough, same⟩ := leaves
  intro given_up
  have length {patience : ℕ} (le : enough ≤ patience) : t.calls.length = patience := by
    have ends := waitEnd_of_shows shows timeout patience
    rw [same patience le, given_up] at ends
    exact ends.of_abandoned.1
  have one_more := (length (Nat.le_refl _)).symm.trans (length (Nat.le_succ enough))
  omega

/-! ## What decides -/

/-- **A run that was not given up succeeds** if and only if the marker is there at some look while
at all looks before it there was time left. -/
theorem WaitEnd.ok_iff (ends : WaitEnd sightings marker timeout patience n outcome)
    (kept : outcome ≠ .error (.abandoned marker)) :
    outcome = .ok () ↔
      ∃ i, (sightings i).seen = true ∧ ∀ j < i, ¬ TimeIsUp timeout (sightings j).elapsed := by
  cases ends with
  | seen last waiting there few =>
      exact iff_of_true rfl ⟨last, there, fun j before => (waiting j before).2⟩
  | late last waiting unseen past few =>
      refine iff_of_false nofun ?_
      rintro ⟨i, there, time⟩
      rcases Nat.lt_trichotomy i last with before | rfl | behind
      · exact Bool.false_ne_true ((waiting i before).1.symm.trans there)
      · exact Bool.false_ne_true (unseen.symm.trans there)
      · exact time last behind past
  | abandoned waiting => exact absurd rfl kept

/-- A run that succeeds saw the marker at its last look. -/
theorem WaitEnd.seen_last (ends : WaitEnd sightings marker timeout patience n (.ok ())) :
    ∃ last, n = last + 1 ∧ (sightings last).seen = true := by
  cases ends with
  | seen last waiting there few => exact ⟨last, rfl, there⟩

/-- A run that neither succeeds nor is given up saw no marker, and its time was over at its last
look. -/
theorem WaitEnd.late_last (ends : WaitEnd sightings marker timeout patience n outcome)
    (kept : outcome ≠ .error (.abandoned marker)) (failed : outcome ≠ .ok ()) :
    ∃ last, n = last + 1 ∧ (∀ i ≤ last, (sightings i).seen = false) ∧
      TimeIsUp timeout (sightings last).elapsed ∧
      outcome = .error (loaderMissing marker (sightings last).elapsed) := by
  cases ends with
  | seen last waiting there few => exact absurd rfl failed
  | late last waiting unseen past few =>
      refine ⟨last, rfl, fun i le => ?_, past, rfl⟩
      rcases Nat.lt_or_eq_of_le le with before | rfl
      · exact (waiting i before).1
      · exact unseen
  | abandoned waiting => exact absurd rfl kept

/-- A marker that is there at the first look is enough. -/
theorem WaitEnd.of_first (ends : WaitEnd sightings marker timeout patience n outcome)
    (kept : outcome ≠ .error (.abandoned marker)) (there : (sightings 0).seen = true) :
    outcome = .ok () ∧ n = 1 := by
  have first {last : ℕ} (waiting : ∀ i < last, (sightings i).GoesOn timeout) : last = 0 := by
    by_contra later
    have unseen := (waiting 0 (Nat.pos_of_ne_zero later)).1
    exact Bool.false_ne_true (unseen.symm.trans there)
  cases ends with
  | seen last waiting _ few => exact ⟨rfl, congrArg (· + 1) (first waiting)⟩
  | late last waiting unseen past few =>
      rw [first waiting] at unseen
      exact absurd (unseen.symm.trans there) Bool.false_ne_true
  | abandoned waiting => exact absurd rfl kept

/-! ## The clock -/

theorem timeIsUp_some_iff {elapsed : Duration} :
    TimeIsUp (some limit) elapsed ↔ limit ≤ elapsed := by
  simp [TimeIsUp]

theorem not_timeIsUp_some_iff {elapsed : Duration} :
    ¬ TimeIsUp (some limit) elapsed ↔ elapsed.nanoseconds < limit.nanoseconds := by
  rw [timeIsUp_some_iff]
  exact Nat.not_le

/-- A wait without an end to its time always has time left. -/
theorem not_timeIsUp_none {elapsed : Duration} : ¬ TimeIsUp none elapsed := by
  simp [TimeIsUp]

/-- A clock moves that shows an interval for every look before. -/
theorem paced_ofMillis (seen : ℕ → Bool) : Paced fun i => ⟨seen i, .ofMillis (100 * i)⟩ := by
  intro i
  simp only [Duration.ofMillis]
  omega

/-- At each look a moving clock shows an interval for every look before. -/
theorem Paced.mul_le_elapsed (paced : Paced sightings) (i : ℕ) :
    (Duration.ofMillis 100).nanoseconds * i ≤ (sightings i).elapsed.nanoseconds := by
  induction i with
  | zero => exact Nat.zero_le _
  | succ i ih => exact (Nat.add_le_add_right ih _).trans (paced i)

/-- **A wait that goes on has been going for a limited number of looks.** -/
theorem Paced.lt_ceilDiv (paced : Paced sightings) {i : ℕ}
    (goes_on : (sightings i).GoesOn (some limit)) :
    i < limit.nanoseconds ⌈/⌉ (Duration.ofMillis 100).nanoseconds := by
  have time : (sightings i).elapsed.nanoseconds < limit.nanoseconds :=
    not_timeIsUp_some_iff.1 goes_on.2
  by_contra many
  rw [Nat.not_lt, ceilDiv_le_iff_le_mul (by decide)] at many
  exact Nat.not_le_of_lt time (many.trans (paced.mul_le_elapsed i))

/-- There may be more looks than a moving clock lets a wait go on for. -/
theorem ceilDiv_lt_patienceFor :
    limit.nanoseconds ⌈/⌉ (Duration.ofMillis 100).nanoseconds < patienceFor (some limit) := by
  rw [Nat.ceilDiv_eq_add_pred_div]
  simp only [patienceFor, pollInterval, Duration.ofMillis]
  omega

/-- With a moving clock no wait with an end to its time is given up. -/
theorem WaitEnd.kept (paced : Paced sightings)
    (ends : WaitEnd sightings marker (some limit) (patienceFor (some limit)) n outcome) :
    outcome ≠ .error (.abandoned marker) := by
  rintro rfl
  exact Nat.lt_irrefl _ (paced.lt_ceilDiv (ends.of_abandoned.2 _ ceilDiv_lt_patienceFor))

/-- With a moving clock a wait with an end to its time takes few looks. -/
theorem WaitEnd.length_le (paced : Paced sightings)
    (ends : WaitEnd sightings marker (some limit) (patienceFor (some limit)) n outcome) :
    n ≤ limit.nanoseconds ⌈/⌉ (Duration.ofMillis 100).nanoseconds + 1 := by
  have few {last : ℕ} (waiting : ∀ i < last, (sightings i).GoesOn (some limit)) :
      last ≤ limit.nanoseconds ⌈/⌉ (Duration.ofMillis 100).nanoseconds := by
    cases last with
    | zero => exact Nat.zero_le _
    | succ i => exact paced.lt_ceilDiv (waiting i (Nat.lt_succ_self i))
  cases ends with
  | seen last waiting there _ => exact Nat.succ_le_succ (few waiting)
  | late last waiting unseen past _ => exact Nat.succ_le_succ (few waiting)
  | abandoned waiting => exact (few waiting).trans (Nat.le_succ _)

end Ends

/-! ## Waits -/

/-- **What holds of a wait with an end to its time** that is shown these sightings. -/
structure TimedWait (sightings : ℕ → Sighting) (marker : Path) (limit : Duration)
    (t : Transcript (StartupCall Prog Dir Handle) σ (Except InitError Unit)) : Prop where
  /-- Nothing is asked for but the marker. -/
  asks : ∀ call ∈ t.calls, call = .poll marker
  /-- There is a look for each 100 ms that were begun, and one more at most. -/
  few : t.calls.length ≤ limit.nanoseconds ⌈/⌉ (Duration.ofMillis 100).nanoseconds + 1
  /-- It succeeds if and only if the marker is there at some look while at every look before it the
  time was not over. -/
  ok_iff : t.value = .ok () ↔ ∃ i, (sightings i).seen = true ∧
    ∀ j < i, (sightings j).elapsed.nanoseconds < limit.nanoseconds
  /-- A marker that is there at the first look is enough, even without any time. -/
  of_first : (sightings 0).seen = true → t.value = .ok () ∧ t.calls.length = 1
  /-- If it succeeds, it saw the marker at its last look. -/
  of_ok : t.value = .ok () → ∃ last, t.calls.length = last + 1 ∧ (sightings last).seen = true
  /-- Otherwise it never saw the marker, and fails at a look at which the time is over. -/
  of_not_ok : t.value ≠ .ok () → ∃ last, t.calls.length = last + 1 ∧
    (∀ i ≤ last, (sightings i).seen = false) ∧ limit ≤ (sightings last).elapsed ∧
    t.value = .error (.configuration (.loaderMissing (sightings last).elapsed marker))

/-- **What holds of a wait without an end to its time** that is shown these sightings, and of a run
of it. -/
structure UntimedWait (answer : (c : StartupCall Prog Dir Handle) → σ → c.Answer × σ) (state : σ)
    (sightings : ℕ → Sighting) (marker : Path)
    (run : Transcript (StartupCall Prog Dir Handle) σ (Except InitError Unit)) : Prop where
  /-- Whatever it leaves is a success, and it saw the marker at its last look. -/
  of_leaves : ∀ t, WaitLeaves answer state marker none t → t.value = .ok () ∧
    (∀ call ∈ t.calls, call = .poll marker) ∧
    ∃ last, t.calls.length = last + 1 ∧ (sightings last).seen = true
  /-- It leaves something if and only if the marker is there at some look. -/
  leaves_iff : (∃ t, WaitLeaves answer state marker none t) ↔ ∃ i, (sightings i).seen = true
  /-- The run is what it leaves, or has seen nothing at 2^64 looks. -/
  run_cases : WaitLeaves answer state marker none run ∨
    run.value = .error (.abandoned marker) ∧ run.calls.length = 2 ^ 64 ∧
      ∀ i < 2 ^ 64, (sightings i).seen = false

section Waits

variable {answer : (c : StartupCall Prog Dir Handle) → σ → c.Answer × σ} {states : ℕ → σ}
  {sightings : ℕ → Sighting} {marker : Path}

/-- A wait with an end to its time comes to what it is run to. -/
theorem timedWait_of_shows (shows : Shows answer marker states sightings)
    (paced : Paced sightings) (limit : Duration) :
    WaitLeaves answer (states 0) marker (some limit)
        (waitRun answer (states 0) marker (some limit) (patienceFor (some limit))) ∧
      TimedWait sightings marker limit
        (waitRun answer (states 0) marker (some limit) (patienceFor (some limit))) := by
  have ends := waitEnd_of_shows shows (some limit) (patienceFor (some limit))
  have kept := ends.kept paced
  refine ⟨waitLeaves_of_kept kept, ?_⟩
  constructor
  case asks => exact calls_awaitMarker answer (states 0)
  case few => exact ends.length_le paced
  case ok_iff => simpa only [not_timeIsUp_some_iff] using ends.ok_iff kept
  case of_first => exact ends.of_first kept
  case of_ok =>
    intro succeeded
    rw [succeeded] at ends
    exact ends.seen_last
  case of_not_ok =>
    intro failed
    obtain ⟨last, length, unseen, past, value⟩ := ends.late_last kept failed
    exact ⟨last, length, unseen, timeIsUp_some_iff.1 past, value⟩

/-- A wait without an end to its time comes to nothing but success. -/
theorem WaitLeaves.of_untimed (shows : Shows answer marker states sightings)
    {t : Transcript (StartupCall Prog Dir Handle) σ (Except InitError Unit)}
    (leaves : WaitLeaves answer (states 0) marker none t) :
    t.value = .ok () ∧ (∀ call ∈ t.calls, call = .poll marker) ∧
      ∃ last, t.calls.length = last + 1 ∧ (sightings last).seen = true := by
  have kept := leaves.kept shows
  obtain ⟨enough, same⟩ := leaves
  have ends := waitEnd_of_shows shows none enough
  have asks : ∀ call ∈ (waitRun answer (states 0) marker none enough).calls, call = .poll marker :=
    calls_awaitMarker answer (states 0)
  rw [same enough (Nat.le_refl _)] at asks ends
  have succeeded : t.value = .ok () := by
    by_contra failed
    obtain ⟨last, -, -, past, -⟩ := ends.late_last kept failed
    exact not_timeIsUp_none past
  rw [succeeded] at ends
  exact ⟨succeeded, asks, ends.seen_last⟩

/-- A run without an end to its time is what the wait leaves, or has seen nothing. -/
theorem waitRun_none_cases (shows : Shows answer marker states sightings) (patience : ℕ) :
    WaitLeaves answer (states 0) marker none (waitRun answer (states 0) marker none patience) ∨
      (waitRun answer (states 0) marker none patience).value = .error (.abandoned marker) ∧
        (waitRun answer (states 0) marker none patience).calls.length = patience ∧
        ∀ i < patience, (sightings i).seen = false := by
  by_cases given_up :
      (waitRun answer (states 0) marker none patience).value = .error (.abandoned marker)
  · have ends := waitEnd_of_shows shows none patience
    rw [given_up] at ends
    obtain ⟨length, waiting⟩ := ends.of_abandoned
    exact .inr ⟨given_up, length, fun i before => (waiting i before).1⟩
  · exact .inl (waitLeaves_of_kept given_up)

/-- A wait without an end to its time comes to success, or to nothing. -/
theorem untimedWait_of_shows (shows : Shows answer marker states sightings) :
    UntimedWait answer (states 0) sightings marker
      (waitRun answer (states 0) marker none (patienceFor none)) := by
  constructor
  case of_leaves => exact fun t leaves => leaves.of_untimed shows
  case leaves_iff =>
    constructor
    · rintro ⟨t, leaves⟩
      obtain ⟨-, -, last, -, there⟩ := leaves.of_untimed shows
      exact ⟨last, there⟩
    · rintro ⟨i, there⟩
      -- A run that may look once more than that does not end before it has seen the marker.
      obtain leaves | ⟨-, -, unseen⟩ := waitRun_none_cases shows (i + 1)
      · exact ⟨_, leaves⟩
      · exact absurd ((unseen i (Nat.lt_succ_self i)).symm.trans there) Bool.false_ne_true
  case run_cases => exact waitRun_none_cases shows (patienceFor none)

end Waits

/-- **Every wait ends in time and decides rightly**, whatever the marker and the clock are seen to
do, as long as the clock moves. -/
theorem awaitLoader_decides (answer : (c : StartupCall Prog Dir Handle) → σ → c.Answer × σ)
    (layout : Layout) (states : ℕ → σ) (sightings : ℕ → Sighting)
    (shows : Shows answer layout.marker states sightings) (paced : Paced sightings) :
    (∀ limit,
      WaitLeaves answer (states 0) layout.marker (some limit)
        ((awaitLoader layout (some limit)).run.run answer (states 0)) ∧
      TimedWait sightings layout.marker limit
        ((awaitLoader layout (some limit)).run.run answer (states 0))) ∧
    UntimedWait answer (states 0) sightings layout.marker
      ((awaitLoader layout none).run.run answer (states 0)) :=
  ⟨timedWait_of_shows shows paced, untimedWait_of_shows shows⟩

/-- The marker appears at the very look at which the time is over, the last that there may be. -/
theorem awaitLoader_decides_justInTime :
    let layout : Layout := ⟨⟨[]⟩⟩
    let sightings : ℕ → Sighting := fun i => ⟨decide (i = 3), .ofMillis (100 * i)⟩
    let answer : (c : StartupCall Unit Unit Unit) → ℕ → c.Answer × ℕ := fun
      | .poll _, i => (sightings i, i + 1)
      | .openDirectory _, i => (.error (.os ErrorCode.notPermitted), i)
      | .host (.retrieve _), i => (.ok (), i)
      | .host (.attach _ _ _), i => (.ok (), i)
      | .host (.query _ _), i => (.ok 0, i)
      | .pin (.obtain _), i => (.ok (), i)
      | .pin (.describe _), i => (.error (.os ErrorCode.notPermitted), i)
    let t := (awaitLoader layout (some (.ofMillis 250))).run.run answer 0
    Shows answer layout.marker id sightings ∧ Paced sightings ∧
      t.value = .ok () ∧ t.calls.length ≤ 4 ∧ t.calls.length = 4 ∧
      ∃ u, WaitLeaves answer 0 layout.marker none u := by
  intro layout sightings answer t
  have shows : Shows answer layout.marker id sightings := fun _ => rfl
  have paced : Paced sightings := paced_ofMillis _
  obtain ⟨timed, untimed⟩ := awaitLoader_decides answer layout id sightings shows paced
  obtain ⟨-, wait⟩ := timed (.ofMillis 250)
  have there : (sightings 3).seen = true := rfl
  have succeeds : t.value = .ok () := wait.ok_iff.2 ⟨3, there, by decide⟩
  obtain ⟨last, length, seen⟩ := wait.of_ok succeeds
  obtain rfl : last = 3 := of_decide_eq_true seen
  exact ⟨shows, paced, succeeds, wait.few, length, untimed.leaves_iff.2 ⟨3, there⟩⟩

end SocketAttribution
