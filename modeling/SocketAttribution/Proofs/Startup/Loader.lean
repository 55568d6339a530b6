import Mathlib.Data.List.Basic
import SocketAttribution.Proofs.Dialogue.Exchange
import SocketAttribution.Startup.Loader

/-!
# What is said while the loader is waited for

A wait consists of looks at the marker. All but the last leave it going; the last one sees the
marker, or finds that the time is over, or is one more than there may be.

## Main definitions

* `LoaderWait`: the looks of a wait and how it ends.

## Main statements

* `awaitMarker_yields_iff`: the looks of every run form a wait, and every wait is a run.
* `calls_awaitMarker`: a wait asks for nothing but the marker.
-/

namespace SocketAttribution

variable {Prog Dir Handle : Type}

/-- A call of startup and its answer. -/
abbrev StartupExchange (Prog Dir Handle : Type) : Type :=
  Exchange (StartupCall Prog Dir Handle) StartupCall.Answer

namespace Sighting

/-- A look that leaves a wait going: there is no marker, and there is time left. -/
def GoesOn (timeout : Option Duration) (look : Sighting) : Prop :=
  look.seen = false ∧ ¬ TimeIsUp timeout look.elapsed

/-- A look at a marker as an exchange. -/
def exchange (marker : Path) (look : Sighting) : StartupExchange Prog Dir Handle :=
  ⟨.poll marker, look⟩

end Sighting

/-- The looks of a wait, and how it ends: the marker was seen before the time was found to be over,
or it was not. -/
inductive LoaderWait (marker : Path) (timeout : Option Duration) (patience : Nat) :
    List Sighting → Except InitError Unit → Prop where
  | seen (looks : List Sighting) (last : Sighting) (waiting : ∀ look ∈ looks, look.GoesOn timeout)
    (there : last.seen = true) (few : looks.length < patience) :
    LoaderWait marker timeout patience (looks ++ [last]) (.ok ())
  | late (looks : List Sighting) (last : Sighting) (waiting : ∀ look ∈ looks, look.GoesOn timeout)
    (unseen : last.seen = false) (past : TimeIsUp timeout last.elapsed)
    (few : looks.length < patience) :
    LoaderWait marker timeout patience (looks ++ [last])
      (.error (loaderMissing marker last.elapsed))
  | abandoned (looks : List Sighting) (waiting : ∀ look ∈ looks, look.GoesOn timeout)
    (all : looks.length = patience) :
    LoaderWait marker timeout patience looks (.error (.abandoned marker))

namespace LoaderWait

variable {marker : Path} {timeout : Option Duration} {patience : Nat} {look : Sighting}
  {looks : List Sighting} {outcome : Except InitError Unit}

/-- A wait behind a look that leaves it going. -/
theorem cons (goes : look.GoesOn timeout)
    (wait : LoaderWait marker timeout patience looks outcome) :
    LoaderWait marker timeout (patience + 1) (look :: looks) outcome := by
  have more {looks : List Sighting} (waiting : ∀ look ∈ looks, look.GoesOn timeout) :
      ∀ look' ∈ look :: looks, look'.GoesOn timeout := List.forall_mem_cons.2 ⟨goes, waiting⟩
  cases wait with
  | seen looks last waiting there few =>
      exact .seen (look :: looks) last (more waiting) there (Nat.succ_lt_succ few)
  | late looks last waiting unseen past few =>
      exact .late (look :: looks) last (more waiting) unseen past (Nat.succ_lt_succ few)
  | abandoned looks waiting all =>
      exact .abandoned (look :: looks) (more waiting) (congrArg (· + 1) all)

/-- **What the next look decides.** -/
theorem succ_cases (wait : LoaderWait marker timeout (patience + 1) looks outcome) :
    ∃ look rest, looks = look :: rest ∧
      ((look.seen = true ∧ rest = [] ∧ outcome = .ok ()) ∨
        (look.seen = false ∧ TimeIsUp timeout look.elapsed ∧ rest = [] ∧
          outcome = .error (loaderMissing marker look.elapsed)) ∨
        (look.GoesOn timeout ∧ LoaderWait marker timeout patience rest outcome)) := by
  cases wait with
  | seen looks last waiting there few =>
      cases looks with
      | nil => exact ⟨last, [], rfl, .inl ⟨there, rfl, rfl⟩⟩
      | cons look looks =>
          obtain ⟨goes, waiting⟩ := List.forall_mem_cons.1 waiting
          exact ⟨look, looks ++ [last], rfl,
            .inr (.inr ⟨goes, .seen looks last waiting there (Nat.lt_of_succ_lt_succ few)⟩)⟩
  | late looks last waiting unseen past few =>
      cases looks with
      | nil => exact ⟨last, [], rfl, .inr (.inl ⟨unseen, past, rfl, rfl⟩)⟩
      | cons look looks =>
          obtain ⟨goes, waiting⟩ := List.forall_mem_cons.1 waiting
          exact ⟨look, looks ++ [last], rfl,
            .inr (.inr ⟨goes, .late looks last waiting unseen past (Nat.lt_of_succ_lt_succ few)⟩)⟩
  | abandoned looks waiting all =>
      obtain ⟨look, looks, rfl⟩ := List.exists_cons_of_length_eq_add_one all
      obtain ⟨goes, waiting⟩ := List.forall_mem_cons.1 waiting
      exact ⟨look, looks, rfl,
        .inr (.inr ⟨goes, .abandoned looks waiting (Nat.succ.inj all)⟩)⟩

end LoaderWait

variable {marker : Path} {timeout : Option Duration} {patience : Nat} {noticed : Duration}
  {talk : List (StartupExchange Prog Dir Handle)} {outcome : Except InitError Unit}

/-- **The looks of every run form a wait, and every wait is a run.** -/
theorem awaitMarker_yields_iff :
    (awaitMarker marker timeout patience noticed).Yields talk outcome ↔
      ∃ looks, talk = looks.map (Sighting.exchange marker) ∧
        LoaderWait marker timeout patience looks outcome := by
  induction patience generalizing talk noticed with
  | zero =>
      constructor
      · rintro ⟨rfl, rfl⟩
        exact ⟨[], rfl, .abandoned [] (by simp) rfl⟩
      · rintro ⟨looks, rfl, wait⟩
        cases wait with
        | seen looks last waiting there few => cases few
        | late looks last waiting unseen past few => cases few
        | abandoned looks waiting all =>
            cases List.length_eq_zero_iff.1 all
            exact ⟨rfl, rfl⟩
  | succ patience ih =>
      constructor
      · rintro ⟨look, later, rfl, ends⟩
        by_cases there : look.seen = true
        · simp only [if_pos there] at ends
          obtain ⟨rfl, rfl⟩ := ends
          exact ⟨[look], rfl, .seen [] look (by simp) there (Nat.succ_pos _)⟩
        have unseen : look.seen = false := Bool.eq_false_iff.2 there
        by_cases past : TimeIsUp timeout look.elapsed
        · simp only [if_neg there, if_pos past] at ends
          obtain ⟨rfl, rfl⟩ := ends
          exact ⟨[look], rfl, .late [] look (by simp) unseen past (Nat.succ_pos _)⟩
        -- Whether the wait is spoken of makes no difference to what is said.
        have onward :
            ∃ noticed, (awaitMarker marker timeout patience noticed).Yields later outcome := by
          simp only [if_neg there, if_neg past] at ends
          split at ends
          · exact ⟨_, ends⟩
          · exact ⟨_, ends⟩
        obtain ⟨noticed, behind⟩ := onward
        obtain ⟨looks, rfl, wait⟩ := ih.1 behind
        exact ⟨look :: looks, rfl, wait.cons ⟨unseen, past⟩⟩
      · rintro ⟨looks, rfl, wait⟩
        obtain ⟨look, rest, rfl, decided⟩ := wait.succ_cases
        refine ⟨look, rest.map (Sighting.exchange marker), rfl, ?_⟩
        obtain ⟨there, rfl, rfl⟩ | ⟨unseen, past, rfl, rfl⟩ | ⟨⟨unseen, time⟩, behind⟩ := decided
        · simp only [if_pos there]
          exact ⟨rfl, rfl⟩
        · simp only [if_neg (Bool.eq_false_iff.1 unseen), if_pos past]
          exact ⟨rfl, rfl⟩
        · simp only [if_neg (Bool.eq_false_iff.1 unseen), if_neg time]
          split
          · exact ih.2 ⟨rest, rfl, behind⟩
          · exact ih.2 ⟨rest, rfl, behind⟩

/-- A wait asks for nothing but the marker. -/
theorem calls_awaitMarker {σ : Type}
    (answer : (c : StartupCall Prog Dir Handle) → σ → c.Answer × σ) (state : σ) :
    ∀ call ∈ ((awaitMarker marker timeout patience noticed).run answer state).calls,
      call = .poll marker := by
  intro call mem
  obtain ⟨looks, same, -⟩ := awaitMarker_yields_iff.1
    (Dialogue.yields_exchanges answer (awaitMarker marker timeout patience noticed) state)
  rw [← Dialogue.map_fst_exchanges, same, List.map_map] at mem
  obtain ⟨look, -, rfl⟩ := List.mem_map.1 mem
  rfl

end SocketAttribution
