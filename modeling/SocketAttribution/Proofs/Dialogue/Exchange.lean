import SocketAttribution.Dialogue

/-!
# What is said in a dialogue

A run is described by its exchanges: every call of the program with what it was answered. Whoever
answers, and out of whatever state, the exchanges of a run are some that the program allows, and
they settle how it ends. A statement about a program and all that may answer it is therefore proved
of the exchanges, and the state that the answers come from does not occur in the proof.

## Main definitions

* `Exchange`: a call and its answer.
* `Dialogue.exchanges`: the exchanges of a run.
* `Dialogue.Answered`: what is said between two states of whoever answers.
* `Dialogue.Yields`: the value with which a program ends that is answered in a certain way.

## Main statements

* `Dialogue.yields_exchanges`: a run yields its value by its exchanges.
* `Dialogue.Yields.unique`: the exchanges settle the value.
* `Dialogue.yields_bind_iff`, `Attempt.bind_of_yields`: the exchanges of one program after another.
-/

namespace SocketAttribution

/-- A call and what it was answered. -/
abbrev Exchange (Call : Type) (Answer : Call → Type) : Type := (call : Call) × Answer call

/-- A place in a list of two parts is in the first or in the second. -/
theorem eq_append_cons_cases {α : Type} {first second front back : List α} {x : α}
    (h : first ++ second = front ++ x :: back) :
    (∃ later, first = front ++ x :: later ∧ back = later ++ second) ∨
      ∃ earlier, front = first ++ earlier ∧ second = earlier ++ x :: back := by
  rcases List.append_eq_append_iff.1 h with ⟨earlier, left, right⟩ | ⟨middle, left, right⟩
  · exact .inr ⟨earlier, left, right⟩
  · cases middle with
    | nil => exact .inr ⟨[], by simpa using left.symm, right.symm⟩
    | cons y later =>
        obtain ⟨rfl, rfl⟩ := List.cons.inj right
        exact .inl ⟨later, left, rfl⟩

/-- The first of a list that lacks a property is one. -/
theorem first_unique {α : Type} {P : α → Prop} {before before' after after' : List α} {x x' : α}
    (same : before ++ x :: after = before' ++ x' :: after') (all : ∀ y ∈ before, P y)
    (lacks : ¬ P x) (all' : ∀ y ∈ before', P y) (lacks' : ¬ P x') : before = before' ∧ x = x' := by
  rcases eq_append_cons_cases same with ⟨later, rfl, -⟩ | ⟨earlier, rfl, rest⟩
  · exact absurd (all x' (by simp)) lacks'
  · cases earlier with
    | nil => exact ⟨(List.append_nil _).symm, (List.cons.inj rest).1⟩
    | cons y earlier =>
        obtain ⟨rfl, -⟩ := List.cons.inj rest
        exact absurd (all' x (by simp)) lacks

namespace Dialogue

variable {Call : Type} {Answer : Call → Type} {α β σ : Type}

/-- The exchanges of a run. -/
def exchanges (answer : (c : Call) → σ → Answer c × σ) : Dialogue Call Answer α → σ →
    List (Exchange Call Answer)
  | .done _, _ => []
  | .log _ rest, state => rest.exchanges answer state
  | .ask c resume, state =>
    ⟨c, (answer c state).1⟩ :: (resume (answer c state).1).exchanges answer (answer c state).2

/-- The exchanges are those of the calls of the run. -/
theorem map_fst_exchanges (answer : (c : Call) → σ → Answer c × σ) (d : Dialogue Call Answer α)
    (state : σ) : (d.exchanges answer state).map Sigma.fst = (d.run answer state).calls := by
  induction d generalizing state with
  | done => rfl
  | log line rest ih => exact ih state
  | ask c resume ih => exact congrArg (c :: ·) (ih _ _)

/-- Every answer is one that was really given: it came out of the state to which the calls before it
had led, and the last of them led to the final state. -/
def Answered (answer : (c : Call) → σ → Answer c × σ) :
    σ → List (Exchange Call Answer) → σ → Prop
  | state, [], final => final = state
  | state, ⟨c, reply⟩ :: talk, final =>
    reply = (answer c state).1 ∧ Answered answer (answer c state).2 talk final

/-- The exchanges of a run lead from the state where it starts to the one where it ends. -/
theorem answered_exchanges (answer : (c : Call) → σ → Answer c × σ) (d : Dialogue Call Answer α)
    (state : σ) :
    Answered answer state (d.exchanges answer state) (d.run answer state).state := by
  induction d generalizing state with
  | done => rfl
  | log line rest ih => exact ih state
  | ask c resume ih => exact ⟨rfl, ih _ _⟩

/-- Every answer was given in some state. -/
theorem exists_state_of_answered {answer : (c : Call) → σ → Answer c × σ} {state final : σ}
    {talk : List (Exchange Call Answer)} (answered : Answered answer state talk final) :
    ∀ exchange ∈ talk, ∃ s, exchange.2 = (answer exchange.1 s).1 := by
  induction talk generalizing state with
  | nil => exact fun exchange mem => nomatch mem
  | cons exchange talk ih =>
      obtain ⟨given, later⟩ := answered
      intro other mem
      rcases List.mem_cons.1 mem with rfl | mem
      · exact ⟨state, given⟩
      · exact ih later other mem

/-- Answered in this way, the program ends with the value. -/
def Yields : Dialogue Call Answer α → List (Exchange Call Answer) → α → Prop
  | .done result, talk, value => talk = [] ∧ value = result
  | .log _ rest, talk, value => rest.Yields talk value
  | .ask c resume, talk, value =>
    ∃ answer later, talk = ⟨c, answer⟩ :: later ∧ (resume answer).Yields later value

/-- **A run ends with the value that its exchanges yield.** -/
theorem yields_exchanges (answer : (c : Call) → σ → Answer c × σ) (d : Dialogue Call Answer α)
    (state : σ) : d.Yields (d.exchanges answer state) (d.run answer state).value := by
  induction d generalizing state with
  | done result => exact ⟨rfl, rfl⟩
  | log line rest ih => exact ih state
  | ask c resume ih => exact ⟨_, _, rfl, ih _ _⟩

variable {d : Dialogue Call Answer α} {next : α → Dialogue Call Answer β}
  {talk : List (Exchange Call Answer)}

/-- **The exchanges of one program after another.** -/
theorem yields_bind_iff {value : β} :
    (d.bind next).Yields talk value ↔ ∃ front middle back,
      talk = front ++ back ∧ d.Yields front middle ∧ (next middle).Yields back value := by
  induction d generalizing talk with
  | done result =>
      constructor
      · intro ends
        exact ⟨[], result, talk, rfl, ⟨rfl, rfl⟩, ends⟩
      · rintro ⟨front, middle, back, rfl, ⟨rfl, rfl⟩, ends⟩
        exact ends
  | log line rest ih => exact ih
  | ask c resume ih =>
      constructor
      · rintro ⟨answer, later, rfl, ends⟩
        obtain ⟨front, middle, back, rfl, first, second⟩ := (ih answer).1 ends
        exact ⟨⟨c, answer⟩ :: front, middle, back, rfl, ⟨answer, front, rfl, first⟩, second⟩
      · rintro ⟨_, middle, back, rfl, ⟨answer, front, rfl, first⟩, second⟩
        exact ⟨answer, front ++ back, rfl, (ih answer).2 ⟨front, middle, back, rfl, first, second⟩⟩

/-- **A program that is answered in one way ends in one way.** -/
theorem Yields.unique {value value' : α} (first : d.Yields talk value)
    (second : d.Yields talk value') : value = value' := by
  induction d generalizing talk with
  | done result => exact first.2.trans second.2.symm
  | log line rest ih => exact ih first second
  | ask c resume ih =>
      obtain ⟨answer, later, rfl, ends⟩ := first
      obtain ⟨answer', later', same, ends'⟩ := second
      cases same
      exact ih answer ends ends'

/-- The exchanges of a program inside a wider vocabulary are its own, seen from there. -/
theorem yields_through_iff {Call' : Type} {Answer' : Call' → Type} {call : Call → Call'}
    {reply : (c : Call) → Answer' (call c) → Answer c} {talk : List (Exchange Call' Answer')}
    {value : α} :
    (d.through call reply).Yields talk value ↔ ∃ said : List ((c : Call) × Answer' (call c)),
      talk = said.map (fun e => ⟨call e.1, e.2⟩) ∧
        d.Yields (said.map fun e => ⟨e.1, reply e.1 e.2⟩) value := by
  induction d generalizing talk with
  | done result =>
      constructor
      · rintro ⟨rfl, rfl⟩
        exact ⟨[], rfl, rfl, rfl⟩
      · rintro ⟨said, rfl, nothing, rfl⟩
        cases List.map_eq_nil_iff.1 nothing
        exact ⟨rfl, rfl⟩
  | log line rest ih => exact ih
  | ask c resume ih =>
      constructor
      · rintro ⟨answer, later, rfl, ends⟩
        obtain ⟨said, rfl, within⟩ := (ih _).1 ends
        exact ⟨⟨c, answer⟩ :: said, rfl, _, _, rfl, within⟩
      · rintro ⟨said, rfl, answer, later, whole, ends⟩
        obtain ⟨⟨c', answer'⟩, said, rfl, same, rfl⟩ := List.map_eq_cons_iff.1 whole
        cases same
        exact ⟨answer', _, rfl, (ih _).2 ⟨said, rfl, ends⟩⟩

end Dialogue

namespace Attempt

variable {Call : Type} {Answer : Call → Type} {α β ε ε' : Type}
  {talk : List (Exchange Call Answer)}

/-- **Two attempts**: the first fails, and nothing is said behind it, or it succeeds, and what the
second says stands behind what it said. -/
theorem bind_of_yields {first : Attempt Call Answer ε α} {next : α → Attempt Call Answer ε β}
    {outcome : Except ε β} (yields : (first >>= next).run.Yields talk outcome) :
    (∃ e, first.run.Yields talk (.error e) ∧ outcome = .error e) ∨
      ∃ value front back, talk = front ++ back ∧ first.run.Yields front (.ok value) ∧
        (next value).run.Yields back outcome := by
  rw [run_bind, Dialogue.yields_bind_iff] at yields
  obtain ⟨front, middle, back, rfl, before, behind⟩ := yields
  cases middle with
  | ok value => exact .inr ⟨value, front, back, rfl, before, behind⟩
  | error e =>
      obtain ⟨rfl, rfl⟩ := behind
      left
      exact ⟨e, by rw [List.append_nil]; exact before, rfl⟩

/-- Two attempts that succeed have both succeeded. -/
theorem bind_ok_of_yields {first : Attempt Call Answer ε α} {next : α → Attempt Call Answer ε β}
    {result : β} (yields : (first >>= next).run.Yields talk (.ok result)) :
    ∃ value front back, talk = front ++ back ∧ first.run.Yields front (.ok value) ∧
      (next value).run.Yields back (.ok result) := by
  obtain ⟨e, -, same⟩ | both := bind_of_yields yields
  · cases same
  · exact both

/-- What the first of two attempts ends with is the value that the second goes on with. -/
theorem yields_bind_of_ok {first : Attempt Call Answer ε α} {next : α → Attempt Call Answer ε β}
    {back : List (Exchange Call Answer)} {value : α} {outcome : Except ε β}
    (before : first.run.Yields talk (.ok value)) (behind : (next value).run.Yields back outcome) :
    (first >>= next).run.Yields (talk ++ back) outcome := by
  rw [run_bind, Dialogue.yields_bind_iff]
  exact ⟨talk, .ok value, back, rfl, before, behind⟩

/-- Where the first of two attempts fails, nothing is said behind it. -/
theorem yields_bind_of_error {first : Attempt Call Answer ε α} {next : α → Attempt Call Answer ε β}
    {e : ε} (before : first.run.Yields talk (.error e)) :
    (first >>= next).run.Yields talk (.error e) := by
  rw [run_bind, Dialogue.yields_bind_iff]
  exact ⟨talk, .error e, [], (List.append_nil _).symm, before, rfl, rfl⟩

/-- A demand is one exchange. -/
theorem demand_of_yields {c : Call} {read : Answer c → Except ε α} {outcome : Except ε α}
    (yields : (demand c read).run.Yields talk outcome) :
    ∃ answer, talk = [⟨c, answer⟩] ∧ outcome = read answer := by
  obtain ⟨answer, later, rfl, rfl, rfl⟩ := yields
  exact ⟨answer, rfl, rfl⟩

/-- A log line at the end is not part of what is said. -/
theorem note_of_yields {origin : Origin} {level : Level} {text : String} {outcome : Except ε Unit}
    (yields : (note origin level text : Attempt Call Answer ε Unit).run.Yields talk outcome) :
    talk = [] ∧ outcome = .ok () := yields

theorem ofExcept_of_yields {result outcome : Except ε α}
    (yields : (ofExcept result : Attempt Call Answer ε α).run.Yields talk outcome) :
    talk = [] ∧ outcome = result := yields

theorem mapError_of_yields {f : ε → ε'} {attempt : Attempt Call Answer ε α}
    {outcome : Except ε' α} (yields : (mapError f attempt).run.Yields talk outcome) :
    ∃ result, attempt.run.Yields talk result ∧ outcome = result.mapError f := by
  obtain ⟨front, result, back, rfl, before, rfl, rfl⟩ := Dialogue.yields_bind_iff.1 yields
  rw [List.append_nil]
  exact ⟨result, before, rfl⟩

theorem yields_mapError (f : ε → ε') {attempt : Attempt Call Answer ε α} {result : Except ε α}
    (yields : attempt.run.Yields talk result) :
    (mapError f attempt).run.Yields talk (result.mapError f) :=
  Dialogue.yields_bind_iff.2 ⟨talk, result, [], (List.append_nil _).symm, yields, rfl, rfl⟩

end Attempt

end SocketAttribution
