import SocketAttribution.Proofs.Dialogue.Exchange

/-!
# What a program leaves in the log

The exchanges of a run settle not only how it ends but also which log lines it leaves. A statement
about the log is therefore proved of the exchanges, part by part: what two parts leave one behind
the other is what the first leaves and then what the second does.

## Main definitions

* `Dialogue.Leaves`: the log lines and the value of a program that is answered in a certain way.

## Main statements

* `Dialogue.leaves_run`: a run leaves what its exchanges say.
* `Dialogue.leaves_bind_iff`, `Attempt.bind_of_leaves`: the log of one program after another.
* `Attempt.noteError_of_leaves`: a part that notes its failure.
-/

namespace SocketAttribution

namespace Dialogue

variable {Call : Type} {Answer : Call → Type} {α β σ : Type}

/-- Answered in this way, the program leaves the log lines and ends with the value. -/
def Leaves : Dialogue Call Answer α → List (Exchange Call Answer) → List LogLine → α → Prop
  | .done result, talk, lines, value => talk = [] ∧ lines = [] ∧ value = result
  | .log line rest, talk, lines, value =>
    ∃ later, lines = line :: later ∧ rest.Leaves talk later value
  | .ask c resume, talk, lines, value =>
    ∃ answer later, talk = ⟨c, answer⟩ :: later ∧ (resume answer).Leaves later lines value

/-- **A run leaves what its exchanges say.** -/
theorem leaves_run (answer : (c : Call) → σ → Answer c × σ) (d : Dialogue Call Answer α)
    (state : σ) :
    d.Leaves (d.exchanges answer state) (d.run answer state).log (d.run answer state).value := by
  induction d generalizing state with
  | done result => exact ⟨rfl, rfl, rfl⟩
  | log line rest ih => exact ⟨_, rfl, ih state⟩
  | ask c resume ih => exact ⟨_, _, rfl, ih _ _⟩

/-- **The log of one program after another.** -/
theorem leaves_bind_iff {d : Dialogue Call Answer α} {next : α → Dialogue Call Answer β}
    {talk : List (Exchange Call Answer)} {lines : List LogLine} {value : β} :
    (d.bind next).Leaves talk lines value ↔ ∃ front middle back first second,
      talk = front ++ back ∧ lines = first ++ second ∧ d.Leaves front first middle ∧
        (next middle).Leaves back second value := by
  induction d generalizing talk lines with
  | done result =>
      constructor
      · intro leaves
        exact ⟨[], result, talk, [], lines, rfl, rfl, ⟨rfl, rfl, rfl⟩, leaves⟩
      · rintro ⟨front, middle, back, first, second, rfl, rfl, ⟨rfl, rfl, rfl⟩, leaves⟩
        exact leaves
  | log line rest ih =>
      constructor
      · rintro ⟨later, rfl, leaves⟩
        obtain ⟨front, middle, back, first, second, rfl, rfl, before, behind⟩ := ih.1 leaves
        exact ⟨front, middle, back, line :: first, second, rfl, rfl, ⟨first, rfl, before⟩, behind⟩
      · rintro ⟨front, middle, back, _, second, rfl, rfl, ⟨first, rfl, before⟩, behind⟩
        refine ⟨first ++ second, rfl, ?_⟩
        exact ih.2 ⟨front, middle, back, first, second, rfl, rfl, before, behind⟩
  | ask c resume ih =>
      constructor
      · rintro ⟨answer, later, rfl, leaves⟩
        obtain ⟨front, middle, back, first, second, rfl, rfl, before, behind⟩ :=
          (ih answer).1 leaves
        exact ⟨⟨c, answer⟩ :: front, middle, back, first, second, rfl, rfl,
          ⟨answer, front, rfl, before⟩, behind⟩
      · rintro ⟨_, middle, back, first, second, rfl, rfl, ⟨answer, front, rfl, before⟩, behind⟩
        refine ⟨answer, front ++ back, rfl, ?_⟩
        exact (ih answer).2 ⟨front, middle, back, first, second, rfl, rfl, before, behind⟩

end Dialogue

namespace Attempt

variable {Call : Type} {Answer : Call → Type} {α β ε ε' : Type}
  {talk : List (Exchange Call Answer)} {lines : List LogLine}

/-- **Two attempts**: the first fails, and nothing is left behind it, or it succeeds, and what the
second leaves stands behind what it left. -/
theorem bind_of_leaves {first : Attempt Call Answer ε α} {next : α → Attempt Call Answer ε β}
    {outcome : Except ε β} (leaves : (first >>= next).run.Leaves talk lines outcome) :
    (∃ e, first.run.Leaves talk lines (.error e) ∧ outcome = .error e) ∨
      ∃ value front back left right, talk = front ++ back ∧ lines = left ++ right ∧
        first.run.Leaves front left (.ok value) ∧ (next value).run.Leaves back right outcome := by
  rw [run_bind, Dialogue.leaves_bind_iff] at leaves
  obtain ⟨front, middle, back, left, right, rfl, rfl, before, behind⟩ := leaves
  cases middle with
  | ok value => exact .inr ⟨value, front, back, left, right, rfl, rfl, before, behind⟩
  | error e =>
      obtain ⟨rfl, rfl, rfl⟩ := behind
      refine .inl ⟨e, ?_, rfl⟩
      rw [List.append_nil, List.append_nil]
      exact before

/-- A demand is one exchange and leaves no line. -/
theorem demand_of_leaves {c : Call} {read : Answer c → Except ε α} {outcome : Except ε α}
    (leaves : (demand c read).run.Leaves talk lines outcome) :
    ∃ answer, talk = [⟨c, answer⟩] ∧ lines = [] ∧ outcome = read answer := by
  obtain ⟨answer, later, rfl, rfl, rfl, rfl⟩ := leaves
  exact ⟨answer, rfl, rfl, rfl⟩

theorem note_of_leaves {origin : Origin} {level : Level} {text : String} {outcome : Except ε Unit}
    (leaves : (note origin level text : Attempt Call Answer ε Unit).run.Leaves talk lines outcome) :
    talk = [] ∧ lines = [⟨origin, level, text⟩] ∧ outcome = .ok () := by
  obtain ⟨later, rfl, rfl, rfl, rfl⟩ := leaves
  exact ⟨rfl, rfl, rfl⟩

/-- **A part that notes its failure** leaves one line behind its own if it fails. -/
theorem noteError_of_leaves {origin : Origin} {level : Level} {text : ε → String}
    {attempt : Attempt Call Answer ε α} {outcome : Except ε α}
    (leaves : (noteError origin level text attempt).run.Leaves talk lines outcome) :
    (∃ value, outcome = .ok value ∧ attempt.run.Leaves talk lines (.ok value)) ∨
      ∃ e own, outcome = .error e ∧ lines = own ++ [⟨origin, level, text e⟩] ∧
        attempt.run.Leaves talk own (.error e) := by
  obtain ⟨front, middle, back, own, right, rfl, rfl, before, behind⟩ :=
    Dialogue.leaves_bind_iff.1 leaves
  cases middle with
  | ok value =>
      obtain ⟨rfl, rfl, rfl⟩ := behind
      refine .inl ⟨value, rfl, ?_⟩
      rw [List.append_nil, List.append_nil]
      exact before
  | error e =>
      obtain ⟨later, rfl, rfl, rfl, rfl⟩ := behind
      refine .inr ⟨e, own, rfl, rfl, ?_⟩
      rw [List.append_nil]
      exact before

/-- A program that cannot fail, among attempts. -/
theorem lift_of_leaves {d : Dialogue Call Answer α} {outcome : Except ε α}
    (leaves : (ExceptT.lift d : Attempt Call Answer ε α).run.Leaves talk lines outcome) :
    ∃ value, d.Leaves talk lines value ∧ outcome = .ok value := by
  obtain ⟨front, value, back, left, right, rfl, rfl, before, rfl, rfl, rfl⟩ :=
    Dialogue.leaves_bind_iff.1 leaves
  rw [List.append_nil, List.append_nil]
  exact ⟨value, before, rfl⟩

theorem mapError_of_leaves {f : ε → ε'} {attempt : Attempt Call Answer ε α}
    {outcome : Except ε' α} (leaves : (mapError f attempt).run.Leaves talk lines outcome) :
    ∃ result, attempt.run.Leaves talk lines result ∧ outcome = result.mapError f := by
  obtain ⟨front, result, back, left, right, rfl, rfl, before, rfl, rfl, rfl⟩ :=
    Dialogue.leaves_bind_iff.1 leaves
  rw [List.append_nil, List.append_nil]
  exact ⟨result, before, rfl⟩

end Attempt

end SocketAttribution
