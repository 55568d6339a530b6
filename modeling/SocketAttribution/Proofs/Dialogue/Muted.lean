import SocketAttribution.Dialogue

/-!
# Dialogues as others see them

Whoever answers the calls of a program cannot see the log lines that it leaves in between. What
remains of a program without them is its muted form. A run of the muted form makes the same calls
and ends with the same value in the same state, so a statement that is not about the log is proved
of the muted form, which has fewer cases.

## Main definitions

* `Dialogue.muted`, `Attempt.muted`: a program without its log lines.
* `Dialogue.Asks`: every call that a program may ever make has a property.
* `Dialogue.Ensures`: every value that a program may end with has a property, as long as its calls
  are answered within what is allowed.

## Main statements

* `Dialogue.run_muted`: only the log of a run tells the two forms apart.
* `Attempt.muted_bind`: muting goes through composition, so muted forms are computed part by part.
* `Attempt.asks_bind`: what two attempts ask, from what each of them asks.
* `Attempt.run_bind_of_ok`, `Attempt.run_bind_of_error`: a run of two attempts, by how the first
  ended.
-/

namespace SocketAttribution

namespace Dialogue

variable {Call : Type} {Answer : Call → Type} {α β σ : Type}

/-! ## Muted programs -/

/-- The program without its log lines. -/
def muted : Dialogue Call Answer α → Dialogue Call Answer α
  | .done value => .done value
  | .log _ rest => rest.muted
  | .ask c resume => .ask c fun answer => (resume answer).muted

@[simp] theorem muted_done (value : α) :
    (Dialogue.done value : Dialogue Call Answer α).muted = .done value := rfl

@[simp] theorem muted_log (line : LogLine) (rest : Dialogue Call Answer α) :
    (Dialogue.log line rest).muted = rest.muted := rfl

@[simp] theorem muted_ask (c : Call) (resume : Answer c → Dialogue Call Answer α) :
    (Dialogue.ask c resume).muted = .ask c fun answer => (resume answer).muted := rfl

@[simp] theorem muted_bind (d : Dialogue Call Answer α) (next : α → Dialogue Call Answer β) :
    (d.bind next).muted = d.muted.bind fun value => (next value).muted := by
  induction d with
  | done => rfl
  | log line rest ih => rw [log_bind, muted_log, muted_log, ih]
  | ask c resume ih =>
      rw [ask_bind, muted_ask, muted_ask, ask_bind]
      exact congrArg _ (funext ih)

/-- **Only the log tells a program from its muted form.** -/
theorem run_muted (answer : (c : Call) → σ → Answer c × σ) (d : Dialogue Call Answer α)
    (state : σ) :
    d.muted.run answer state = { d.run answer state with log := [] } := by
  induction d generalizing state with
  | done => rfl
  | log line rest ih => rw [muted_log, run_log, ih]; rfl
  | ask c resume ih => rw [muted_ask, run_ask, run_ask, ih]; rfl

/-! ## The calls that a program may make -/

/-- Every call that the program may ever make, whatever it is answered, has a property. -/
def Asks (P : Call → Prop) : Dialogue Call Answer α → Prop
  | .done _ => True
  | .log _ rest => rest.Asks P
  | .ask c resume => P c ∧ ∀ answer, (resume answer).Asks P

@[simp] theorem asks_done (P : Call → Prop) (value : α) :
    (Dialogue.done value : Dialogue Call Answer α).Asks P := trivial

@[simp] theorem asks_ask {P : Call → Prop} {c : Call}
    {resume : Answer c → Dialogue Call Answer α} :
    (Dialogue.ask c resume).Asks P ↔ P c ∧ ∀ answer, (resume answer).Asks P := Iff.rfl

theorem Asks.mono {P Q : Call → Prop} {d : Dialogue Call Answer α} (asks : d.Asks P)
    (h : ∀ c, P c → Q c) : d.Asks Q := by
  induction d with
  | done => exact asks
  | log line rest ih => exact ih asks
  | ask c resume ih => exact ⟨h c asks.1, fun answer => ih answer (asks.2 answer)⟩

@[simp] theorem asks_muted {P : Call → Prop} {d : Dialogue Call Answer α} :
    d.muted.Asks P ↔ d.Asks P := by
  induction d with
  | done => rfl
  | log line rest ih => exact ih
  | ask c resume ih => exact and_congr_right fun _ => forall_congr' ih

theorem Asks.bind {P : Call → Prop} {d : Dialogue Call Answer α}
    {next : α → Dialogue Call Answer β} (first : d.Asks P) (second : ∀ value, (next value).Asks P) :
    (d.bind next).Asks P := by
  induction d with
  | done value => exact second value
  | log line rest ih => exact ih first
  | ask c resume ih => exact ⟨first.1, fun answer => ih answer (first.2 answer)⟩

/-! ## The values that a program may end with -/

/-- However the program is answered within what is allowed, it ends with a value that has a
property. -/
def Ensures (allowed : (c : Call) → Answer c → Prop) (Q : α → Prop) :
    Dialogue Call Answer α → Prop
  | .done value => Q value
  | .log _ rest => rest.Ensures allowed Q
  | .ask c resume => ∀ answer, allowed c answer → (resume answer).Ensures allowed Q

theorem Ensures.bind {allowed : (c : Call) → Answer c → Prop} {P : α → Prop} {Q : β → Prop}
    {d : Dialogue Call Answer α} {next : α → Dialogue Call Answer β} (first : d.Ensures allowed P)
    (second : ∀ value, P value → (next value).Ensures allowed Q) :
    (d.bind next).Ensures allowed Q := by
  induction d with
  | done value => exact second value first
  | log line rest ih => exact ih first
  | ask c resume ih =>
      intro answer fits
      exact ih answer (first answer fits)

end Dialogue

namespace Attempt

variable {Call : Type} {Answer : Call → Type} {α β ε ε' σ : Type}

/-! ## Muted attempts -/

/-- The attempt without its log lines. -/
def muted (attempt : Attempt Call Answer ε α) : Attempt Call Answer ε α :=
  ExceptT.mk attempt.run.muted

@[simp] theorem run_muted (attempt : Attempt Call Answer ε α) :
    attempt.muted.run = attempt.run.muted := rfl

@[simp] theorem muted_pure (value : α) :
    muted (pure value : Attempt Call Answer ε α) = pure value := rfl

@[simp] theorem muted_throw (e : ε) :
    muted (throw e : Attempt Call Answer ε α) = throw e := rfl

@[simp] theorem muted_demand (c : Call) (read : Answer c → Except ε α) :
    muted (demand c read) = demand c read := rfl

@[simp] theorem muted_lift (d : Dialogue Call Answer α) :
    muted (ExceptT.lift d : Attempt Call Answer ε α) = ExceptT.lift d.muted := by
  apply ExceptT.ext
  exact Dialogue.muted_bind d _

@[simp] theorem muted_note (origin : Origin) (level : Level) (text : String) :
    muted (note origin level text : Attempt Call Answer ε Unit) = pure () := rfl

@[simp] theorem muted_ofExcept (result : Except ε α) :
    muted (ofExcept result : Attempt Call Answer ε α) = ofExcept result := rfl

/-- **Muting goes through composition.** -/
@[simp] theorem muted_bind (attempt : Attempt Call Answer ε α)
    (next : α → Attempt Call Answer ε β) :
    muted (attempt >>= next) = muted attempt >>= fun value => muted (next value) := by
  apply ExceptT.ext
  rw [run_muted, run_bind, run_bind, Dialogue.muted_bind]
  congr 1
  funext result
  cases result <;> rfl

@[simp] theorem muted_mapError (f : ε → ε') (attempt : Attempt Call Answer ε α) :
    muted (mapError f attempt) = mapError f (muted attempt) := by
  apply ExceptT.ext
  show (attempt.run.bind _).muted = attempt.run.muted.bind _
  rw [Dialogue.muted_bind]
  rfl

/-- A line that is left on failure is a log line like any other. -/
@[simp] theorem muted_noteError (origin : Origin) (level : Level) (text : ε → String)
    (attempt : Attempt Call Answer ε α) :
    muted (noteError origin level text attempt) = muted attempt := by
  apply ExceptT.ext
  show (attempt.run.bind _).muted = attempt.run.muted
  rw [Dialogue.muted_bind]
  refine Eq.trans ?_ (Dialogue.bind_done _)
  congr 1
  funext result
  cases result <;> rfl

/-- **Attempts with one muted form have the same runs**, apart from the log. -/
theorem run_eq_of_muted {first second : Attempt Call Answer ε α}
    (same : first.muted = second.muted) (answer : (c : Call) → σ → Answer c × σ) (state : σ) :
    ({ first.run.run answer state with log := [] } : Transcript Call σ (Except ε α)) =
      { second.run.run answer state with log := [] } := by
  rw [← Dialogue.run_muted, ← Dialogue.run_muted, ← run_muted, same, run_muted]

/-- A check that says why it refuses, before it does. -/
theorem muted_check (holds : Prop) [Decidable holds] (origin : Origin) (level : Level)
    (text : String) (e : ε) :
    muted (if holds then pure () else do note origin level text; throw e :
      Attempt Call Answer ε Unit) = ofExcept (if holds then .ok () else .error e) := by
  by_cases h : holds
  · rw [if_pos h, if_pos h]
    rfl
  · rw [if_neg h, if_neg h]
    rfl

/-! ## Demands -/

theorem mapError_demand (f : ε → ε') (c : Call) (read : Answer c → Except ε α) :
    mapError f (demand c read) = demand c fun answer => (read answer).mapError f := rfl

/-- One call whose answer is taken as it is. -/
theorem lift_ask (c : Call) (read : Answer c → α) :
    (ExceptT.lift (.ask c fun answer => .done (read answer)) : Attempt Call Answer ε α) =
      demand c fun answer => .ok (read answer) := rfl

/-- A second look at the answer of a demand is part of how it is read. -/
theorem demand_bind_ofExcept (c : Call) (read : Answer c → Except ε α) (judge : α → Except ε β) :
    (demand c read >>= fun value => ofExcept (judge value)) =
      demand c fun answer => (read answer).bind judge := by
  apply ExceptT.ext
  rw [run_bind]
  refine congrArg (Dialogue.ask c) (funext fun answer => ?_)
  show onward _ (read answer) = .done ((read answer).bind judge)
  cases read answer <;> rfl

@[simp] theorem ofExcept_ok (value : α) :
    (ofExcept (.ok value) : Attempt Call Answer ε α) = pure value := rfl

@[simp] theorem ofExcept_error (e : ε) :
    (ofExcept (.error e) : Attempt Call Answer ε α) = throw e := rfl

/-! ## The calls that an attempt may make -/

section Asks

variable {P : Call → Prop}

theorem asks_demand {c : Call} {read : Answer c → Except ε α} (h : P c) :
    (demand c read).run.Asks P :=
  ⟨h, fun answer => Dialogue.asks_done P (read answer)⟩

theorem asks_ofExcept (result : Except ε α) :
    (ofExcept result : Attempt Call Answer ε α).run.Asks P := Dialogue.asks_done P result

theorem asks_onward {next : α → Attempt Call Answer ε β}
    (second : ∀ value, (next value).run.Asks P) (result : Except ε α) :
    (onward next result).Asks P := by
  cases result with
  | ok value => exact second value
  | error e => exact Dialogue.asks_done P _

theorem asks_bind {attempt : Attempt Call Answer ε α} {next : α → Attempt Call Answer ε β}
    (first : attempt.run.Asks P) (second : ∀ value, (next value).run.Asks P) :
    (attempt >>= next).run.Asks P := by
  rw [run_bind]
  exact first.bind (asks_onward second)

end Asks

/-! ## Runs of two attempts -/

variable {answer : (c : Call) → σ → Answer c × σ} {state : σ}
variable {attempt : Attempt Call Answer ε α} {next : α → Attempt Call Answer ε β}

/-- Behind an attempt that succeeds the next one runs from where it ended. -/
theorem run_bind_of_ok {value : α} (h : (attempt.run.run answer state).value = .ok value) :
    (attempt >>= next).run.run answer state =
      (attempt.run.run answer state).followedBy
        ((next value).run.run answer (attempt.run.run answer state).state) := by
  rw [run_bind, Dialogue.run_bind, h]
  rfl

/-- Behind an attempt that fails nothing more is asked. -/
theorem run_bind_of_error {e : ε} (h : (attempt.run.run answer state).value = .error e) :
    (attempt >>= next).run.run answer state =
      { attempt.run.run answer state with value := .error e } := by
  rw [run_bind, Dialogue.run_bind, h]
  simp [onward, Transcript.followedBy]

end Attempt

end SocketAttribution
