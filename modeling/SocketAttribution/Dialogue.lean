import SocketAttribution.Log

/-!
# Dialogues

A program that works through collaborators (tables, a socket probe, a program host, a file tree)
is written as a dialogue: it asks for calls, goes on with their answers, leaves log lines, and ends
with a value. Nothing in a dialogue says how a call is answered, so one text of the program is run
over the system, over doubles in memory, and over any interleaving that a statement speaks of.

## Main definitions

* `Dialogue`: the tree of calls, log lines and results.
* `Dialogue.run`: a dialogue against something that answers calls out of a state.
* `Transcript`: what such a run leaves: value, state, calls and log lines.
* `Dialogue.through`: a dialogue inside a wider vocabulary of calls.
* `Attempt`: a dialogue that may end in an error.
-/

namespace SocketAttribution

/-- A program over a vocabulary of calls, each with its own type of answer. -/
inductive Dialogue (Call : Type) (Answer : Call → Type) (α : Type) where
  /-- The program is over. -/
  | done (value : α)
  /-- The program leaves a log line and goes on. -/
  | log (line : LogLine) (next : Dialogue Call Answer α)
  /-- The program makes a call and goes on with its answer. -/
  | ask (call : Call) (resume : Answer call → Dialogue Call Answer α)

namespace Dialogue

variable {Call : Type} {Answer : Call → Type} {α β σ : Type}

/-! ## Composition -/

/-- One program after another, which is chosen by the value of the first. -/
def bind : Dialogue Call Answer α → (α → Dialogue Call Answer β) → Dialogue Call Answer β
  | .done value, next => next value
  | .log line rest, next => .log line (rest.bind next)
  | .ask call resume, next => .ask call fun answer => (resume answer).bind next

instance : Monad (Dialogue Call Answer) where
  pure := .done
  bind := bind

/-- The program that makes one call and ends with the answer. -/
def call (c : Call) : Dialogue Call Answer (Answer c) := .ask c .done

/-- The program that leaves one log line. -/
def note (origin : Origin) (level : Level) (text : String) : Dialogue Call Answer Unit :=
  .log ⟨origin, level, text⟩ (.done ())

@[simp] theorem pure_eq_done (value : α) :
    (pure value : Dialogue Call Answer α) = .done value := rfl

@[simp] theorem bind_eq (d : Dialogue Call Answer α) (next : α → Dialogue Call Answer β) :
    (d >>= next) = d.bind next := rfl

@[simp] theorem done_bind (value : α) (next : α → Dialogue Call Answer β) :
    (Dialogue.done value).bind next = next value := rfl

@[simp] theorem log_bind (line : LogLine) (rest : Dialogue Call Answer α)
    (next : α → Dialogue Call Answer β) :
    (Dialogue.log line rest).bind next = .log line (rest.bind next) := rfl

@[simp] theorem ask_bind (c : Call) (resume : Answer c → Dialogue Call Answer α)
    (next : α → Dialogue Call Answer β) :
    (Dialogue.ask c resume).bind next = .ask c fun answer => (resume answer).bind next := rfl

@[simp] theorem bind_done (d : Dialogue Call Answer α) : d.bind .done = d := by
  induction d with
  | done => rfl
  | log line rest ih => rw [log_bind, ih]
  | ask c resume ih => rw [ask_bind]; exact congrArg _ (funext ih)

theorem bind_assoc {γ : Type} (d : Dialogue Call Answer α) (f : α → Dialogue Call Answer β)
    (g : β → Dialogue Call Answer γ) : (d.bind f).bind g = d.bind fun a => (f a).bind g := by
  induction d with
  | done => rfl
  | log line rest ih => simp only [log_bind, ih]
  | ask c resume ih => simp only [ask_bind, ih]

instance : LawfulMonad (Dialogue Call Answer) :=
  LawfulMonad.mk' (Dialogue Call Answer) (fun d => bind_done d) (fun _ _ => rfl) bind_assoc

end Dialogue

/-! ## Runs -/

/-- What a run leaves: the value of the program, the state of what answered it, and the calls and
log lines in order. -/
structure Transcript (Call σ α : Type) where
  value : α
  state : σ
  calls : List Call
  log : List LogLine

namespace Transcript

variable {Call α β σ : Type}

/-- The transcript with an earlier call in front. -/
def afterCall (c : Call) (t : Transcript Call σ α) : Transcript Call σ α :=
  { t with calls := c :: t.calls }

/-- The transcript with an earlier log line in front. -/
def afterLine (line : LogLine) (t : Transcript Call σ α) : Transcript Call σ α :=
  { t with log := line :: t.log }

/-- The transcript of a second program behind that of a first. -/
def followedBy (t : Transcript Call σ α) (later : Transcript Call σ β) : Transcript Call σ β :=
  ⟨later.value, later.state, t.calls ++ later.calls, t.log ++ later.log⟩

end Transcript

namespace Dialogue

variable {Call : Type} {Answer : Call → Type} {α β σ : Type}

/-- Runs a program against something that answers each call out of a state. -/
def run (answer : (c : Call) → σ → Answer c × σ) : Dialogue Call Answer α → σ →
    Transcript Call σ α
  | .done value, state => ⟨value, state, [], []⟩
  | .log line rest, state => (rest.run answer state).afterLine line
  | .ask c resume, state =>
    ((resume (answer c state).1).run answer (answer c state).2).afterCall c

variable (answer : (c : Call) → σ → Answer c × σ)

@[simp] theorem run_done (value : α) (state : σ) :
    (Dialogue.done value).run answer state = ⟨value, state, [], []⟩ := rfl

@[simp] theorem run_log (line : LogLine) (rest : Dialogue Call Answer α) (state : σ) :
    (Dialogue.log line rest).run answer state = (rest.run answer state).afterLine line := rfl

@[simp] theorem run_ask (c : Call) (resume : Answer c → Dialogue Call Answer α) (state : σ) :
    (Dialogue.ask c resume).run answer state =
      ((resume (answer c state).1).run answer (answer c state).2).afterCall c := rfl

/-- **A run of two programs is the run of the second from where the first ended.** -/
theorem run_bind (d : Dialogue Call Answer α) (next : α → Dialogue Call Answer β) (state : σ) :
    (d.bind next).run answer state =
      (d.run answer state).followedBy
        ((next (d.run answer state).value).run answer (d.run answer state).state) := by
  induction d generalizing state with
  | done => rfl
  | log line rest ih => simp [ih, Transcript.afterLine, Transcript.followedBy]
  | ask c resume ih => simp [ih, Transcript.afterCall, Transcript.followedBy]

/-! ## A wider vocabulary -/

/-- A program inside a wider vocabulary: each of its calls becomes one there, and the answer is
read back. -/
def through {Call' : Type} {Answer' : Call' → Type} (call : Call → Call')
    (reply : (c : Call) → Answer' (call c) → Answer c) :
    Dialogue Call Answer α → Dialogue Call' Answer' α
  | .done value => .done value
  | .log line rest => .log line (rest.through call reply)
  | .ask c resume => .ask (call c) fun answer => (resume (reply c answer)).through call reply

end Dialogue

/-! ## Attempts -/

/-- A dialogue that may end in an error. -/
abbrev Attempt (Call : Type) (Answer : Call → Type) (ε α : Type) : Type :=
  ExceptT ε (Dialogue Call Answer) α

namespace Attempt

variable {Call : Type} {Answer : Call → Type} {α ε ε' : Type}

/-- Makes a call, whatever its answer says. -/
def call (c : Call) : Attempt Call Answer ε (Answer c) :=
  ExceptT.mk ((Dialogue.call c).bind fun answer => .done (.ok answer))

/-- Makes a call and ends with an error if its answer is read as one. -/
def demand (c : Call) (read : Answer c → Except ε α) : Attempt Call Answer ε α :=
  ExceptT.mk ((Dialogue.call c).bind fun answer => .done (read answer))

/-- Leaves a log line. -/
def note (origin : Origin) (level : Level) (text : String) : Attempt Call Answer ε Unit :=
  ExceptT.mk ((Dialogue.note origin level text).bind fun _ => .done (.ok ()))

/-- Ends with what a check found. -/
def ofExcept (result : Except ε α) : Attempt Call Answer ε α :=
  ExceptT.mk (.done result)

/-- The same attempt with its error seen differently. -/
def mapError (f : ε → ε') (attempt : Attempt Call Answer ε α) : Attempt Call Answer ε' α :=
  ExceptT.mk (attempt.run.bind fun result => .done (result.mapError f))

/-- The same attempt, which leaves a log line if it fails. -/
def noteError (origin : Origin) (level : Level) (text : ε → String)
    (attempt : Attempt Call Answer ε α) : Attempt Call Answer ε α :=
  ExceptT.mk (attempt.run.bind fun
    | .ok value => .done (.ok value)
    | .error e => .log ⟨origin, level, text e⟩ (.done (.error e)))

/-- The same attempt inside a wider vocabulary of calls. -/
def through {Call' : Type} {Answer' : Call' → Type} (call : Call → Call')
    (reply : (c : Call) → Answer' (call c) → Answer c) (attempt : Attempt Call Answer ε α) :
    Attempt Call' Answer' ε α :=
  ExceptT.mk (attempt.run.through call reply)

@[simp] theorem run_call (c : Call) :
    (call c : Attempt Call Answer ε (Answer c)).run = .ask c fun answer => .done (.ok answer) := rfl

@[simp] theorem run_demand (c : Call) (read : Answer c → Except ε α) :
    (demand c read).run = .ask c fun answer => .done (read answer) := rfl

@[simp] theorem run_note (origin : Origin) (level : Level) (text : String) :
    (note origin level text : Attempt Call Answer ε Unit).run =
      .log ⟨origin, level, text⟩ (.done (.ok ())) := rfl

@[simp] theorem run_ofExcept (result : Except ε α) :
    (ofExcept result : Attempt Call Answer ε α).run = .done result := rfl

/-- What follows on the outcome of an attempt: the next attempt, or the error and nothing more. -/
def onward {β : Type} (next : α → Attempt Call Answer ε β) :
    Except ε α → Dialogue Call Answer (Except ε β)
  | .ok value => (next value).run
  | .error e => .done (.error e)

/-- **Behind an attempt that fails nothing is asked.** -/
theorem run_bind {β : Type} (attempt : Attempt Call Answer ε α)
    (next : α → Attempt Call Answer ε β) :
    (attempt >>= next).run = attempt.run.bind (onward next) := by
  rw [ExceptT.run_bind, Dialogue.bind_eq]
  congr 1
  funext result
  cases result <;> rfl

end Attempt

end SocketAttribution
