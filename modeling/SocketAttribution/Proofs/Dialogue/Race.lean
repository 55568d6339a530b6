import SocketAttribution.Proofs.Dialogue.Muted
import Mathlib.Logic.Function.Basic

/-!
# Programs that race

Several programs share what answers them. A schedule says whose turn it is, and whose turn it is
makes his next call, so that between two calls of one program anything may happen that the others
do. If what a program finds on its way cannot be changed by the others, except by the one call that
ends it, then it might as well have run as a whole at the moment of that call. This module proves
so of all programs of this form, whatever the schedule.

## Main definitions

* `Race`, `Race.turn`, `Race.play`: programs on their way together, and how a schedule moves them.
* `Race.result?`, `Race.writers`: how a program has ended, and who made decisive calls, in the order
  of these calls.
* `InTurn`: programs that run one after another, with their results.
* `Dialogue.DecidedLast`: a program that fails, or is over with the answer to a decisive call.
* `World`: states that answer all other calls alike.

## Main statements

* `Race.Linear.turn`: what is known of a race after any number of turns.
* `Race.serializable`: a race that is over is a serial run in the order of the decisive calls.
-/

namespace SocketAttribution

variable {ι Call : Type} {Answer : Call → Type} {α β ε σ : Type}

/-! ## Races -/

/-- Programs on their way together. -/
structure Race (ι Call : Type) (Answer : Call → Type) (σ α : Type) where
  state : σ
  /-- What each program still has to do. -/
  rest : ι → Dialogue Call Answer α
  /-- The calls so far, each with who made it. -/
  turns : List (ι × Call)

namespace Race

/-- No program has made a call yet. Log lines take no turns. -/
def start (programs : ι → Dialogue Call Answer α) (state : σ) : Race ι Call Answer σ α :=
  ⟨state, fun i => (programs i).muted, []⟩

/-- How a program has ended, if it is over. -/
def result? (r : Race ι Call Answer σ α) (i : ι) : Option α :=
  match r.rest i with
  | .done value => some value
  | _ => none

theorem result?_eq_some_iff {r : Race ι Call Answer σ α} {i : ι} {value : α} :
    r.result? i = some value ↔ r.rest i = .done value := by
  rw [result?]
  cases r.rest i <;> simp

/-- Who made decisive calls, in the order of these calls. -/
def writers (decisive : Call → Prop) [DecidablePred decisive] (r : Race ι Call Answer σ α) :
    List ι :=
  (r.turns.filter fun turn => decisive turn.2).map Prod.fst

section Play

variable [DecidableEq ι] (answer : (c : Call) → σ → Answer c × σ)

/-- A program makes its next call, unless it is over. -/
def turn (r : Race ι Call Answer σ α) (i : ι) : Race ι Call Answer σ α :=
  match r.rest i with
  | .ask c resume =>
    { state := (answer c r.state).2
      rest := Function.update r.rest i (resume (answer c r.state).1)
      turns := r.turns ++ [(i, c)] }
  | _ => r

/-- The race after the turns of a schedule. -/
def play (r : Race ι Call Answer σ α) (schedule : List ι) : Race ι Call Answer σ α :=
  schedule.foldl (turn answer) r

variable {answer} {r : Race ι Call Answer σ α}

theorem turn_of_ask {i : ι} {c : Call} {resume : Answer c → Dialogue Call Answer α}
    (asks : r.rest i = .ask c resume) :
    r.turn answer i =
      { state := (answer c r.state).2
        rest := Function.update r.rest i (resume (answer c r.state).1)
        turns := r.turns ++ [(i, c)] } := by
  rw [turn, asks]

/-- **What every call preserves, a schedule preserves.** -/
theorem play_induction {P : Race ι Call Answer σ α → Prop} (first : P r)
    (turns : ∀ r i (c : Call) resume, r.rest i = .ask c resume → P r → P (r.turn answer i))
    (schedule : List ι) : P (r.play answer schedule) := by
  induction schedule generalizing r with
  | nil => exact first
  | cons i later ih =>
      refine ih ?_
      cases left : r.rest i with
      | ask c resume => exact turns r i c resume left first
      | done value =>
          have idle : r.turn answer i = r := by rw [turn, left]
          rw [idle]
          exact first
      | log line rest =>
          have idle : r.turn answer i = r := by rw [turn, left]
          rw [idle]
          exact first

end Play

end Race

/-! ## Programs one after another -/

/-- Programs run one after another, from one state to another, and end with these results. -/
inductive InTurn (answer : (c : Call) → σ → Answer c × σ) (programs : ι → Dialogue Call Answer α)
    (result : ι → α) : List ι → σ → σ → Prop where
  | nil (s : σ) : InTurn answer programs result [] s s
  | cons {i : ι} {rest : List ι} {s last : σ}
    (ends : ((programs i).run answer s).value = result i)
    (behind : InTurn answer programs result rest ((programs i).run answer s).state last) :
    InTurn answer programs result (i :: rest) s last

namespace InTurn

variable {answer : (c : Call) → σ → Answer c × σ} {programs : ι → Dialogue Call Answer α}
  {result result' : ι → α} {order front back : List ι} {s middle last last' : σ}

theorem append (first : InTurn answer programs result front s middle)
    (second : InTurn answer programs result back middle last) :
    InTurn answer programs result (front ++ back) s last := by
  induction first with
  | nil => exact second
  | cons ends _ ih => exact .cons ends (ih second)

/-- **The order settles the results and the last state.** -/
theorem unique (one : InTurn answer programs result order s last)
    (other : InTurn answer programs result' order s last') :
    last = last' ∧ ∀ i ∈ order, result i = result' i := by
  induction one with
  | nil =>
      cases other
      exact ⟨rfl, fun _ mem => nomatch mem⟩
  | cons ends _ ih =>
      cases other with
      | cons ends' behind' =>
          obtain ⟨same, results⟩ := ih behind'
          exact ⟨same, List.forall_mem_cons.2 ⟨ends.symm.trans ends', results⟩⟩

end InTurn

/-! ## Programs that are decided by their last call -/

/-- A program that fails without a decisive call, or is over with the answer to one. All its other
calls are quiet. -/
def Dialogue.DecidedLast (quiet decisive : Call → Prop) :
    Dialogue Call Answer (Except ε α) → Prop
  | .done result => ∃ e, result = .error e
  | .log _ rest => rest.DecidedLast quiet decisive
  | .ask c resume =>
    (quiet c ∧ ∀ answer, (resume answer).DecidedLast quiet decisive) ∨
      (decisive c ∧ ∀ answer, ∃ result, resume answer = .done result)

namespace Attempt

variable {quiet decisive : Call → Prop}

/-- A quiet part in front. -/
theorem decidedLast_bind {attempt : Attempt Call Answer ε α} {next : α → Attempt Call Answer ε β}
    (first : attempt.run.Asks quiet)
    (second : ∀ value, (next value).run.DecidedLast quiet decisive) :
    (attempt >>= next).run.DecidedLast quiet decisive := by
  rw [run_bind]
  generalize attempt.run = d at first
  induction d with
  | done result =>
      cases result with
      | ok value => exact second value
      | error e => exact ⟨e, rfl⟩
  | log line rest ih => exact ih first
  | ask c resume ih => exact .inl ⟨first.1, fun answer => ih answer (first.2 answer)⟩

theorem decidedLast_demand {c : Call} {read : Answer c → Except ε α} (last : decisive c) :
    (demand c read).run.DecidedLast quiet decisive :=
  .inr ⟨last, fun answer => ⟨read answer, rfl⟩⟩

end Attempt

/-- States that answer quiet calls alike and are left as they are by them. Decisive calls lead from
one to another. -/
structure World (answer : (c : Call) → σ → Answer c × σ) (quiet decisive : Call → Prop)
    (W : σ → Prop) : Prop where
  alike : ∀ {c s s'}, quiet c → W s → W s' → (answer c s).1 = (answer c s').1
  still : ∀ {c s}, quiet c → W s → (answer c s).2 = s
  closed : ∀ {c s}, decisive c → W s → W (answer c s).2

variable {answer : (c : Call) → σ → Answer c × σ} {quiet decisive : Call → Prop} {W : σ → Prop}

/-- A program does not lead out of the world. -/
theorem World.run_within (world : World answer quiet decisive W)
    {d : Dialogue Call Answer (Except ε α)} (decided : d.DecidedLast quiet decisive) {s : σ}
    (within : W s) : W (d.run answer s).state := by
  induction d generalizing s with
  | done result => exact within
  | log line rest ih => exact ih decided within
  | ask c resume ih =>
      rw [Dialogue.run_ask]
      rcases decided with ⟨silent, later⟩ | ⟨decides, ends⟩
      · refine ih _ (later _) ?_
        rw [world.still silent within]
        exact within
      · obtain ⟨result, ended⟩ := ends (answer c s).1
        rw [ended]
        exact world.closed decides within

/-- Programs that fail in all states of the world may stand anywhere in a row. -/
theorem World.inTurn_of_filter {programs : ι → Dialogue Call Answer (Except ε α)}
    {result : ι → Except ε α} (keep : ι → Prop) [DecidablePred keep] {order : List ι} {s last : σ}
    (world : World answer quiet decisive W)
    (decided : ∀ i, (programs i).muted.DecidedLast quiet decisive)
    (idle : ∀ i, ¬ keep i → ∀ s, W s →
      ((programs i).run answer s).value = result i ∧ ((programs i).run answer s).state = s)
    (within : W s) (run : InTurn answer programs result (order.filter keep) s last) :
    InTurn answer programs result order s last := by
  induction order generalizing s with
  | nil => exact run
  | cons i rest ih =>
      by_cases kept : keep i
      · rw [List.filter_cons, if_pos (decide_eq_true kept)] at run
        have stays : W ((programs i).run answer s).state := by
          have inside := world.run_within (decided i) within
          rw [Dialogue.run_muted] at inside
          exact inside
        cases run with
        | cons ends behind => exact .cons ends (ih stays behind)
      · rw [List.filter_cons, if_neg (by simp [kept])] at run
        obtain ⟨value, state⟩ := idle i kept s within
        refine .cons value ?_
        rw [state]
        exact ih within run

/-! ## Races are serial runs -/

namespace Race

/-- What is known of a race: those who made decisive calls are over and have run one after another
in the order of these calls, and the others are where they would be if they started now. -/
structure Linear (answer : (c : Call) → σ → Answer c × σ) (quiet decisive : Call → Prop)
    [DecidablePred decisive] (W : σ → Prop) (programs : ι → Dialogue Call Answer (Except ε α))
    (s : σ) (r : Race ι Call Answer σ (Except ε α)) : Prop where
  within : W r.state
  once : (r.writers decisive).Nodup
  finished : ∀ i ∈ r.writers decisive, ∃ result, r.rest i = .done result
  inTurn : ∀ result, (∀ i ∈ r.writers decisive, r.rest i = .done (result i)) →
    InTurn answer programs result (r.writers decisive) s r.state
  decided : ∀ i ∉ r.writers decisive, (r.rest i).DecidedLast quiet decisive
  same : ∀ i ∉ r.writers decisive, ∀ s, W s →
    ((programs i).run answer s).value = ((r.rest i).run answer s).value ∧
      ((programs i).run answer s).state = ((r.rest i).run answer s).state

section Linear

variable [DecidablePred decisive] {programs : ι → Dialogue Call Answer (Except ε α)} {s : σ}
  {r : Race ι Call Answer σ (Except ε α)} {i : ι} {c : Call}
  {resume : Answer c → Dialogue Call Answer (Except ε α)}

theorem Linear.start (within : W s)
    (decided : ∀ i, (programs i).muted.DecidedLast quiet decisive) :
    Linear answer quiet decisive W programs s (Race.start programs s) where
  within := within
  once := List.nodup_nil
  finished i mem := nomatch mem
  inTurn result _ := .nil s
  decided i _ := decided i
  same i _ s _ := by
    show _ = ((programs i).muted.run answer s).value ∧ _ = ((programs i).muted.run answer s).state
    rw [Dialogue.run_muted]
    exact ⟨rfl, rfl⟩

/-- Who makes a call has not made a decisive one. -/
theorem Linear.not_mem_writers (linear : Linear answer quiet decisive W programs s r)
    (asks : r.rest i = .ask c resume) : i ∉ r.writers decisive := by
  intro mem
  obtain ⟨result, ended⟩ := linear.finished i mem
  cases asks.symm.trans ended

variable [DecidableEq ι]

theorem writers_turn_of_not (asks : r.rest i = .ask c resume) (quiet : ¬ decisive c) :
    (r.turn answer i).writers decisive = r.writers decisive := by
  simp [turn_of_ask asks, writers, quiet]

theorem writers_turn (asks : r.rest i = .ask c resume) (decides : decisive c) :
    (r.turn answer i).writers decisive = r.writers decisive ++ [i] := by
  simp [turn_of_ask asks, writers, decides]

theorem rest_turn_of_ne {j : ι} (asks : r.rest i = .ask c resume) (other : j ≠ i) :
    (r.turn answer i).rest j = r.rest j := by
  rw [turn_of_ask asks]
  exact Function.update_of_ne other _ _

theorem rest_turn_self (asks : r.rest i = .ask c resume) :
    (r.turn answer i).rest i = resume (answer c r.state).1 := by
  rw [turn_of_ask asks]
  exact Function.update_self i _ _

theorem state_turn (asks : r.rest i = .ask c resume) :
    (r.turn answer i).state = (answer c r.state).2 := by
  rw [turn_of_ask asks]

namespace Linear

/-- A quiet call leaves the state as it is, and who made it where he would be if he started now. -/
theorem turn_of_quiet (world : World answer quiet decisive W)
    (linear : Linear answer quiet decisive W programs s r) (asks : r.rest i = .ask c resume)
    (silent : quiet c) (apart : ¬ decisive c)
    (later : ∀ answer, (resume answer).DecidedLast quiet decisive) :
    Linear answer quiet decisive W programs s (r.turn answer i) := by
  have fresh : i ∉ r.writers decisive := linear.not_mem_writers asks
  have still : (r.turn answer i).state = r.state := by
    rw [state_turn asks, world.still silent linear.within]
  have others : ∀ j ∈ r.writers decisive, (r.turn answer i).rest j = r.rest j := by
    intro j mem
    apply rest_turn_of_ne asks
    rintro rfl
    exact fresh mem
  refine ⟨?within, ?once, ?finished, ?inTurn, ?decided, ?same⟩
  case within =>
    rw [still]
    exact linear.within
  case once =>
    rw [writers_turn_of_not asks apart]
    exact linear.once
  case finished =>
    rw [writers_turn_of_not asks apart]
    intro j mem
    rw [others j mem]
    exact linear.finished j mem
  case inTurn =>
    rw [writers_turn_of_not asks apart, still]
    intro result ends
    apply linear.inTurn result
    intro j mem
    rw [← others j mem]
    exact ends j mem
  case decided =>
    rw [writers_turn_of_not asks apart]
    intro j idle
    by_cases self : j = i
    · rw [self, rest_turn_self asks]
      exact later _
    · rw [rest_turn_of_ne asks self]
      exact linear.decided j idle
  case same =>
    rw [writers_turn_of_not asks apart]
    intro j idle s' within
    obtain ⟨value, state⟩ := linear.same j idle s' within
    by_cases self : j = i
    · -- In every state of the world the program would get the answer that it has got here.
      subst self
      rw [asks, Dialogue.run_ask, world.still silent within,
        world.alike silent within linear.within] at value state
      rw [rest_turn_self asks]
      exact ⟨value, state⟩
    · rw [rest_turn_of_ne asks self]
      exact ⟨value, state⟩

/-- A decisive call is the run of a whole program from the state that it finds. -/
theorem turn_of_decisive (world : World answer quiet decisive W)
    (linear : Linear answer quiet decisive W programs s r) (asks : r.rest i = .ask c resume)
    (decides : decisive c) (ends : ∀ answer, ∃ result, resume answer = .done result) :
    Linear answer quiet decisive W programs s (r.turn answer i) := by
  have fresh : i ∉ r.writers decisive := linear.not_mem_writers asks
  have others : ∀ j, j ≠ i → (r.turn answer i).rest j = r.rest j :=
    fun j other => rest_turn_of_ne asks other
  obtain ⟨own, ended⟩ := ends (answer c r.state).1
  have last : (r.turn answer i).rest i = .done own := (rest_turn_self asks).trans ended
  -- So far it is where it would be if it started now. Its whole run is therefore this one call.
  obtain ⟨value, state⟩ := linear.same i fresh r.state linear.within
  rw [asks, Dialogue.run_ask, ended] at value state
  refine ⟨?within, ?once, ?finished, ?inTurn, ?decided, ?same⟩
  case within =>
    rw [state_turn asks]
    exact world.closed decides linear.within
  case once =>
    rw [writers_turn asks decides]
    exact (List.perm_append_singleton i _).nodup_iff.2 (List.nodup_cons.2 ⟨fresh, linear.once⟩)
  case finished =>
    rw [writers_turn asks decides]
    intro j mem
    rcases List.mem_append.1 mem with mem | self
    · rw [others j (fun same => fresh (same ▸ mem))]
      exact linear.finished j mem
    · rw [List.mem_singleton.1 self]
      exact ⟨own, last⟩
  case inTurn =>
    rw [writers_turn asks decides]
    intro result done
    have before : InTurn answer programs result (r.writers decisive) s r.state := by
      apply linear.inTurn result
      intro j mem
      rw [← others j (fun same => fresh (same ▸ mem))]
      exact done j (List.mem_append_left _ mem)
    have mine : own = result i := by
      have same := last.symm.trans (done i (List.mem_append_right _ List.mem_cons_self))
      cases same
      rfl
    have run : InTurn answer programs result [i] r.state (r.turn answer i).state := by
      apply InTurn.cons (value.trans mine)
      rw [state, state_turn asks]
      exact .nil _
    exact before.append run
  case decided =>
    rw [writers_turn asks decides]
    intro j idle
    rw [List.mem_append, not_or] at idle
    rw [others j (fun same => idle.2 (List.mem_singleton.2 same))]
    exact linear.decided j idle.1
  case same =>
    rw [writers_turn asks decides]
    intro j idle
    rw [List.mem_append, not_or] at idle
    rw [others j (fun same => idle.2 (List.mem_singleton.2 same))]
    exact linear.same j idle.1

/-- **What is known of a race is known after any call.** -/
theorem turn (world : World answer quiet decisive W) (apart : ∀ c, quiet c → ¬ decisive c)
    (linear : Linear answer quiet decisive W programs s r) (asks : r.rest i = .ask c resume) :
    Linear answer quiet decisive W programs s (r.turn answer i) := by
  have decided := linear.decided i (linear.not_mem_writers asks)
  rw [asks] at decided
  rcases decided with ⟨silent, later⟩ | ⟨decides, ends⟩
  · exact linear.turn_of_quiet world asks silent (apart c silent) later
  · exact linear.turn_of_decisive world asks decides ends

/-- **What is known of a race under every schedule.** -/
theorem play (world : World answer quiet decisive W) (apart : ∀ c, quiet c → ¬ decisive c)
    (within : W s) (decided : ∀ i, (programs i).muted.DecidedLast quiet decisive)
    (schedule : List ι) :
    Linear answer quiet decisive W programs s ((Race.start programs s).play answer schedule) :=
  play_induction (.start within decided)
    (fun _ _ _ _ asks linear => linear.turn world apart asks) schedule

end Linear

/-- **A race that is over is a serial run.** Nobody made two decisive calls, and who made none has
failed. The race ends as the programs do that run one after another in the order of the decisive
calls, wherever those stand that made none: with the same results and in the same state. -/
theorem serializable {result : ι → Except ε α} {schedule : List ι}
    (world : World answer quiet decisive W) (apart : ∀ c, quiet c → ¬ decisive c) (within : W s)
    (decided : ∀ i, (programs i).muted.DecidedLast quiet decisive)
    (ended : ∀ i, ((start programs s).play answer schedule).result? i = some (result i)) :
    let last := (start programs s).play answer schedule
    (last.writers decisive).Nodup ∧ (∀ i ∉ last.writers decisive, ∃ e, result i = .error e) ∧
      ∀ order : List ι,
        order.filter (· ∈ last.writers decisive) = last.writers decisive →
        InTurn answer programs result order s last.state := by
  intro last
  have done : ∀ i, last.rest i = .done (result i) := fun i => result?_eq_some_iff.1 (ended i)
  have linear : Linear answer quiet decisive W programs s last :=
    .play world apart within decided schedule
  have failed : ∀ i ∉ last.writers decisive, ∃ e, result i = .error e := by
    intro i idle
    have settled := linear.decided i idle
    rw [done i] at settled
    exact settled
  refine ⟨linear.once, failed, ?_⟩
  intro order sorted
  refine World.inTurn_of_filter (· ∈ last.writers decisive) world decided ?_ within ?_
  · intro i idle s' within'
    have same := linear.same i idle s' within'
    rw [done i] at same
    exact same
  · rw [sorted]
    exact linear.inTurn result fun i _ => done i

end Linear

end Race

end SocketAttribution
