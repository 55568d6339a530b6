import SocketAttribution.Proofs.Charge.Demands
import SocketAttribution.Proofs.Charge.Desk
import Mathlib.Data.List.Infix

/-!
# Rows of checks

A row of checks is decided by the first check in it that fails, and the checks behind that one are
not reached. This module says so of rows as data, without a program, and says what it means that a
part of a program performs a row.

## Main definitions

* `ChargeRefusal`, `Check`: a check as the calls that it makes and the refusal that it ends with.
* `Check.firstRefusal`, `Check.reached`: what decides a row, and how far it is gone through.
* `DecidedBy`: what a row of checks says of a run.
* `Performs`: a part of a program does at a desk what a row of checks says.

## Main statements

* `Performs.bind`: two parts perform one row behind the other.
* `Performs.demand`: a single call performs the checks that are about its answer.
-/

namespace SocketAttribution

/-! ## Checks -/

/-- Why a check fails: the error, and the error number that goes with it. -/
structure ChargeRefusal where
  error : TagError
  errno : Int32
  agrees : error.code = errno

namespace ChargeRefusal

variable {α : Type}

/-- A socket that does not answer: its error number is passed on. -/
def ofSocket? : Except SystemError α → Option ChargeRefusal
  | .ok _ => none
  | .error e => some ⟨.lookup e.code, e.code, rfl⟩

/-- A socket that answers: what it answers may be refused. -/
def ofAnswer? (answer : Except SystemError α) (judge : α → Option ChargeRefusal) :
    Option ChargeRefusal :=
  match answer with
  | .ok told => judge told
  | .error _ => none

/-- A table that does not answer: its error number is passed on. -/
def ofTable? : Except TableError α → Option ChargeRefusal
  | .ok _ => none
  | .error e => some ⟨.table e, e.code, rfl⟩

/-- A refusal unless a condition holds. -/
def refuseUnless (holds : Prop) [Decidable holds] (refusal : ChargeRefusal) :
    Option ChargeRefusal :=
  if holds then none else some refusal

theorem refuseUnless_eq_none_iff {holds : Prop} [Decidable holds] {refusal : ChargeRefusal} :
    refuseUnless holds refusal = none ↔ holds := by
  simp [refuseUnless]

end ChargeRefusal

/-- A check: the calls that it makes, and its refusal if it fails. -/
structure Check where
  calls : List TagCall
  refusal : Option ChargeRefusal

namespace Check

open ChargeRefusal

/-- The refusal of the first check that fails. -/
def firstRefusal (row : List Check) : Option ChargeRefusal := row.findSome? refusal

/-- The checks up to and including the first that fails. -/
def reached : List Check → List Check
  | [] => []
  | check :: rest => check :: if check.refusal.isSome then [] else reached rest

/-- The calls of the checks that are reached. -/
def callsOf (row : List Check) : List TagCall := (reached row).flatMap calls

/-- How a row of checks ends: with the first refusal, or with a value. -/
def outcome {α : Type} (row : List Check) (value : α) : Except TagError α :=
  match firstRefusal row with
  | none => .ok value
  | some refusal => .error refusal.error

variable {α : Type} {row front back : List Check} {value : α}

@[simp] theorem firstRefusal_nil : firstRefusal [] = none := rfl

@[simp] theorem firstRefusal_cons (check : Check) (rest : List Check) :
    firstRefusal (check :: rest) = check.refusal.or (firstRefusal rest) :=
  (List.findSome?_cons).trans (by cases check.refusal <;> rfl)

@[simp] theorem callsOf_nil : callsOf [] = [] := rfl

@[simp] theorem callsOf_cons (check : Check) (rest : List Check) :
    callsOf (check :: rest) = check.calls ++ if check.refusal.isSome then [] else callsOf rest := by
  rw [callsOf, reached, List.flatMap_cons]
  split <;> rfl

theorem firstRefusal_append (front back : List Check) :
    firstRefusal (front ++ back) = (firstRefusal front).or (firstRefusal back) :=
  List.findSome?_append

theorem firstRefusal_eq_none_iff : firstRefusal row = none ↔ ∀ check ∈ row, check.refusal = none :=
  List.findSome?_eq_none_iff

theorem outcome_of_none (passed : firstRefusal row = none) : outcome row value = .ok value := by
  rw [outcome, passed]

theorem outcome_of_some {refusal : ChargeRefusal} (refused : firstRefusal row = some refusal) :
    outcome row value = .error refusal.error := by
  rw [outcome, refused]

/-- A check that passes leaves the row to those behind it. -/
theorem outcome_cons_of_none {check : Check} {rest : List Check} (passes : check.refusal = none) :
    outcome (check :: rest) value = outcome rest value := by
  rw [outcome, outcome, firstRefusal_cons, passes, Option.none_or]

theorem outcome_cons_of_some {check : Check} {rest : List Check} {refusal : ChargeRefusal}
    (fails : check.refusal = some refusal) :
    outcome (check :: rest) value = .error refusal.error :=
  outcome_of_some (by rw [firstRefusal_cons, fails, Option.some_or])

/-- A single condition. -/
theorem outcome_refuseUnless (calls : List TagCall) (holds : Prop) [Decidable holds]
    (refusal : ChargeRefusal) (value : α) :
    outcome [⟨calls, refuseUnless holds refusal⟩] value =
      if holds then .ok value else .error refusal.error := by
  by_cases h : holds
  · simp [outcome, refuseUnless, h]
  · simp [outcome, refuseUnless, h]

/-- The answer of a socket, and a condition on what it answers. -/
theorem outcome_ofSocket? {ν : Type} (calls : List TagCall) (answer : Except SystemError ν)
    (holds : ν → Prop) [DecidablePred holds] (refusal : ν → ChargeRefusal) (value : α) :
    outcome [⟨calls, ofSocket? answer⟩,
        ⟨[], ofAnswer? answer fun told => refuseUnless (holds told) (refusal told)⟩] value =
      match answer with
      | .ok told => if holds told then .ok value else .error (refusal told).error
      | .error e => .error (.lookup e.code) := by
  cases answer with
  | ok told => exact (outcome_cons_of_none rfl).trans (outcome_refuseUnless ..)
  | error e => simp [outcome, ofSocket?]

/-- A row ends well if and only if no check fails. -/
theorem outcome_eq_ok_iff :
    outcome row value = .ok value ↔ ∀ check ∈ row, check.refusal = none := by
  rw [← firstRefusal_eq_none_iff]
  cases decided : firstRefusal row with
  | none => simp [outcome_of_none decided]
  | some refusal => simp [outcome_of_some decided]

/-- Only behind a front that passes is the back reached. -/
theorem callsOf_append (front back : List Check) :
    callsOf (front ++ back) =
      callsOf front ++ if (firstRefusal front).isSome then [] else callsOf back := by
  induction front with
  | nil => rfl
  | cons check rest ih =>
      cases fails : check.refusal with
      | some refusal => simp [fails]
      | none => simp [fails, ih]

/-- What is reached is a front part of the row. -/
theorem reached_isPrefix (row : List Check) : reached row <+: row := by
  induction row with
  | nil => exact List.prefix_rfl
  | cons check rest ih =>
      rw [reached, List.prefix_cons_inj]
      split
      · exact List.nil_prefix
      · exact ih

/-- What a row asks for if no check fails. -/
theorem callsOf_of_passes (passes : ∀ check ∈ row, check.refusal = none) :
    callsOf row = row.flatMap calls := by
  induction row with
  | nil => rfl
  | cons check rest ih =>
      rw [callsOf_cons, passes check List.mem_cons_self, List.flatMap_cons,
        ← ih fun later mem => passes later (List.mem_cons_of_mem _ mem)]
      rfl

theorem callsOf_isPrefix (row : List Check) : callsOf row <+: row.flatMap calls := by
  obtain ⟨unreached, split⟩ := reached_isPrefix row
  refine ⟨unreached.flatMap calls, ?_⟩
  rw [callsOf, ← List.flatMap_append, split]

end Check

open Check

/-- **A run is decided by a row of checks**: by the first that fails, with the calls of the checks
up to that one, or by none, with the calls of all. -/
structure DecidedBy (row : List Check) (run : Transcript TagCall Desk (Except TagError Unit)) :
    Prop where
  refused : ∀ front check back refusal, row = front ++ check :: back →
    (∀ earlier ∈ front, earlier.refusal = none) → check.refusal = some refusal →
      run.value = .error refusal.error ∧ statusOf run.value = -refusal.errno ∧
        run.calls = (front ++ [check]).flatMap Check.calls
  passed : run.value = .ok () ↔ ∀ check ∈ row, check.refusal = none
  complete : run.value = .ok () → run.calls = row.flatMap Check.calls

/-! ## Programs that perform them -/

/-- At a desk, a part of a program does what a row of checks says. If no check fails it ends with a
value and leaves the desk as another one; otherwise it leaves the desk as it is. -/
structure Performs {α : Type} (d : Desk) (row : List Check) (value : α) (changed : Desk)
    (part : TagAttempt α) : Prop where
  value : (part.run.run Desk.answer d).value = outcome row value
  calls : (part.run.run Desk.answer d).calls = callsOf row
  state : (part.run.run Desk.answer d).state = if (firstRefusal row).isSome then d else changed

namespace Performs

variable {α β : Type} {d changed : Desk} {row front back : List Check} {value : α}

/-- What a program does apart from its log, it does with its log. -/
theorem of_muted {part : TagAttempt α} (performs : Performs d row value changed part.muted) :
    Performs d row value changed part := by
  obtain ⟨ends, calls, state⟩ := performs
  rw [Attempt.run_muted, Dialogue.run_muted] at ends calls state
  exact ⟨ends, calls, state⟩

/-- A part that makes no call. -/
theorem ofExcept {result : Except TagError α} (ends : result = outcome row value)
    (calls : callsOf row = []) : Performs d row value d (Attempt.ofExcept result) where
  value := ends
  calls := calls.symm
  state := (ite_self d).symm

/-- A part that makes one call. -/
theorem call {call : TagCall} {read : call.Answer → Except TagError α}
    (ends : read (d.ask call) = outcome row value) (calls : callsOf row = [call])
    (state : (Desk.answer call d).2 = if (firstRefusal row).isSome then d else changed) :
    Performs d row value changed (Attempt.demand call read) :=
  ⟨ends, calls.symm, state⟩

/-- A part that makes one call, which changes nothing. -/
theorem demand {call : TagCall} {read : call.Answer → Except TagError α} (reads : call.Reads)
    (ends : read (d.ask call) = outcome row value) (calls : callsOf row = [call]) :
    Performs d row value d (Attempt.demand call read) := by
  apply Performs.call ends calls
  rw [ite_self]
  exact Desk.answer_of_reads reads d

/-- A part that makes one call, which is refused or changes the desk. -/
theorem change {call : TagCall} {read : call.Answer → Except TagError α}
    {refusal : Option ChargeRefusal}
    (h : (∃ x, refusal = some x ∧ read (d.ask call) = .error x.error ∧
        (Desk.answer call d).2 = d) ∨
      (refusal = none ∧ read (d.ask call) = .ok value ∧ (Desk.answer call d).2 = changed)) :
    Performs d [⟨[call], refusal⟩] value changed (Attempt.demand call read) := by
  rcases h with ⟨x, rfl, fails, same⟩ | ⟨rfl, passes, other⟩
  · exact .call (fails.trans (outcome_cons_of_some rfl).symm) rfl same
  · exact .call (passes.trans (outcome_of_none rfl).symm) rfl other

/-- **One part behind the other.** The second has to perform its row only if the first passes. -/
theorem bind {first : TagAttempt α} {next : α → TagAttempt β} {last : β}
    (before : Performs d front value d first)
    (behind : firstRefusal front = none → Performs d back last changed (next value)) :
    Performs d (front ++ back) last changed (first >>= next) := by
  -- Whether it passes or not, the first part leaves the desk as it is, so that the checks of the
  -- second are about the same desk.
  have same : (first.run.run Desk.answer d).state = d := by
    rw [before.state, ite_self]
  cases decided : firstRefusal front with
  | none =>
      have passes : (first.run.run Desk.answer d).value = .ok value :=
        before.value.trans (outcome_of_none decided)
      have whole : (first >>= next).run.run Desk.answer d =
          (first.run.run Desk.answer d).followedBy ((next value).run.run Desk.answer d) := by
        rw [Attempt.run_bind_of_ok passes, same]
      obtain ⟨ends, calls, state⟩ := behind decided
      have rest : firstRefusal (front ++ back) = firstRefusal back := by
        rw [firstRefusal_append, decided, Option.none_or]
      refine ⟨?_, ?_, ?_⟩
      · rw [outcome, rest, whole]
        exact ends
      · rw [callsOf_append, decided, whole]
        show _ ++ _ = _ ++ callsOf back
        rw [before.calls, calls]
      · rw [rest, whole]
        exact state
  | some refusal =>
      have fails : (first.run.run Desk.answer d).value = .error refusal.error :=
        before.value.trans (outcome_of_some decided)
      have rest : firstRefusal (front ++ back) = some refusal := by
        rw [firstRefusal_append, decided, Option.some_or]
      refine ⟨?_, ?_, ?_⟩
      · rw [outcome_of_some rest, Attempt.run_bind_of_error fails]
      · rw [callsOf_append, decided, Attempt.run_bind_of_error fails]
        show _ = _ ++ []
        rw [List.append_nil, before.calls]
      · rw [rest, Attempt.run_bind_of_error fails]
        exact same

/-- **Who performs a row is decided by it.** -/
theorem decidedBy {part : TagAttempt Unit} (performs : Performs d row () changed part) :
    DecidedBy row (part.run.run Desk.answer d) where
  refused := by
    rintro front check back refusal rfl passes fails
    have quiet : firstRefusal front = none := firstRefusal_eq_none_iff.2 passes
    have first : firstRefusal (front ++ check :: back) = some refusal := by
      rw [firstRefusal_append, quiet, Option.none_or, firstRefusal_cons, fails, Option.some_or]
    have ends := performs.value.trans (outcome_of_some first)
    refine ⟨ends, ?_, ?_⟩
    · rw [ends, statusOf_error, TagError.status, refusal.agrees]
    · rw [performs.calls, callsOf_append, quiet, callsOf_of_passes passes, callsOf_cons, fails,
        List.flatMap_append, List.flatMap_singleton]
      exact congrArg _ (List.append_nil _)
  passed := by rw [performs.value, outcome_eq_ok_iff]
  complete := by
    intro ends
    rw [performs.value, outcome_eq_ok_iff] at ends
    rw [performs.calls, callsOf_of_passes ends]

end Performs

end SocketAttribution
