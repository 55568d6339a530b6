import SocketAttribution.Proofs.Charge.Checklist

/-!
# Error numbers

A caller is told zero for success and otherwise an error number with its sign turned. He can tell
the two apart because error numbers are positive: those that the checks name themselves are, and
those that tables and sockets answer with have to be.

## Main definitions

* `Desk.FaultsPositive`: every failure of a desk has a positive number.
* `Check.Positive`: a check that is refused with a positive number, if it is.

## Main statements

* `checklist_positive`, `removalChecklist_positive`, `usageChecklist_positive`: the requests are
  refused with positive numbers.
* `Performs.status_cases`: zero is success, and all else is below.
-/

namespace SocketAttribution

open Check ChargeRefusal Checklist

/-! ## Failures with positive numbers -/

/-- Every failure of a table has a positive number. -/
def TableFaults.Positive (faults : TableFaults) : Prop :=
  ∀ code, faults.get = some code ∨ faults.scan = some code ∨ faults.upsert = some code ∨
    faults.delete = some code → 0 < code

theorem TableFaults.none_positive : TableFaults.none.Positive := by
  intro code fault
  simp [none] at fault

/-- Every failure of a socket to answer has a positive number. -/
def SocketAnswers.Positive (answers : SocketAnswers) : Prop :=
  ∀ e, answers.family = .error e ∨ answers.protocol = .error e ∨ answers.cookie = .error e →
    0 < e.code

/-- Every failure of a desk has a positive number. -/
structure Desk.FaultsPositive (d : Desk) : Prop where
  stats : ∀ view, (d.stats view).faults.Positive
  configuration : d.configuration.faults.Positive
  permissions : d.permissions.faults.Positive
  cookieTags : d.cookieTags.faults.Positive
  sockets : ∀ entry ∈ d.sockets, entry.2.Positive

/-- The failure that an answer of a table tells. -/
def TableCall.failure? {K V : Type} : (call : TableCall K V) → call.Answer → Option TableError
  | .get _, .error e => some e
  | .get _, .ok _ => none
  | .scan, walk => walk.failure
  | .upsert _ _, .error e => some e
  | .upsert _ _, .ok _ => none
  | .delete _, .error e => some e
  | .delete _, .ok _ => none

theorem Walk.failure_of_keys {K : Type} {walk : Walk K} {e : TableError}
    (h : walk.keys = .error e) : walk.failure = some e := by
  rw [keys] at h
  split at h
  · cases h
  · next failure =>
      cases h
      exact failure

/-- **A table fails with positive numbers**: with those of its faults, or with its own if it is
full. -/
theorem FaultyTable.code_pos {K V : Type} [DecidableEq K] {t : FaultyTable K V} {e : TableError}
    (positive : t.faults.Positive) (call : TableCall K V)
    (fails : call.failure? (answer call t).1 = some e) : 0 < e.code := by
  cases call with
  | get key =>
      rw [answer] at fails
      cases fault : t.faults.get with
      | none => simp [fault, passOn, Bounded.answer, TableCall.failure?] at fails
      | some code =>
          rw [fault] at fails
          cases fails
          exact positive code (.inl fault)
  | scan =>
      rw [answer] at fails
      cases fault : t.faults.scan with
      | none => simp [fault, passOn, Bounded.answer, TableCall.failure?, Walk.complete] at fails
      | some code =>
          rw [fault] at fails
          cases fails
          exact positive code (.inr (.inl fault))
  | upsert key value =>
      rw [answer] at fails
      cases fault : t.faults.upsert with
      | none =>
          rw [fault] at fails
          by_cases room : t.table.HasRoomFor key
          · simp [passOn, Bounded.answer, room, TableCall.failure?] at fails
          · simp only [passOn, Bounded.answer, room, if_false, TableCall.failure?,
              Option.some.injEq] at fails
            rw [← fails]
            decide
      | some code =>
          rw [fault] at fails
          cases fails
          exact positive code (.inr (.inr (.inl fault)))
  | delete key =>
      rw [answer] at fails
      cases fault : t.faults.delete with
      | none => simp [fault, passOn, Bounded.answer, TableCall.failure?] at fails
      | some code =>
          rw [fault] at fails
          cases fails
          exact positive code (.inr (.inr (.inr fault)))

theorem SocketSheet.find_positive {sheet : SocketSheet}
    (positive : ∀ entry ∈ sheet, entry.2.Positive) (socket : Descriptor) :
    (sheet.find socket).Positive := by
  rw [find]
  cases listed : sheet.lookup socket with
  | none =>
      intro e fails
      simp only [Option.getD_none, Except.error.injEq, or_self] at fails
      rw [← fails]
      decide
  | some answers =>
      obtain ⟨before, after, rfl, -⟩ := List.lookup_eq_some_iff.1 listed
      exact positive (socket, answers) (by simp)

/-! ## Checks that refuse with positive numbers -/

/-- A check that is refused with a positive number, if it is. -/
def Check.Positive (check : Check) : Prop :=
  ∀ refusal, check.refusal = some refusal → 0 < refusal.errno

namespace Check.Positive

variable {α : Type} {calls : List TagCall}

theorem of_none : Positive ⟨calls, none⟩ := by
  intro refusal fails
  cases fails

theorem of_some {refusal : ChargeRefusal} (h : 0 < refusal.errno) :
    Positive ⟨calls, some refusal⟩ := by
  intro other fails
  cases fails
  exact h

theorem refuseUnless {holds : Prop} [Decidable holds] {refusal : ChargeRefusal}
    (h : 0 < refusal.errno) : Positive ⟨calls, ChargeRefusal.refuseUnless holds refusal⟩ := by
  rw [ChargeRefusal.refuseUnless]
  split
  · exact of_none
  · exact of_some h

theorem ofSocket? {answer : Except SystemError α} (h : ∀ e, answer = .error e → 0 < e.code) :
    Positive ⟨calls, ChargeRefusal.ofSocket? answer⟩ := by
  cases answer with
  | ok value => exact of_none
  | error e => exact of_some (h e rfl)

theorem ofAnswer? {answer : Except SystemError α} {judge : α → Option ChargeRefusal}
    (h : ∀ told, Positive ⟨calls, judge told⟩) :
    Positive ⟨calls, ChargeRefusal.ofAnswer? answer judge⟩ := by
  cases answer with
  | ok told => exact h told
  | error e => exact of_none

theorem ofTable? {answer : Except TableError α} (h : ∀ e, answer = .error e → 0 < e.code) :
    Positive ⟨calls, ChargeRefusal.ofTable? answer⟩ := by
  cases answer with
  | ok value => exact of_none
  | error e => exact of_some (h e rfl)

end Check.Positive

section Checklists

variable {Tables : Type} (t : Tagger Tables) {d : Desk}

theorem tablesOpen_positive : (tablesOpen t).Positive := .refuseUnless (by decide)

theorem cookieRead_positive (positive : d.FaultsPositive) (socket : Descriptor) :
    (cookieRead socket d).Positive :=
  .ofSocket? fun e fails => d.sockets.find_positive positive.sockets socket e (.inr (.inr fails))

/-- The three checks of the selector. -/
theorem selector_positive (positive : d.FaultsPositive) :
    (selectorRead d).Positive ∧ (selectorPresent d).Positive ∧ (selectorKnown d).Positive := by
  refine ⟨.ofTable? fun e fails => ?_, ?_, ?_⟩
  · exact FaultyTable.code_pos positive.configuration (.get 1)
      (congrArg (TableCall.failure? (.get 1)) fails)
  · rw [selectorPresent]
    split
    · exact .of_some (by decide)
    · exact .of_none
  · rw [selectorKnown]
    split
    · exact .refuseUnless (show (0 : Int32) < 22 by decide)
    · exact .of_none

theorem liveScan_positive (positive : d.FaultsPositive) : (liveScan d).Positive := by
  rw [liveScan]
  cases d.selected? with
  | none => exact .of_none
  | some view =>
      refine .ofTable? fun e fails => ?_
      exact FaultyTable.code_pos (positive.stats view) .scan (Walk.failure_of_keys fails)

theorem checklist_positive (positive : d.FaultsPositive) (r : TagRequest) :
    ∀ check ∈ checklist t r d, check.Positive := by
  have sockets := d.sockets.find_positive positive.sockets r.socket
  obtain ⟨read, present, known⟩ := selector_positive positive
  simp only [checklist, List.forall_mem_cons]
  refine ⟨tablesOpen_positive t, ?_, .refuseUnless (by decide), ?_, ?_, ?_, ?_,
    cookieRead_positive positive r.socket, read, present, known, liveScan_positive positive, ?_,
    ?_, ?_⟩
  · rw [delegation]
    split
    · exact .of_none
    · exact .refuseUnless (show (0 : Int32) < 1 by decide)
  · exact .ofSocket? fun e fails => sockets e (.inl fails)
  · exact .ofAnswer? fun _ => .refuseUnless (show (0 : Int32) < 97 by decide)
  · exact .ofSocket? fun e fails => sockets e (.inr (.inl fails))
  · exact .ofAnswer? fun _ => .refuseUnless (show (0 : Int32) < 93 by decide)
  · rw [quota]
    split
    · exact .refuseUnless (show (0 : Int32) < 24 by decide)
    · exact .of_none
  · rw [upsert]
    split
    · refine .ofTable? fun e fails => ?_
      exact FaultyTable.code_pos positive.cookieTags (.upsert _ r.charge)
        (congrArg (TableCall.failure? (.upsert _ r.charge)) fails)
    · exact .of_none
  · exact List.forall_mem_nil _

theorem removalChecklist_positive (positive : d.FaultsPositive) (socket : Descriptor) :
    ∀ check ∈ removalChecklist t socket d, check.Positive := by
  simp only [removalChecklist, List.forall_mem_cons]
  refine ⟨cookieRead_positive positive socket, tablesOpen_positive t, ?_, List.forall_mem_nil _⟩
  rw [removal]
  split
  · refine .ofTable? fun e fails => ?_
    exact FaultyTable.code_pos positive.cookieTags (.delete _)
      (congrArg (TableCall.failure? (.delete _)) fails)
  · exact .of_none

theorem usageChecklist_positive (positive : d.FaultsPositive) :
    ∀ check ∈ usageChecklist t d, check.Positive := by
  obtain ⟨read, present, known⟩ := selector_positive positive
  simp only [usageChecklist, List.forall_mem_cons]
  exact ⟨tablesOpen_positive t, read, present, known, liveScan_positive positive,
    List.forall_mem_nil _⟩

end Checklists

/-! ## The numbers that callers get -/

/-- A positive number with its sign turned is below zero. -/
theorem neg_lt_zero_of_pos {number : Int32} (h : 0 < number) : -number < 0 := by
  rw [Int32.lt_iff_toInt_lt, Int32.toInt_zero] at h ⊢
  have above := number.toInt_lt
  rw [Int32.toInt_neg, Int.bmod_eq_of_le (by omega) (by omega)]
  omega

/-- **The number that a caller gets** for a row that refuses with positive numbers is zero if no
check fails, and otherwise below zero. -/
theorem Performs.status_cases {d changed : Desk} {row : List Check} {part : TagAttempt Unit}
    (performs : Performs d row () changed part) (positive : ∀ check ∈ row, check.Positive) :
    (firstRefusal row = none ∧ statusOf (part.run.run Desk.answer d).value = 0) ∨
      ((firstRefusal row).isSome = true ∧ statusOf (part.run.run Desk.answer d).value < 0) := by
  rw [performs.value]
  cases decided : firstRefusal row with
  | none =>
      left
      exact ⟨rfl, by rw [outcome_of_none decided, statusOf_ok]⟩
  | some refusal =>
      right
      obtain ⟨check, mem, fails⟩ := List.exists_of_findSome?_eq_some decided
      refine ⟨rfl, ?_⟩
      rw [outcome_of_some decided, statusOf_error, TagError.status, refusal.agrees]
      exact neg_lt_zero_of_pos (positive check mem refusal fails)

end SocketAttribution
