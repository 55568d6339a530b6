import SocketAttribution.Proofs.Charge.ErrorNumbers
import SocketAttribution.Proofs.Charge.Session

/-!
# The last writer decides

Whoever only sees which calls returned zero can keep the books himself: the charges of the tagger
are those of an abstract ledger to which each successful charge is written under the cookie of its
socket, and from which each successful removal takes one. All other calls leave the charges as they
are, and no call touches another table.

## Main statements

* `SessionCall.receipt_cases`: a call returns zero and does what it says, or returns less and does
  nothing.
* `session_refines_ledger`: a whole session.
-/

namespace SocketAttribution

open Check

variable {Tables : Type} {t : Tagger Tables} {d : Desk} {events : List SessionEvent}

/-! ## What calls leave alone -/

theorem Desk.setCharge_frame (d : Desk) (socket : Descriptor) (charge : Option Charge) :
    d.setCharge socket charge =
      { d with cookieTags := (d.setCharge socket charge).cookieTags } := by
  rw [setCharge]
  cases d.cookie? socket <;> rfl

theorem Desk.faults_setCharge (d : Desk) (socket : Descriptor) (charge : Option Charge) :
    (d.setCharge socket charge).cookieTags.faults = d.cookieTags.faults := by
  rw [setCharge]
  cases d.cookie? socket with
  | none => rfl
  | some cookie => cases charge <;> rfl

/-- A call changes nothing but the charges. -/
theorem SessionCall.changed_frame (c : SessionCall) (d : Desk) :
    c.changed d = { d with cookieTags := (c.changed d).cookieTags } := by
  rw [changed]
  cases c.writes? with
  | none => rfl
  | some write => exact d.setCharge_frame write.1 write.2

theorem SessionCall.faults_changed (c : SessionCall) (d : Desk) :
    (c.changed d).cookieTags.faults = d.cookieTags.faults := by
  rw [changed]
  cases c.writes? with
  | none => rfl
  | some write => exact d.faults_setCharge write.1 write.2

namespace Desk.FaultsPositive

theorem changed (positive : d.FaultsPositive) (c : SessionCall) : (c.changed d).FaultsPositive := by
  obtain ⟨stats, configuration, permissions, cookieTags, sockets⟩ := positive
  rw [← c.faults_changed d] at cookieTags
  rw [c.changed_frame d]
  refine ⟨fun view => ?_, configuration, permissions, cookieTags, sockets⟩
  cases view with
  | a => exact stats .a
  | b => exact stats .b

theorem receipt (positive : d.FaultsPositive) (c : SessionCall) :
    (c.receipt t d).after.FaultsPositive := by
  rw [c.after_receipt]
  split
  · exact positive.changed c
  · exact positive

/-- Only the charges are kept when the world changes, and they have no failures. -/
theorem inWorld {world : Desk} (positive : world.FaultsPositive) :
    (d.inWorld world).FaultsPositive where
  stats := positive.stats
  configuration := positive.configuration
  permissions := positive.permissions
  cookieTags := positive.cookieTags
  sockets := positive.sockets

end Desk.FaultsPositive

/-! ## Calls -/

/-- The checks of every call refuse with positive numbers. -/
theorem SessionCall.row_positive (positive : d.FaultsPositive) (c : SessionCall) :
    ∀ check ∈ c.row t d, check.Positive := by
  cases c with
  | request asked =>
      cases asked with
      | tag r => exact checklist_positive t positive r
      | untag socket => exact removalChecklist_positive t positive socket
  | usage uid => exact usageChecklist_positive t positive

/-- A call that passes its checks finds the cookie under which it writes. -/
theorem SessionCall.cookie_of_passed {c : SessionCall} (passed : firstRefusal (c.row t d) = none)
    {socket : Descriptor} {charge : Option Charge} (writes : c.writes? = some (socket, charge)) :
    ∃ cookie, d.cookie? socket = some cookie := by
  have read : firstRefusal [Checklist.cookieRead socket d] = none := by
    rw [firstRefusal_eq_none_iff] at passed ⊢
    intro check mem
    rcases List.mem_singleton.1 mem with rfl
    cases c with
    | request asked =>
        cases asked with
        | tag r =>
            cases writes
            exact passed _ (by simp [row, checklist])
        | untag socket =>
            cases writes
            exact passed _ (by simp [row, removalChecklist])
    | usage uid => cases writes
  exact SocketAttribution.cookie_of_passed read

/-- **A call returns zero and does what it says, or returns less and does nothing.** -/
theorem SessionCall.receipt_cases (positive : d.FaultsPositive) (c : SessionCall) :
    (firstRefusal (c.row t d) = none ∧ (c.receipt t d).status = 0 ∧
        (c.receipt t d).outcome.isOk = true) ∨
      (firstRefusal (c.row t d) ≠ none ∧ (c.receipt t d).status < 0 ∧
        (c.receipt t d).outcome.isOk = false ∧ (c.receipt t d).after = d) := by
  have performs := c.performs t d
  have ends : (c.receipt t d).outcome = outcome (c.row t d) () := performs.value
  rcases performs.status_cases (c.row_positive positive) with ⟨passed, zero⟩ | ⟨refused, below⟩
  · have ok : (c.receipt t d).outcome.isOk = true := by
      rw [ends, outcome_of_none passed]
      rfl
    exact .inl ⟨passed, zero, ok⟩
  · obtain ⟨refusal, refused⟩ := Option.isSome_iff_exists.1 refused
    have fails : (c.receipt t d).outcome.isOk = false := by
      rw [ends, outcome_of_some refused]
      rfl
    refine .inr ⟨?_, below, fails, by rw [c.after_receipt, fails]; rfl⟩
    rw [refused]
    exact Option.some_ne_none refusal

/-- A removal succeeds whether there is a charge or not, unless it cannot be asked for. -/
theorem SessionCall.untag_passes {socket : Descriptor} {cookie : UInt64}
    (opened : t.tables.isSome = true) (known : d.cookie? socket = some cookie)
    (free : d.cookieTags.faults.delete = none) :
    firstRefusal ((SessionCall.request (.untag socket)).row t d) = none := by
  have read : (Checklist.cookieRead socket d).refusal = none := by
    rw [Desk.cookie?] at known
    rw [Checklist.cookieRead]
    cases answer : d.ask (.socket (.cookie socket)) with
    | ok value => rfl
    | error e =>
        rw [answer] at known
        cases known
  have removed : (Checklist.removal socket d).refusal = none := by
    have answer : (FaultyTable.answer (.delete cookie) d.cookieTags).1 = .ok () := by
      rw [FaultyTable.answer, free]
      rfl
    rw [Checklist.removal, known]
    exact congrArg ChargeRefusal.ofTable? answer
  have opens : (Checklist.tablesOpen t).refusal = none :=
    ChargeRefusal.refuseUnless_eq_none_iff.2 opened
  rw [row, removalChecklist, firstRefusal_cons, firstRefusal_cons, firstRefusal_cons, read, opens,
    removed]
  rfl

/-- A call changes no table but that of the charges. -/
theorem SessionCall.after_frame (t : Tagger Tables) (d : Desk) (c : SessionCall) :
    (c.receipt t d).after = { d with cookieTags := (c.receipt t d).after.cookieTags } := by
  rw [c.after_receipt]
  split
  · exact c.changed_frame d
  · rfl

/-! ## Sessions -/

/-- **The books of a session.** Whatever the callers ask and whatever else changes in between, the
charges at the end are those at the start with what the calls wrote that returned zero: each charge
under the cookie that its socket answered with, and no charge there for each removal. Every call
returns zero or less than zero; if less, it left the charges as they were, and in no case did it
change anything else. A removal does not fail for want of a charge. -/
theorem session_refines_ledger (positive : d.FaultsPositive)
    (changes : ∀ world, .change world ∈ events → world.FaultsPositive) :
    (lastDesk t d events).ledger =
        ((receipts t d events).filter (·.status = 0)).foldl (fun l receipt => receipt.replay l)
          d.ledger ∧
      ∀ receipt ∈ receipts t d events,
        (receipt.status = 0 ∨ receipt.status < 0) ∧
        (receipt.status = 0 → ∀ socket charge, receipt.call.writes? = some (socket, charge) →
          ∃ cookie, receipt.before.cookie? socket = some cookie) ∧
        (∀ socket cookie, receipt.call = .request (.untag socket) → t.tables.isSome = true →
          receipt.before.cookie? socket = some cookie →
            receipt.before.cookieTags.faults.delete = none → receipt.status = 0) ∧
        (receipt.status ≠ 0 → receipt.after.cookieTags = receipt.before.cookieTags) ∧
        receipt.after = { receipt.before with cookieTags := receipt.after.cookieTags } := by
  have each : ∀ receipt ∈ receipts t d events,
      ∃ found c, Desk.FaultsPositive found ∧ receipt = SessionCall.receipt t found c :=
    receipts_induction positive (fun d c held => held.receipt c)
      fun d world held mem => (changes world mem).inWorld
  constructor
  · rw [ledger_lastDesk]
    -- The calls that returned zero are those that succeeded, since error numbers are positive.
    refine congrArg (List.foldl _ _) (List.filter_congr fun receipt mem => ?_)
    obtain ⟨found, c, held, rfl⟩ := each receipt mem
    rcases c.receipt_cases held with ⟨-, zero, ok⟩ | ⟨-, below, fails, -⟩
    · rw [ok, zero]
      rfl
    · rw [fails]
      exact (decide_eq_false (Int32.ne_of_lt below)).symm
  · intro receipt mem
    obtain ⟨found, c, held, rfl⟩ := each receipt mem
    refine ⟨?_, ?_, ?_, ?_, c.after_frame t found⟩
    · rcases c.receipt_cases held with ⟨-, zero, -⟩ | ⟨-, below, -⟩
      · exact .inl zero
      · exact .inr below
    · intro zero socket charge writes
      rcases c.receipt_cases held with ⟨passed, -, -⟩ | ⟨-, below, -⟩
      · exact c.cookie_of_passed passed writes
      · exact absurd zero (Int32.ne_of_lt below)
    · intro socket cookie untags opened known free
      obtain rfl : c = .request (.untag socket) := untags
      have passes := SessionCall.untag_passes opened known free
      rcases SessionCall.receipt_cases held (.request (.untag socket)) with
        ⟨-, zero, -⟩ | ⟨fails, -⟩
      · exact zero
      · exact absurd passes fails
    · intro fails
      rcases c.receipt_cases held with ⟨-, zero, -⟩ | ⟨-, -, -, same⟩
      · exact absurd zero fails
      · rw [same]
        rfl

theorem Desk.small_faultsPositive : small.FaultsPositive where
  stats view := by cases view <;> exact TableFaults.none_positive
  configuration := TableFaults.none_positive
  permissions := TableFaults.none_positive
  cookieTags := TableFaults.none_positive
  sockets := by
    intro entry mem
    rcases List.mem_singleton.1 mem with rfl
    intro e fails
    simp at fails

/-- A charge, then one that fails because the table does, and a question about the usage. -/
theorem session_refines_ledger_small :
    let t : Tagger Unit := ⟨some (), .default⟩
    let busy := Desk.small.setFaults (fun faults => { faults with upsert := some 5 }) .cookieTags
    let events : List SessionEvent := [.call (.request (.tag ⟨3, 5, 10000, 10000⟩)), .change busy,
      .call (.request (.tag ⟨3, 6, 10000, 10000⟩)), .call (.usage 10000)]
    (receipts t Desk.small events).map (·.status) = [0, -5, 0] ∧
      (lastDesk t Desk.small events).ledger 7 = some ⟨10000, 5⟩ ∧
      (lastDesk t Desk.small events).ledger =
        ((receipts t Desk.small events).filter (·.status = 0)).foldl
          (fun l receipt => receipt.replay l) Desk.small.ledger := by
  intro t busy events
  have changes : ∀ world, .change world ∈ events → world.FaultsPositive := by
    intro world mem
    have same : world = busy := by simpa [events] using mem
    rw [same]
    refine { Desk.small_faultsPositive with stats := ?_, cookieTags := ?_ }
    · intro view
      cases view <;> exact TableFaults.none_positive
    · intro code fault
      have five : 5 = code := by
        simpa [busy, Desk.setFaults, Desk.small, Desk.empty, FaultyTable.empty,
          TableFaults.none] using fault
      rw [← five]
      decide
  refine ⟨by decide +kernel, by decide +kernel, ?_⟩
  exact (session_refines_ledger Desk.small_faultsPositive changes).1

end SocketAttribution
