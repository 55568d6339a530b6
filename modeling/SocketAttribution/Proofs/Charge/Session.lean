import SocketAttribution.Proofs.Charge.Checklist
import Mathlib.Logic.Function.Basic

/-!
# Sessions

A session is what happens to one tagger in the course of time: callers ask for charges, removals and
the usage, one after another, and in between everything around the tagger may change, except that
nobody else writes charges. This module runs sessions and keeps a receipt of every call. The charges
at the end are what the receipts of the calls that succeeded say, one after another.

## Main definitions

* `Desk.ledger`: the charges of a desk by cookies.
* `SessionCall`, `SessionEvent`: what happens in a session.
* `Receipt`: a call with the desk that it found, its outcome and the desk that it left.
* `receipts`, `lastDesk`: what a session leaves.
* `Receipt.replay`: what a receipt does to a ledger.

## Main statements

* `SessionCall.performs`: every call performs a row of checks.
* `receipts_induction`: what holds of the desk at first, and through calls and changes, holds of the
  desk that any call finds.
* `ledger_lastDesk`: the charges at the end are those of the receipts.
-/

namespace SocketAttribution

open Check

variable {Tables : Type}

/-! ## Ledgers -/

/-- Charges by cookies. -/
abbrev Ledger := UInt64 → Option Charge

namespace Desk

/-- The charges of a desk. -/
def ledger (d : Desk) : Ledger := d.cookieTags.table.entries.get?

/-- The desk in another world: only its charges are its own. -/
def inWorld (d world : Desk) : Desk :=
  let table := { world.cookieTags.table with entries := d.cookieTags.table.entries }
  { world with cookieTags := { world.cookieTags with table := table } }

@[simp] theorem ledger_inWorld (d world : Desk) : (d.inWorld world).ledger = d.ledger := rfl

/-- A charge that is written or removed is written to the ledger, or removed from it. -/
theorem ledger_setCharge (d : Desk) (socket : Descriptor) (charge : Option Charge) :
    (d.setCharge socket charge).ledger =
      match d.cookie? socket with
      | some cookie => Function.update d.ledger cookie charge
      | none => d.ledger := by
  rw [setCharge]
  cases d.cookie? socket with
  | none => rfl
  | some cookie =>
      funext other
      show _ = Function.update d.ledger cookie charge other
      rw [Function.update_apply]
      cases charge with
      | none =>
          show (d.cookieTags.table.entries.erase cookie).get? other = _
          rw [Entries.get?_erase]
          exact if_congr eq_comm rfl rfl
      | some charge =>
          show (d.cookieTags.table.entries.put _ cookie charge).get? other = _
          rw [Entries.get?_put]
          exact if_congr eq_comm rfl rfl

end Desk

/-! ## Calls -/

/-- What callers ask of the tagger. -/
inductive SessionCall where
  | request (request : Request)
  | usage (uid : UInt32)
  deriving DecidableEq, Repr

namespace SessionCall

/-- What the tagger does about a call. Of the usage only matters here whether it was told. -/
def work (t : Tagger Tables) : SessionCall → TagAttempt Unit
  | .request asked => asked.work t
  | .usage uid => t.usage uid >>= fun _ => pure ()

/-- The socket and the charge, or none, that a call is to write. -/
def writes? : SessionCall → Option (Descriptor × Option Charge)
  | .request (.tag r) => some (r.socket, some ⟨r.chargeUid, r.tag⟩)
  | .request (.untag socket) => some (socket, none)
  | .usage _ => none

/-- The desk with what a call is to write. -/
def changed (c : SessionCall) (d : Desk) : Desk :=
  match c.writes? with
  | some (socket, charge) => d.setCharge socket charge
  | none => d

/-- The checks of a call. -/
def row (t : Tagger Tables) (d : Desk) : SessionCall → List Check
  | .request (.tag r) => checklist t r d
  | .request (.untag socket) => removalChecklist t socket d
  | .usage _ => usageChecklist t d

/-- **Every call performs a row of checks.** -/
theorem performs (t : Tagger Tables) (d : Desk) (c : SessionCall) :
    Performs d (c.row t d) () (c.changed d) (c.work t) := by
  cases c with
  | request asked =>
      cases asked with
      | tag r => exact t.performs_tagSocket d r
      | untag socket => exact t.performs_untagSocket d socket
  | usage uid =>
      have silent : Performs d [] () d (pure () : TagAttempt Unit) := .ofExcept rfl rfl
      have both : Performs d (usageChecklist t d ++ []) () d ((SessionCall.usage uid).work t) :=
        (t.performs_usage d uid).bind fun _ => silent
      rw [List.append_nil] at both
      exact both

end SessionCall

/-! ## Sessions -/

/-- What happens in a session. -/
inductive SessionEvent where
  /-- A caller asks for something. -/
  | call (c : SessionCall)
  /-- Everything changes but the charges. -/
  | change (world : Desk)

/-- A call with the desk that it found, its outcome and the desk that it left. -/
structure Receipt where
  call : SessionCall
  before : Desk
  outcome : Except TagError Unit
  after : Desk

namespace Receipt

/-- The number that the caller got. -/
def status (receipt : Receipt) : Int32 := statusOf receipt.outcome

/-- What a receipt does to a ledger: the charge, or none, stands under the cookie that the socket
answered with. -/
def replay (receipt : Receipt) (ledger : Ledger) : Ledger :=
  match receipt.call.writes? with
  | some (socket, charge) =>
    match receipt.before.cookie? socket with
    | some cookie => Function.update ledger cookie charge
    | none => ledger
  | none => ledger

section Replay

variable {receipt : Receipt} {socket : Descriptor} {charge : Option Charge}

theorem replay_of_cookie (writes : receipt.call.writes? = some (socket, charge)) {cookie : UInt64}
    (known : receipt.before.cookie? socket = some cookie) (ledger : Ledger) :
    receipt.replay ledger = Function.update ledger cookie charge := by
  simp only [replay, writes, known]

theorem replay_of_unknown (writes : receipt.call.writes? = some (socket, charge))
    (unknown : receipt.before.cookie? socket = none) (ledger : Ledger) :
    receipt.replay ledger = ledger := by
  simp only [replay, writes, unknown]

end Replay

end Receipt

/-- The receipt of a call. -/
def SessionCall.receipt (t : Tagger Tables) (d : Desk) (c : SessionCall) : Receipt :=
  let run := (c.work t).run.run Desk.answer d
  ⟨c, d, run.value, run.state⟩

/-- The receipts of the calls of a session. -/
def receipts (t : Tagger Tables) : Desk → List SessionEvent → List Receipt
  | _, [] => []
  | d, .call c :: later => c.receipt t d :: receipts t (c.receipt t d).after later
  | d, .change world :: later => receipts t (d.inWorld world) later

/-- The desk at the end of a session. -/
def lastDesk (t : Tagger Tables) : Desk → List SessionEvent → Desk
  | d, [] => d
  | d, .call c :: later => lastDesk t (c.receipt t d).after later
  | d, .change world :: later => lastDesk t (d.inWorld world) later

variable {t : Tagger Tables} {d : Desk} {events : List SessionEvent}

/-- A call that fails leaves the desk as it is. -/
theorem SessionCall.after_receipt (t : Tagger Tables) (d : Desk) (c : SessionCall) :
    (c.receipt t d).after = if (c.receipt t d).outcome.isOk then c.changed d else d := by
  have performs := c.performs t d
  have ends : (c.receipt t d).outcome = outcome (c.row t d) () := performs.value
  have left : (c.receipt t d).after =
      if (firstRefusal (c.row t d)).isSome then d else c.changed d := performs.state
  rw [left, ends, outcome]
  cases firstRefusal (c.row t d) <;> rfl

/-- **What a call does to the charges** is what its receipt says. -/
theorem SessionCall.ledger_after (t : Tagger Tables) (d : Desk) (c : SessionCall) :
    (c.receipt t d).after.ledger =
      if (c.receipt t d).outcome.isOk then (c.receipt t d).replay d.ledger else d.ledger := by
  rw [after_receipt]
  split
  · simp only [changed, Receipt.replay, receipt]
    cases c.writes? with
    | none => rfl
    | some write => exact d.ledger_setCharge write.1 write.2
  · rfl

/-- **What holds of the desk at first, and through calls and changes, holds of the desk that any
call finds.** Its receipt is that of the call on this desk. -/
theorem receipts_induction {P : Desk → Prop} (start : P d)
    (calls : ∀ d c, P d → P (SessionCall.receipt t d c).after)
    (changes : ∀ d world, P d → .change world ∈ events → P (d.inWorld world)) :
    ∀ receipt ∈ receipts t d events,
      ∃ found c, P found ∧ receipt = SessionCall.receipt t found c := by
  -- The desk moves along with the events, so what is shown of it has to be shown of every desk.
  induction events generalizing d with
  | nil =>
      intro receipt mem
      cases mem
  | cons event later ih =>
      have onward := fun d world held mem => changes d world held (List.mem_cons_of_mem event mem)
      intro receipt mem
      cases event with
      | call c =>
          rcases List.mem_cons.1 mem with rfl | mem
          · exact ⟨d, c, start, rfl⟩
          · exact ih (calls d c start) onward receipt mem
      | change world =>
          exact ih (changes d world start List.mem_cons_self) onward receipt mem

/-- **The charges at the end of a session** are those at its start with the receipts of the calls
that succeeded, one after another. -/
theorem ledger_lastDesk :
    (lastDesk t d events).ledger =
      ((receipts t d events).filter (·.outcome.isOk)).foldl (fun l receipt => receipt.replay l)
        d.ledger := by
  induction events generalizing d with
  | nil => rfl
  | cons event later ih =>
      cases event with
      | change world =>
          rw [lastDesk, receipts, ih, Desk.ledger_inWorld]
      | call c =>
          rw [lastDesk, receipts, ih, c.ledger_after, List.filter_cons]
          split <;> rfl

end SocketAttribution
