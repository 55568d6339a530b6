import SocketAttribution.Proofs.Charge.LastWriter

/-!
# Where charges come from

Every charge that stands in the table of cookies was either there at first or was written by a
request that was entitled to it when it was made. Nothing that changes later makes it less so, and
nothing that held earlier makes up for what did not hold then.

## Main definitions

* `Entitled`: what holds of a desk when a request is granted on it.
* `Desk.AnswersNoZero`: no socket answers with a cookie of zero.

## Main statements

* `TagRequest.entitled_of_passed`: who passes the checklist is entitled.
* `charge_provenance`: the charges of a session.
-/

namespace SocketAttribution

open Check ChargeRefusal Checklist

variable {Tables : Type} {t : Tagger Tables} {d : Desk} {events : List SessionEvent}

/-! ## Entitlement -/

/-- What holds of a desk when a request to charge a socket is granted on it. -/
structure Entitled (d : Desk) (r : TagRequest) (cookie : UInt64) : Prop where
  /-- The socket answers with the cookie. -/
  answers : d.cookie? r.socket = some cookie
  /-- Nobody hides behind the user of 464xlat. -/
  notClat : r.chargeUid ≠ 1029
  /-- The caller charges himself, or may charge others. -/
  delegated : r.chargeUid = r.callerUid ∨ d.MayChargeOthers r.callerUid
  /-- The socket is of one of the two families of the internet. -/
  family : ∃ family, d.ask (.socket (.family r.socket)) = .ok family ∧ (family = 2 ∨ family = 10)
  /-- The protocol is TCP or UDP. -/
  protocol : ∃ protocol, d.ask (.socket (.protocol r.socket)) = .ok protocol ∧
    (protocol = 6 ∨ protocol = 17)

/-- **Who passes the checklist is entitled.** -/
theorem TagRequest.entitled_of_passed {r : TagRequest}
    (passed : ∀ check ∈ checklist t r d, check.refusal = none) : ∃ cookie, Entitled d r cookie := by
  simp only [checklist, List.forall_mem_cons] at passed
  obtain ⟨-, delegated, clat, familyRead, family, protocolRead, protocol, cookieRead, -⟩ := passed
  obtain ⟨cookie, answers⟩ := cookie_of_passed (firstRefusal_eq_none_iff.2
    (List.forall_mem_singleton.2 cookieRead))
  refine ⟨cookie, answers, refuseUnless_eq_none_iff.1 clat, ?_, ?_, ?_⟩
  · rw [delegation] at delegated
    split at delegated
    · next own => exact .inl own
    · exact .inr (refuseUnless_eq_none_iff.1 delegated)
  · cases answer : d.ask (.socket (.family r.socket)) with
    | error e =>
        rw [Checklist.familyRead, answer] at familyRead
        cases familyRead
    | ok number =>
        rw [familySupported, answer] at family
        exact ⟨number, rfl, refuseUnless_eq_none_iff.1 family⟩
  · cases answer : d.ask (.socket (.protocol r.socket)) with
    | error e =>
        rw [Checklist.protocolRead, answer] at protocolRead
        cases protocolRead
    | ok number =>
        rw [protocolSupported, answer] at protocol
        exact ⟨number, rfl, refuseUnless_eq_none_iff.1 protocol⟩

/-! ## Entries of a replayed ledger -/

theorem Except.eq_ok_of_isOk {ε : Type} {result : Except ε Unit} (h : result.isOk = true) :
    result = .ok () := by
  cases result with
  | ok => rfl
  | error e => cases h

/-- An entry was there before a receipt, or the receipt wrote it. -/
theorem Receipt.entry_of_replay {receipt : Receipt} {ledger : Ledger} {cookie : UInt64}
    {charge : Charge} (entry : receipt.replay ledger cookie = some charge) :
    ledger cookie = some charge ∨
      ∃ socket, receipt.call.writes? = some (socket, some charge) ∧
        receipt.before.cookie? socket = some cookie := by
  rw [replay] at entry
  cases writes : receipt.call.writes? with
  | none =>
      rw [writes] at entry
      exact .inl entry
  | some write =>
      obtain ⟨socket, written⟩ := write
      rw [writes] at entry
      cases known : receipt.before.cookie? socket with
      | none =>
          simp only [known] at entry
          exact .inl entry
      | some other =>
          simp only [known, Function.update_apply] at entry
          split at entry
          · next same =>
              right
              rw [entry, same]
              exact ⟨socket, rfl, known⟩
          · exact .inl entry

/-- An entry was there at first, or some receipt wrote it. -/
theorem entry_of_replay {receipts : List Receipt} {ledger : Ledger} {cookie : UInt64}
    {charge : Charge}
    (entry : receipts.foldl (fun l receipt => receipt.replay l) ledger cookie = some charge) :
    ledger cookie = some charge ∨
      ∃ receipt ∈ receipts, ∃ socket, receipt.call.writes? = some (socket, some charge) ∧
        receipt.before.cookie? socket = some cookie := by
  induction receipts generalizing ledger with
  | nil => exact .inl entry
  | cons receipt later ih =>
      rcases ih entry with first | ⟨other, mem, wrote⟩
      · rcases receipt.entry_of_replay first with before | wrote
        · exact .inl before
        · right
          exact ⟨receipt, List.mem_cons_self, wrote⟩
      · right
        exact ⟨other, List.mem_cons_of_mem _ mem, wrote⟩

/-- Only a request to charge a socket writes a charge. -/
theorem SessionCall.eq_tag_of_writes {c : SessionCall} {socket : Descriptor} {charge : Charge}
    (writes : c.writes? = some (socket, some charge)) :
    ∃ r : TagRequest, c = .request (.tag r) ∧ r.socket = socket ∧
      charge = ⟨r.chargeUid, r.tag⟩ := by
  cases c with
  | request asked =>
      cases asked with
      | tag r =>
          cases writes
          exact ⟨r, rfl, rfl, rfl⟩
      | untag socket => cases writes
  | usage uid => cases writes

/-! ## Sessions -/

/-- No socket answers with a cookie of zero, which would be none. -/
def Desk.AnswersNoZero (d : Desk) : Prop := ∀ socket, d.cookie? socket ≠ some 0

theorem Desk.AnswersNoZero.receipt (held : d.AnswersNoZero) (c : SessionCall) :
    (c.receipt t d).after.AnswersNoZero := by
  rw [c.after_frame]
  exact held

/-- A granted request was entitled to the charge that it wrote. -/
theorem SessionCall.entitled_of_receipt {r : TagRequest} {cookie : UInt64}
    (granted : ((SessionCall.request (.tag r)).receipt t d).outcome = .ok ())
    (answers : d.cookie? r.socket = some cookie) : Entitled d r cookie := by
  have performs := t.performs_tagSocket d r
  obtain ⟨found, entitled⟩ := TagRequest.entitled_of_passed (performs.decidedBy.passed.1 granted)
  have same : cookie = found := Option.some.inj (answers.symm.trans entitled.answers)
  rw [same]
  exact entitled

/-- **Provenance.** Every charge at the end of a session was there at its start or was written by a
request that was granted in the session, on a socket that answered with this cookie and by a caller
who was entitled to it at that moment. No charge ever stands under a cookie of zero or is charged to
the user of 464xlat. -/
theorem charge_provenance (noZero : d.ledger 0 = none)
    (noClat : ∀ cookie charge, d.ledger cookie = some charge → charge.uid ≠ 1029)
    (sockets : d.AnswersNoZero) (changes : ∀ world, .change world ∈ events → world.AnswersNoZero) :
    (∀ cookie charge, (lastDesk t d events).ledger cookie = some charge →
      d.ledger cookie = some charge ∨
        ∃ receipt ∈ receipts t d events, ∃ r : TagRequest, receipt.call = .request (.tag r) ∧
          receipt.outcome = .ok () ∧ charge = ⟨r.chargeUid, r.tag⟩ ∧
            Entitled receipt.before r cookie) ∧
      (lastDesk t d events).ledger 0 = none ∧
      ∀ cookie charge, (lastDesk t d events).ledger cookie = some charge → charge.uid ≠ 1029 := by
  have each : ∀ receipt ∈ receipts t d events,
      ∃ found c, Desk.AnswersNoZero found ∧ receipt = SessionCall.receipt t found c :=
    receipts_induction sockets (fun d c held => held.receipt c)
      fun d world _ mem => changes world mem
  have origin : ∀ cookie charge, (lastDesk t d events).ledger cookie = some charge →
      d.ledger cookie = some charge ∨
        ∃ receipt ∈ receipts t d events, ∃ r : TagRequest, receipt.call = .request (.tag r) ∧
          receipt.outcome = .ok () ∧ charge = ⟨r.chargeUid, r.tag⟩ ∧
            Entitled receipt.before r cookie := by
    intro cookie charge entry
    rw [ledger_lastDesk] at entry
    rcases entry_of_replay entry with first | ⟨receipt, mem, socket, writes, answers⟩
    · exact .inl first
    -- The receipt is of a call that was granted on the desk that it found, so there the checklist
    -- held.
    obtain ⟨mem, granted⟩ := List.mem_filter.1 mem
    obtain ⟨r, call, rfl, rfl⟩ := SessionCall.eq_tag_of_writes writes
    obtain ⟨found, c, -, rfl⟩ := each receipt mem
    obtain rfl : c = .request (.tag r) := call
    have granted := Except.eq_ok_of_isOk granted
    exact .inr ⟨_, mem, r, rfl, granted, rfl, SessionCall.entitled_of_receipt granted answers⟩
  refine ⟨origin, ?_, ?_⟩
  · cases entry : (lastDesk t d events).ledger 0 with
    | none => rfl
    | some charge =>
        rcases origin 0 charge entry with first | ⟨receipt, mem, r, -, -, -, entitled⟩
        · rw [noZero] at first
          cases first
        · obtain ⟨found, c, held, rfl⟩ := each receipt mem
          exact absurd entitled.answers (held r.socket)
  · intro cookie charge entry
    rcases origin cookie charge entry with first | ⟨receipt, mem, r, -, -, rfl, entitled⟩
    · exact noClat cookie charge first
    · exact entitled.notClat

theorem Desk.small_answersNoZero : small.AnswersNoZero := by
  intro socket
  by_cases listed : socket = 3
  · rw [listed]
    decide
  · have unlisted : Desk.small.sockets.lookup socket = none := by
      simp [Desk.small, Desk.empty, listed]
    have answer : (Desk.small.sockets.find socket).cookie =
        .error (.os ErrorCode.badDescriptor) := by
      rw [SocketSheet.find, unlisted]
      rfl
    have unknown : Desk.small.cookie? socket = none := congrArg Except.toOption answer
    rw [unknown]
    exact (Option.some_ne_none 0).symm

/-- A caller charges somebody else by a permission that he loses afterwards. The charge stays, and
so does where it came from. -/
theorem charge_provenance_small :
    let t : Tagger Unit := ⟨some (), .default⟩
    let desk := { Desk.small with permissions := .put (.empty 8) 10077 (some 8) }
    let events : List SessionEvent :=
      [.call (.request (.tag ⟨3, 5, 10000, 10077⟩)), .change Desk.small]
    (lastDesk t desk events).ledger 7 = some ⟨10000, 5⟩ ∧
      ∃ receipt ∈ receipts t desk events, ∃ r : TagRequest, receipt.call = .request (.tag r) ∧
        receipt.outcome = .ok () ∧ (⟨10000, 5⟩ : Charge) = ⟨r.chargeUid, r.tag⟩ ∧
          Entitled receipt.before r 7 := by
  intro t desk events
  have entry : (lastDesk t desk events).ledger 7 = some ⟨10000, 5⟩ := by decide +kernel
  have changes : ∀ world, .change world ∈ events → world.AnswersNoZero := by
    intro world mem
    have same : world = Desk.small := by simpa [events] using mem
    rw [same]
    exact Desk.small_answersNoZero
  have noClat : ∀ cookie charge, desk.ledger cookie = some charge → charge.uid ≠ 1029 := by
    intro cookie charge found
    cases found
  refine ⟨entry, ?_⟩
  rcases (charge_provenance (t := t) rfl noClat Desk.small_answersNoZero changes).1 7 _ entry with
    first | written
  · cases first
  · exact written

end SocketAttribution
