import SocketAttribution.Proofs.Charge.Checks

/-!
# The checklist of a charge

What has to hold before a socket is charged, check by check in the documented order, with the calls
that each check makes and the error that it ends with. The numbers are written out as they are
documented, and nothing of the program is used to say them. A request to charge a socket does what
this list says, whatever the tables hold, whatever fails and whatever the socket answers.

## Main definitions

* `Desk.MayChargeOthers`, `Desk.selected?`, `Desk.cookie?`: what the checks look at.
* `checklist`: the checks in their order.
* `removalChecklist`, `usageChecklist`: the checks of the other two requests.
* `Desk.setCharge`: the desk with what a request writes.

## Main statements

* `Tagger.performs_tagSocket`, `Tagger.performs_untagSocket`, `Tagger.performs_usage`: each request
  performs its checklist.
-/

namespace SocketAttribution

open Check ChargeRefusal

namespace Desk

variable (d : Desk)

/-! ## What the checks look at -/

/-- A user may charge others if the entry of his app has the fourth bit, or if his app is the
superuser, the system or the resolver of names. -/
def MayChargeOthers (caller : UInt32) : Prop :=
  (∃ bits : UInt8, d.ask (.permissions (.get (caller % 100000))) = .ok (some bits) ∧
    bits.toNat.testBit 3 = true) ∨
      caller % 100000 = 0 ∨ caller % 100000 = 1000 ∨ caller % 100000 = 1051

instance (caller : UInt32) : Decidable (d.MayChargeOthers caller) :=
  decidable_of_iff (Delegates caller (d.ask (.permissions (.get (caller % 100000))))) delegates_iff

/-- The statistics table that the cell of the configuration selects. -/
def selected? : Option CounterView :=
  match d.ask (.configuration (.get 1)) with
  | .ok (some value) => if value = 0 then some .a else if value = 1 then some .b else none
  | _ => none

/-- The cookie of a socket. -/
def cookie? (socket : Descriptor) : Option UInt64 := (d.ask (.socket (.cookie socket))).toOption

/-- The desk with another charge, or none, under the cookie of a socket. -/
def setCharge (socket : Descriptor) (charge : Option Charge) : Desk :=
  match d.cookie? socket with
  | some cookie => { d with cookieTags := d.cookieTags.put cookie charge }
  | none => d

end Desk

/-! ## The checks -/

namespace Checklist

variable {Tables : Type} (t : Tagger Tables) (r : TagRequest) (socket : Descriptor) (d : Desk)

/-- The tables are open. -/
def tablesOpen : Check :=
  ⟨[], refuseUnless (t.tables.isSome = true) ⟨.permissionDenied, 1, rfl⟩⟩

/-- Who charges somebody else may do so. Who charges himself is asked for nothing. -/
def delegation : Check :=
  if r.chargeUid = r.callerUid then ⟨[], none⟩
  else
    ⟨[.permissions (.get (r.callerUid % 100000))],
      refuseUnless (d.MayChargeOthers r.callerUid) ⟨.permissionDenied, 1, rfl⟩⟩

/-- Nobody charges the user of 464xlat. -/
def notClat : Check :=
  ⟨[], refuseUnless (r.chargeUid ≠ 1029) ⟨.permissionDenied, 1, rfl⟩⟩

def familyRead : Check :=
  ⟨[.socket (.family socket)], ofSocket? (d.ask (.socket (.family socket)))⟩

/-- The family is one of the two of the internet. -/
def familySupported : Check :=
  ⟨[], ofAnswer? (d.ask (.socket (.family socket))) fun family =>
    refuseUnless (family = 2 ∨ family = 10) ⟨.familyUnsupported family, 97, rfl⟩⟩

def protocolRead : Check :=
  ⟨[.socket (.protocol socket)], ofSocket? (d.ask (.socket (.protocol socket)))⟩

/-- The protocol is TCP or UDP. -/
def protocolSupported : Check :=
  ⟨[], ofAnswer? (d.ask (.socket (.protocol socket))) fun protocol =>
    refuseUnless (protocol = 6 ∨ protocol = 17) ⟨.protocolUnsupported protocol, 93, rfl⟩⟩

def cookieRead : Check :=
  ⟨[.socket (.cookie socket)], ofSocket? (d.ask (.socket (.cookie socket)))⟩

def selectorRead : Check :=
  ⟨[.configuration (.get 1)], ofTable? (d.ask (.configuration (.get 1)))⟩

/-- The cell that selects the live table is there. -/
def selectorPresent : Check :=
  ⟨[], match d.ask (.configuration (.get 1)) with
    | .ok none => some ⟨.table ⟨2⟩, 2, rfl⟩
    | _ => none⟩

/-- The cell selects one of the two tables. -/
def selectorKnown : Check :=
  ⟨[], match d.ask (.configuration (.get 1)) with
    | .ok (some value) =>
      refuseUnless (value = 0 ∨ value = 1) ⟨.unknownConfiguration value, 22, rfl⟩
    | _ => none⟩

/-- The selected table can be walked through. -/
def liveScan : Check :=
  match d.selected? with
  | some view => ⟨[.stats view .scan], ofTable? (d.ask (.stats view .scan)).keys⟩
  | none => ⟨[], none⟩

/-- The entries of the selected table, in all and of the user who is charged, are within the limits.
The refusal tells both numbers. -/
def quota : Check :=
  match d.selected? with
  | some view =>
    let total := UInt32.ofNat (d.keys view).length
    let own := UInt32.ofNat ((d.keys view).countP (·.uid = r.chargeUid))
    ⟨[], refuseUnless (total ≤ t.limits.total ∧ own ≤ t.limits.perUid)
      ⟨.quotaExceeded r.chargeUid total own, 24, rfl⟩⟩
  | none => ⟨[], none⟩

/-- The charge can be written. -/
def upsert : Check :=
  match d.cookie? r.socket with
  | some cookie =>
    ⟨[.cookieTags (.upsert cookie ⟨r.chargeUid, r.tag⟩)],
      ofTable? (d.ask (.cookieTags (.upsert cookie ⟨r.chargeUid, r.tag⟩)))⟩
  | none => ⟨[], none⟩

/-- The charge can be removed. -/
def removal : Check :=
  match d.cookie? socket with
  | some cookie =>
    ⟨[.cookieTags (.delete cookie)], ofTable? (d.ask (.cookieTags (.delete cookie)))⟩
  | none => ⟨[], none⟩

end Checklist

open Checklist in
/-- The checks of a request to charge a socket, in their order. -/
def checklist {Tables : Type} (t : Tagger Tables) (r : TagRequest) (d : Desk) : List Check :=
  [
    tablesOpen t, delegation r d, notClat r, familyRead r.socket d, familySupported r.socket d,
    protocolRead r.socket d, protocolSupported r.socket d, cookieRead r.socket d, selectorRead d,
    selectorPresent d, selectorKnown d, liveScan d, quota t r d, upsert r d
  ]

open Checklist in
/-- The checks of a request to remove the charge of a socket. -/
def removalChecklist {Tables : Type} (t : Tagger Tables) (socket : Descriptor) (d : Desk) :
    List Check := [cookieRead socket d, tablesOpen t, removal socket d]

open Checklist in
/-- The checks of a question about the usage. -/
def usageChecklist {Tables : Type} (t : Tagger Tables) (d : Desk) : List Check :=
  [tablesOpen t, selectorRead d, selectorPresent d, selectorKnown d, liveScan d]

/-! ## What requests have in common -/

open Checklist

section Common

variable {Tables : Type} (t : Tagger Tables) (socket : Descriptor) (d : Desk)

theorem Tagger.performs_requireTables : Performs d [tablesOpen t] () d t.requireTables.muted := by
  rw [muted_requireTables]
  apply Performs.ofExcept
  · rw [tablesOpen, outcome_refuseUnless]
  · simp [tablesOpen]

theorem performs_readCookie :
    Performs d [cookieRead socket d] ((d.cookie? socket).getD 0) d (readCookie socket) := by
  apply Performs.demand
  · trivial
  · cases answer : d.ask (.socket (.cookie socket)) with
    | error e =>
        rw [outcome_cons_of_some (by rw [cookieRead, answer]; rfl)]
        rfl
    | ok cookie =>
        rw [outcome_cons_of_none (by rw [cookieRead, answer]; rfl), Desk.cookie?, answer]
        rfl
  · simp [cookieRead]

/-- A socket whose cookie is read has one. -/
theorem cookie_of_passed {socket : Descriptor} {d : Desk}
    (passed : firstRefusal [cookieRead socket d] = none) :
    ∃ cookie, d.cookie? socket = some cookie := by
  rw [firstRefusal_eq_none_iff] at passed
  have read := passed (cookieRead socket d) List.mem_cons_self
  rw [Desk.cookie?]
  cases answer : d.ask (.socket (.cookie socket)) with
  | error e =>
      rw [cookieRead, answer] at read
      cases read
  | ok cookie => exact ⟨cookie, rfl⟩

/-- The selector is one call, and its answer is checked in three ways. -/
theorem performs_selector :
    Performs d [selectorRead d, selectorPresent d, selectorKnown d] (d.selected?.getD .a) d
      (Attempt.demand (.configuration (.get selectorKey)) selectedView) := by
  apply Performs.demand
  · trivial
  · show selectedView (d.ask (.configuration (.get 1))) = _
    cases answer : d.ask (.configuration (.get 1)) with
    | error e =>
        rw [outcome_cons_of_some (by rw [selectorRead, answer]; rfl)]
        rfl
    | ok cell =>
        rw [outcome_cons_of_none (by rw [selectorRead, answer]; rfl)]
        cases cell with
        | none =>
            rw [outcome_cons_of_some (by rw [selectorPresent, answer])]
            rfl
        | some value =>
            rw [outcome_cons_of_none (by rw [selectorPresent, answer]), selectorKnown, answer,
              outcome_refuseUnless, Desk.selected?, answer]
            by_cases first : value = 0
            · simp [selectedView, first]
            by_cases second : value = 1
            · simp [selectedView, second]
            · simp [selectedView, CounterView.ofSelector?, first, second]
  · simp [selectorRead, selectorPresent, selectorKnown, selectorKey]

/-- A selector that passes selects a table. -/
theorem selected_of_passed {d : Desk}
    (passed : firstRefusal [selectorRead d, selectorPresent d, selectorKnown d] = none) :
    ∃ view, d.selected? = some view := by
  rw [firstRefusal_eq_none_iff] at passed
  have read := passed (selectorRead d) (by simp)
  have present := passed (selectorPresent d) (by simp)
  have known := passed (selectorKnown d) (by simp)
  rw [Desk.selected?]
  cases answer : d.ask (.configuration (.get 1)) with
  | error e =>
      rw [selectorRead, answer] at read
      cases read
  | ok cell =>
      cases cell with
      | none =>
          rw [selectorPresent, answer] at present
          cases present
      | some value =>
          rw [selectorKnown, answer] at known
          by_cases first : value = 0
          · exact ⟨.a, by simp [first]⟩
          · have second := (refuseUnless_eq_none_iff.1 known).resolve_left first
            exact ⟨.b, by simp [second]⟩

/-- A walk that fails is refused with its failure. -/
theorem liveScan_of_error {d : Desk} {view : CounterView} {e : TableError}
    (selected : d.selected? = some view) (found : (d.ask (.stats view .scan)).keys = .error e) :
    (liveScan d).refusal = some ⟨.table e, e.code, rfl⟩ := by
  rw [liveScan, selected]
  exact congrArg ofTable? found

/-- A walk that comes to its end passes. -/
theorem liveScan_of_ok {d : Desk} {view : CounterView} {keys : List StatsKey}
    (selected : d.selected? = some view) (found : (d.ask (.stats view .scan)).keys = .ok keys) :
    (liveScan d).refusal = none := by
  rw [liveScan, selected]
  exact congrArg ofTable? found

end Common

/-! ## The parts of a charge perform their checks -/

namespace TagRequest

variable {Tables : Type} (t : Tagger Tables) (r : TagRequest) (d : Desk)

theorem performs_authorise : Performs d [delegation r d] () d r.authorise.muted := by
  rw [muted_authorise, delegation]
  split
  · exact .ofExcept rfl rfl
  · apply Performs.demand
    · trivial
    · rw [outcome_refuseUnless, judgeDelegation]
      exact if_congr delegates_iff rfl rfl
    · rw [callsOf_cons, callsOf_nil, ite_self, List.append_nil]
      rfl

theorem performs_refuseClat : Performs d [notClat r] () d r.refuseClat.muted := by
  rw [muted_refuseClat]
  apply Performs.ofExcept
  · rw [notClat, outcome_refuseUnless, ite_not]
    rfl
  · simp [notClat]

theorem performs_checkFamily :
    Performs d [familyRead r.socket d, familySupported r.socket d] () d r.checkFamily.muted := by
  rw [muted_checkFamily]
  apply Performs.demand
  · trivial
  · rw [familyRead, familySupported, outcome_ofSocket?]
    cases d.ask (.socket (.family r.socket)) with
    | ok family => exact if_congr isSupportedFamily_iff rfl rfl
    | error e => rfl
  · simp [familyRead, familySupported]

theorem performs_checkProtocol :
    Performs d [protocolRead r.socket d, protocolSupported r.socket d] () d
      r.checkProtocol.muted := by
  rw [muted_checkProtocol]
  apply Performs.demand
  · trivial
  · rw [protocolRead, protocolSupported, outcome_ofSocket?]
    cases d.ask (.socket (.protocol r.socket)) with
    | ok protocol => exact if_congr isSupportedProtocol_iff rfl rfl
    | error e => rfl
  · simp [protocolRead, protocolSupported]

/-- The walk is one call, and its answer is checked in two ways. -/
theorem performs_walk {view : CounterView} (selected : d.selected? = some view) :
    Performs d [liveScan d, quota t r d] () d
      (Attempt.demand (.stats view .scan) (judgeWalk t.limits r.chargeUid)) := by
  apply Performs.demand
  · trivial
  · rw [judgeWalk, occupancyOfWalk]
    cases found : (d.ask (.stats view .scan)).keys with
    | error e => rw [outcome_cons_of_some (liveScan_of_error selected found)]
    | ok keys =>
        rw [outcome_cons_of_none (liveScan_of_ok selected found), quota, selected,
          outcome_refuseUnless, Desk.keys_of_walk found]
        rfl
  · simp [liveScan, quota, selected]

theorem performs_checkQuota :
    Performs d
      ([selectorRead d, selectorPresent d, selectorKnown d] ++ [liveScan d, quota t r d]) () d
      (r.checkQuota t.limits).muted := by
  rw [muted_checkQuota]
  refine .bind (performs_selector d) fun passed => ?_
  obtain ⟨view, selected⟩ := selected_of_passed passed
  rw [selected]
  exact performs_walk t r d selected

theorem performs_record {cookie : UInt64} (known : d.cookie? r.socket = some cookie) :
    Performs d [upsert r d] () (d.setCharge r.socket (some r.charge)) (r.record cookie).muted := by
  rw [muted_record, upsert, known, Desk.setCharge, known]
  apply Performs.change
  rcases d.answer_upsert cookie r.charge with ⟨e, refused⟩ | written
  · have answer : d.ask (.cookieTags (.upsert cookie r.charge)) = .error e :=
      congrArg Prod.fst refused
    left
    exact ⟨_, congrArg ofTable? answer, congrArg (Except.mapError TagError.table) answer,
      congrArg Prod.snd refused⟩
  · have answer : d.ask (.cookieTags (.upsert cookie r.charge)) = .ok () :=
      congrArg Prod.fst written
    right
    exact ⟨congrArg ofTable? answer, congrArg (Except.mapError TagError.table) answer,
      congrArg Prod.snd written⟩

end TagRequest

/-! ## Requests perform their checklists -/

namespace Tagger

variable {Tables : Type} (t : Tagger Tables) (d : Desk)

/-- **A request to charge a socket performs the checklist.** -/
theorem performs_tagSocket (r : TagRequest) :
    Performs d (checklist t r d) () (d.setCharge r.socket (some r.charge)) (t.tagSocket r) := by
  apply Performs.of_muted
  rw [muted_tagSocket]
  refine .bind (t.performs_requireTables d) fun _ => ?_
  refine .bind (r.performs_authorise d) fun _ => ?_
  refine .bind (r.performs_refuseClat d) fun _ => ?_
  refine .bind (r.performs_checkFamily d) fun _ => ?_
  refine .bind (r.performs_checkProtocol d) fun _ => ?_
  refine .bind (performs_readCookie r.socket d) fun passed => ?_
  refine .bind (r.performs_checkQuota t d) fun _ => ?_
  obtain ⟨cookie, known⟩ := cookie_of_passed passed
  rw [known]
  exact r.performs_record d known

theorem performs_removal {cookie : UInt64} {socket : Descriptor}
    (known : d.cookie? socket = some cookie) :
    Performs d [removal socket d] () (d.setCharge socket none)
      (Attempt.demand (.cookieTags (.delete cookie)) fun answer =>
        answer.mapError TagError.table) := by
  rw [removal, known, Desk.setCharge, known]
  apply Performs.change
  rcases d.answer_delete cookie with ⟨e, refused⟩ | removed
  · have answer : d.ask (.cookieTags (.delete cookie)) = .error e := congrArg Prod.fst refused
    left
    exact ⟨_, congrArg ofTable? answer, congrArg (Except.mapError TagError.table) answer,
      congrArg Prod.snd refused⟩
  · have answer : d.ask (.cookieTags (.delete cookie)) = .ok () := congrArg Prod.fst removed
    right
    exact ⟨congrArg ofTable? answer, congrArg (Except.mapError TagError.table) answer,
      congrArg Prod.snd removed⟩

/-- **A request to remove a charge performs its checklist.** -/
theorem performs_untagSocket (socket : Descriptor) :
    Performs d (removalChecklist t socket d) () (d.setCharge socket none)
      (t.untagSocket socket) := by
  apply Performs.of_muted
  rw [muted_untagSocket]
  refine .bind (performs_readCookie socket d) fun passed => ?_
  refine .bind (t.performs_requireTables d) fun _ => ?_
  obtain ⟨cookie, known⟩ := cookie_of_passed passed
  rw [known]
  exact performs_removal d known

/-- **A question about the usage performs its checklist**, and is answered with the selected table
and its counts. -/
theorem performs_usage (uid : UInt32) :
    Performs d (usageChecklist t d)
      (d.selected?.getD .a, .ofKeys uid (d.keys (d.selected?.getD .a))) d (t.usage uid) := by
  apply Performs.of_muted
  rw [muted_usage, muted_readOccupancy]
  refine .bind (t.performs_requireTables d) fun _ => ?_
  refine .bind (performs_selector d) fun passed => ?_
  obtain ⟨view, selected⟩ := selected_of_passed passed
  rw [selected, Option.getD_some]
  apply Performs.demand
  · trivial
  · rw [occupancyOfWalk]
    cases found : (d.ask (.stats view .scan)).keys with
    | error e =>
        rw [outcome_cons_of_some (liveScan_of_error selected found)]
        rfl
    | ok keys =>
        rw [outcome_cons_of_none (liveScan_of_ok selected found), Desk.keys_of_walk found]
        rfl
  · simp [liveScan, selected]

end Tagger

end SocketAttribution
