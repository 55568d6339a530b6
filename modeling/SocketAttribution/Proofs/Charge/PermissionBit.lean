import SocketAttribution.Proofs.Charge.Gate
import SocketAttribution.Proofs.Dialogue.Alike

/-!
# The one bit of a permission

Permissions have eight bits for each app, and a request depends on one of them: the fourth bit of
the app behind the caller, and only if somebody else is charged. Whoever keeps the permissions, in
whatever state and with whatever failures, can influence a request by that bit alone.

## Main definitions

* `Answerer`: whoever answers the calls of the tagger.
* `Answerer.permission`, `HasFourthBit`: what is told about an app, and whether its bit is set.
* `Raises`: permissions that are the others with more bits set.
* `Desk.withPermissions`, `Desk.raise`: a desk with another table of permissions, and with more bits
  set in one entry.

## Main statements

* `mayChargeOthers_iff`, `mayChargeOthers_congr`, `mayChargeOthers_mono`: delegation by that bit.
* `Tagger.tagSocket_matches`: who charges himself is served the same under all permissions.
* `delegation_readsOneBit`: all of it.
-/

namespace SocketAttribution

variable {σ τ Tables : Type}

/-! ## Permissions as they are told -/

/-- Whoever answers the calls of the tagger, out of states of some kind. -/
abbrev Answerer (σ : Type) : Type := (call : TagCall) → σ → call.Answer × σ

/-- What is told about the permissions of an app. -/
def Answerer.permission (answer : Answerer σ) (s : σ) (app : UInt32) :
    Except TableError (Option UInt8) :=
  (answer (.permissions (.get app)) s).1

/-- The fourth bit is told to be set. In an absent entry and by a failing read it is not. -/
def HasFourthBit (told : Except TableError (Option UInt8)) : Prop :=
  ∃ bits : UInt8, told = .ok (some bits) ∧ bits.toNat.testBit 3 = true

/-- The apps that charge others without a permission. -/
def NeedsNoPermission (app : UInt32) : Prop := app = 0 ∨ app = 1000 ∨ app = 1051

/-- Every entry that is told of first is told of again, with the same bits set and perhaps more. -/
def Raises (told told' : UInt32 → Except TableError (Option UInt8)) : Prop :=
  ∀ app bits, told app = .ok (some bits) → ∃ more, told' app = .ok (some (bits ||| more))

/-- Bits that are set stay so. -/
theorem HasFourthBit.raise {told told' : UInt32 → Except TableError (Option UInt8)}
    (raises : Raises told told') {app : UInt32} (has : HasFourthBit (told app)) :
    HasFourthBit (told' app) := by
  obtain ⟨bits, found, set⟩ := has
  obtain ⟨more, found'⟩ := raises app bits found
  refine ⟨bits ||| more, found', ?_⟩
  rw [UInt8.toNat_or, Nat.testBit_or, set, Bool.true_or]

/-! ## Delegation -/

section Delegation

variable {answer : Answerer σ} {s : σ} {answer' : Answerer τ} {s' : τ} {caller caller' : UInt32}

/-- One question is asked, and it is about the app behind the caller. -/
theorem calls_mayChargeOthers :
    ((mayChargeOthers caller).run answer s).calls =
      [.permissions (.get (caller % 100000))] := by
  have quiet := Dialogue.run_muted answer (mayChargeOthers caller) s
  rw [muted_mayChargeOthers] at quiet
  exact (congrArg Transcript.calls quiet).symm

/-- **Who may charge others**: the apps whose fourth bit is set, and those that need none. -/
theorem mayChargeOthers_iff :
    ((mayChargeOthers caller).run answer s).value = true ↔
      HasFourthBit (answer.permission s (caller % 100000)) ∨
        NeedsNoPermission (caller % 100000) := by
  have quiet := Dialogue.run_muted answer (mayChargeOthers caller) s
  rw [muted_mayChargeOthers] at quiet
  rw [← congrArg Transcript.value quiet]
  show decide (Delegates caller _) = true ↔ _
  rw [decide_eq_true_iff, delegates_iff]
  rfl

/-- **Callers of one app whose bit is told alike may do the same.** -/
theorem mayChargeOthers_congr (app : caller % 100000 = caller' % 100000)
    (agree : HasFourthBit (answer.permission s (caller % 100000)) ↔
      HasFourthBit (answer'.permission s' (caller % 100000))) :
    ((mayChargeOthers caller).run answer s).value =
      ((mayChargeOthers caller').run answer' s').value := by
  rw [Bool.eq_iff_iff, mayChargeOthers_iff, mayChargeOthers_iff, ← app, agree]

/-- **More bits take nothing away.** -/
theorem mayChargeOthers_mono (raises : Raises (answer.permission s) (answer'.permission s'))
    (may : ((mayChargeOthers caller).run answer s).value = true) :
    ((mayChargeOthers caller).run answer' s').value = true := by
  rw [mayChargeOthers_iff] at may ⊢
  exact may.imp_left fun has => has.raise raises

end Delegation

/-! ## Charges to oneself -/

/-- A call on the table of permissions. -/
def TagCall.OnPermissions : TagCall → Prop
  | .permissions _ => True
  | _ => False

/-- Who charges himself is asked for no permission, whatever the tables hold. -/
theorem Tagger.asks_tagSocket_of_own (t : Tagger Tables) {r : TagRequest}
    (own : r.chargeUid = r.callerUid) :
    (t.tagSocket r).run.Asks fun call => ¬ call.OnPermissions := by
  rw [← Dialogue.asks_muted, ← Attempt.run_muted, muted_tagSocket, r.muted_refuseClat,
    r.muted_checkFamily, r.muted_checkProtocol, r.muted_checkQuota]
  refine Attempt.asks_bind t.asks_requireTables fun _ => Attempt.asks_bind ?authorise fun _ => ?_
  case authorise =>
    rw [r.muted_authorise, if_pos own]
    exact Dialogue.asks_done _ _
  refine Attempt.asks_bind (Attempt.asks_ofExcept _) fun _ => ?_
  refine Attempt.asks_bind (Attempt.asks_demand id) fun _ => ?_
  refine Attempt.asks_bind (Attempt.asks_demand id) fun _ => ?_
  refine Attempt.asks_bind (Attempt.asks_demand id) fun cookie => ?_
  refine Attempt.asks_bind ?quota fun _ => ?_
  case quota => exact Attempt.asks_bind (Attempt.asks_demand id) fun _ => Attempt.asks_demand id
  rw [r.muted_record]
  exact Attempt.asks_demand id

/-- **Who charges himself is served the same** by all that differ in permissions at most. -/
theorem Tagger.tagSocket_matches (t : Tagger Tables) {r : TagRequest}
    (own : r.chargeUid = r.callerUid) {answer : Answerer σ} {answer' : Answerer τ}
    {R : σ → τ → Prop}
    (alike : AnswerAlike (fun call : TagCall => ¬ call.OnPermissions) answer answer' R) {s : σ}
    {s' : τ} (related : R s s') :
    ((t.tagSocket r).run.run answer s).Matches R ((t.tagSocket r).run.run answer' s') :=
  (t.asks_tagSocket_of_own own).run_matches alike related

/-! ## Desks that differ in their permissions -/

namespace Desk

/-- The desk with another table of permissions. -/
def withPermissions (d : Desk) (table : FaultyTable UInt32 UInt8) : Desk :=
  { d with permissions := table }

/-- The desk with more bits set in the entry of an app, which is made if it is not there. -/
def raise (d : Desk) (app : UInt32) (more : UInt8) : Desk :=
  d.withPermissions <|
    d.permissions.put app (some ((d.permissions.table.entries.get? app).getD 0 ||| more))

/-- Calls on anything but permissions do not look at them. -/
theorem answer_withPermissions (table : FaultyTable UInt32 UInt8) (call : TagCall)
    (off : ¬ call.OnPermissions) (d : Desk) :
    answer call (d.withPermissions table) = (answer call d).map id (withPermissions · table) := by
  cases call with
  | stats view call => cases view <;> rfl
  | configuration call => rfl
  | permissions call => exact absurd trivial off
  | cookieTags call => rfl
  | socket query => rfl

theorem permission_eq (d : Desk) (app : UInt32) :
    Answerer.permission answer d app =
      match d.permissions.faults.get with
      | some code => .error ⟨code⟩
      | none => .ok (d.permissions.table.entries.get? app) := by
  show (FaultyTable.answer (.get app) d.permissions).1 = _
  rw [FaultyTable.answer]
  cases d.permissions.faults.get <;> rfl

theorem get?_raise (d : Desk) (app : UInt32) (more : UInt8) (other : UInt32) :
    (d.raise app more).permissions.table.entries.get? other =
      if app = other then some ((d.permissions.table.entries.get? app).getD 0 ||| more)
      else d.permissions.table.entries.get? other :=
  Entries.get?_put ..

/-- Setting bits in an entry raises the permissions. -/
theorem raises_raise (d : Desk) (app : UInt32) (more : UInt8) :
    Raises (Answerer.permission answer d) (Answerer.permission answer (d.raise app more)) := by
  intro other bits found
  have faults : (d.raise app more).permissions.faults = d.permissions.faults := rfl
  rw [permission_eq] at found ⊢
  rw [faults, get?_raise]
  cases fault : d.permissions.faults.get with
  | some code =>
      rw [fault] at found
      cases found
  | none =>
      rw [fault] at found
      have entry : d.permissions.table.entries.get? other = some bits := Except.ok.inj found
      by_cases same : app = other
      · exact ⟨more, by rw [if_pos same, same, entry]; rfl⟩
      · exact ⟨0, by rw [if_neg same, entry, UInt8.or_zero]⟩

end Desk

/-! ## One bit -/

/-- **Delegation reads one bit, and a charge to oneself reads none.** Whoever answers, only the app
behind the caller is asked about, and it may charge others if and only if its fourth bit is set or
it is one of the three that need no permission. Callers of one app whose bit is told alike may do
the same, and more bits take nothing away. A request to charge oneself has the same outcome, calls,
log and final state under any two tables of permissions, also under those that fail. -/
theorem delegation_readsOneBit (t : Tagger Tables) (answer : Answerer σ) (answer' : Answerer τ)
    (s : σ) (s' : τ) :
    (∀ caller : UInt32,
      ((mayChargeOthers caller).run answer s).calls = [.permissions (.get (caller % 100000))] ∧
        (((mayChargeOthers caller).run answer s).value = true ↔
          HasFourthBit (answer.permission s (caller % 100000)) ∨
            NeedsNoPermission (caller % 100000))) ∧
    (∀ caller caller' : UInt32, caller % 100000 = caller' % 100000 →
      (HasFourthBit (answer.permission s (caller % 100000)) ↔
        HasFourthBit (answer'.permission s' (caller % 100000))) →
      ((mayChargeOthers caller).run answer s).value =
        ((mayChargeOthers caller').run answer' s').value) ∧
    (∀ caller : UInt32, Raises (answer.permission s) (answer'.permission s') →
      ((mayChargeOthers caller).run answer s).value = true →
        ((mayChargeOthers caller).run answer' s').value = true) ∧
    (∀ (d : Desk) (app : UInt32) (more : UInt8) (caller : UInt32),
      ((mayChargeOthers caller).run Desk.answer d).value = true →
        ((mayChargeOthers caller).run Desk.answer (d.raise app more)).value = true) ∧
    (∀ (r : TagRequest) (R : σ → τ → Prop), r.chargeUid = r.callerUid →
      AnswerAlike (fun call : TagCall => ¬ call.OnPermissions) answer answer' R → R s s' →
        ((t.tagSocket r).run.run answer s).Matches R ((t.tagSocket r).run.run answer' s')) ∧
    ∀ (r : TagRequest) (d : Desk) (table table' : FaultyTable UInt32 UInt8),
      r.chargeUid = r.callerUid →
        ((t.tagSocket r).run.run Desk.answer (d.withPermissions table)).Matches
          (fun last last' =>
            ∃ e : Desk, last = e.withPermissions table ∧ last' = e.withPermissions table')
          ((t.tagSocket r).run.run Desk.answer (d.withPermissions table')) := by
  refine ⟨?_, ?_, ?_, ?_, ?_, ?_⟩
  · intro caller
    exact ⟨calls_mayChargeOthers, mayChargeOthers_iff⟩
  · intro caller caller' app agree
    exact mayChargeOthers_congr app agree
  · intro caller raises may
    exact mayChargeOthers_mono raises may
  · intro d app more caller may
    exact mayChargeOthers_mono (d.raises_raise app more) may
  · intro r R own alike related
    exact t.tagSocket_matches own alike related
  · intro r d table table' own
    have alike := answerAlike_of_aside (Desk.answer_withPermissions table)
      (Desk.answer_withPermissions table')
    exact t.tagSocket_matches own alike ⟨d, rfl, rfl⟩

/-- Two users of one app, whose entry has the fourth bit on both desks, and one who charges himself
where permissions cannot be read. -/
theorem delegation_readsOneBit_small :
    let t : Tagger Unit := ⟨some (), .default⟩
    let thin := Desk.small.raise 10077 8
    let thick := Desk.small.raise 10077 13
    let broken : FaultyTable UInt32 UInt8 := ⟨.empty 8, ⟨some 5, some 5, some 5, some 5⟩⟩
    let own : TagRequest := ⟨3, 5, 10077, 10077⟩
    ((mayChargeOthers 10077).run Desk.answer thin).value = true ∧
      ((mayChargeOthers 10077).run Desk.answer thin).value =
        ((mayChargeOthers 110077).run Desk.answer thick).value ∧
      ((t.tagSocket own).run.run Desk.answer (Desk.small.withPermissions broken)).value = .ok () ∧
      ((t.tagSocket own).run.run Desk.answer (Desk.small.withPermissions broken)).Matches
        (fun last last' => ∃ e : Desk, last = e.withPermissions broken ∧
          last' = e.withPermissions thick.permissions)
        ((t.tagSocket own).run.run Desk.answer
          (Desk.small.withPermissions thick.permissions)) := by
  intro t thin thick broken own
  obtain ⟨-, agreeing, -, -, -, charging⟩ :=
    delegation_readsOneBit t Desk.answer Desk.answer thin thick
  have set : HasFourthBit (Answerer.permission Desk.answer thin (10077 % 100000)) :=
    ⟨8, by rfl, by decide⟩
  have set' : HasFourthBit (Answerer.permission Desk.answer thick (10077 % 100000)) :=
    ⟨13, by rfl, by decide⟩
  refine ⟨by decide +kernel, ?_, by decide +kernel, ?_⟩
  · exact agreeing 10077 110077 (by decide) (iff_of_true set set')
  · exact charging own Desk.small broken thick.permissions rfl

end SocketAttribution
