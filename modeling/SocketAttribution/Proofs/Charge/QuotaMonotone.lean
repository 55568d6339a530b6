import SocketAttribution.Proofs.Charge.LiveCount
import SocketAttribution.Proofs.Charge.Precedence
import SocketAttribution.Proofs.Charge.Serialization
import SocketAttribution.Proofs.Dialogue.Alike
import Mathlib.Data.List.Perm.Subperm

/-!
# What the quota sees

Of all that the tables hold, the quota sees two numbers: how many keys the live statistics table
has, and how many of them belong to the user who is charged. The checklist of a request is compared
on desks that differ in a statistics table or in the table of charges, check by check: all checks
but those of the quota, and all but the last one, are the same there.

## Main definitions

* `QuotaLimits.AtMost`: limits that are no wider than others.
* `FewerKeys`, `SameNumbers`: a statistics table without some of its keys, and two of which the
  quota sees the same.
* `Desk.withCookieTags`: a desk with another table of charges.
* `SameCharge`: two runs with one result, the same calls and the same charges in the end.

## Main statements

* `checklist_setStats`, `checklist_setStats_of_unselected`: the checklist with another statistics
  table.
* `passes_mono`: a request that passes its checks passes them under wider limits with fewer keys.
* `tagSocket_withCookieTags`: the table of charges is looked at in the last call or not at all.
* `quota_seesTwoNumbers`: what follows for requests.

## Design notes

The counts are 32-bit numbers, and so is the number of entries that a kernel table has room for.
A table with more keys than that would be counted wrong, so the statement about fewer keys is made
for tables whose keys can be counted.
-/

namespace SocketAttribution

open Check ChargeRefusal Checklist
open TagCall (OnCookieTags)

variable {Tables : Type} {t t' : Tagger Tables} {r : TagRequest} {d : Desk}

/-! ## Limits and tables -/

/-- Limits that are no wider than others, in all and for each user. -/
def QuotaLimits.AtMost (limits wider : QuotaLimits) : Prop :=
  limits.perUid ≤ wider.perUid ∧ limits.total ≤ wider.total

/-- The keys of a statistics table. -/
abbrev FaultyTable.keys (table : FaultyTable StatsKey StatsValue) : List StatsKey :=
  table.table.entries.keys

/-- A statistics table is another one without some of its keys. -/
structure FewerKeys (table whole : FaultyTable StatsKey StatsValue) : Prop where
  walk : table.faults.scan = whole.faults.scan
  subset : table.keys ⊆ whole.keys

/-- Of two statistics tables the quota sees the same: how many keys they have, how many of them
belong to a user, and whether a walk fails. -/
structure SameNumbers (uid : UInt32) (table table' : FaultyTable StatsKey StatsValue) : Prop where
  walk : table.faults.scan = table'.faults.scan
  total : table.keys.length = table'.keys.length
  own : table.keys.countP (·.uid = uid) = table'.keys.countP (·.uid = uid)

/-- Occupancies that limits admit are admitted by wider limits. -/
theorem QuotaLimits.AtMost.admits {limits wider : QuotaLimits} (atMost : limits.AtMost wider)
    {occupancy : Occupancy} (admits : limits.Admits occupancy) : wider.Admits occupancy :=
  ⟨UInt32.le_trans admits.1 atMost.2, UInt32.le_trans admits.2 atMost.1⟩

/-- **Fewer keys are admitted where more are**, as long as these can be counted. -/
theorem QuotaLimits.Admits.of_subperm {limits : QuotaLimits} {uid : UInt32}
    {keys whole : List StatsKey} (admits : limits.Admits (.ofKeys uid whole))
    (fewer : keys.Subperm whole) (countable : whole.length < UInt32.size) :
    limits.Admits (.ofKeys uid keys) := by
  have countable' : keys.length < UInt32.size := Nat.lt_of_le_of_lt fewer.length_le countable
  obtain ⟨total, own⟩ := admits
  rw [UInt32.le_iff_toNat_le] at total own
  rw [Occupancy.total_ofKeys uid countable] at total
  rw [Occupancy.perUid_ofKeys uid countable] at own
  constructor
  · rw [UInt32.le_iff_toNat_le, Occupancy.total_ofKeys uid countable']
    exact Nat.le_trans fewer.length_le total
  · rw [UInt32.le_iff_toNat_le, Occupancy.perUid_ofKeys uid countable']
    exact Nat.le_trans (fewer.countP_le _) own

/-! ## Desks with another table -/

namespace Desk

variable {view : CounterView} {table : FaultyTable StatsKey StatsValue}

@[simp] theorem cookieTags_setStats : (d.setStats table view).cookieTags = d.cookieTags := by
  cases view <;> rfl

@[simp] theorem selected?_setStats : (d.setStats table view).selected? = d.selected? := by
  cases view <;> rfl

@[simp] theorem cookie?_setStats (socket : Descriptor) :
    (d.setStats table view).cookie? socket = d.cookie? socket := by
  cases view <;> rfl

/-- What is written to the table of charges does not depend on the statistics. -/
theorem cookieTags_setCharge_setStats (socket : Descriptor) (charge : Option Charge) :
    ((d.setStats table view).setCharge socket charge).cookieTags =
      (d.setCharge socket charge).cookieTags := by
  rw [setCharge, setCharge, cookie?_setStats]
  cases d.cookie? socket with
  | none => exact cookieTags_setStats
  | some cookie =>
      show (d.setStats table view).cookieTags.put cookie charge = d.cookieTags.put cookie charge
      rw [cookieTags_setStats]

/-- A walk fails or meets the keys of the table. -/
theorem keys_ask_scan :
    (d.ask (.stats view .scan)).keys =
      match (d.stats view).faults.scan with
      | some code => .error ⟨code⟩
      | none => .ok (d.keys view) := by
  cases faulty : (d.stats view).faults.scan with
  | some code => exact congrArg Walk.keys (ask_scan_of_some faulty)
  | none => exact congrArg Walk.keys (ask_scan_of_none faulty)

/-- The desk with another table of charges. -/
def withCookieTags (d : Desk) (table : FaultyTable UInt64 Charge) : Desk :=
  { d with cookieTags := table }

/-- Calls on anything but charges do not look at them. -/
theorem answer_withCookieTags (table : FaultyTable UInt64 Charge) (call : TagCall)
    (off : ¬ call.OnCookieTags) (d : Desk) :
    answer call (d.withCookieTags table) = (answer call d).map id (withCookieTags · table) := by
  cases call with
  | stats view call => cases view <;> rfl
  | configuration call => rfl
  | permissions call => rfl
  | cookieTags call => exact absurd trivial off
  | socket query => rfl

end Desk

/-! ## The checklist with another statistics table -/

/-- The checks in front of the quota. -/
def openingChecks (t : Tagger Tables) (r : TagRequest) (d : Desk) : List Check :=
  [tablesOpen t, delegation r d, notClat r, familyRead r.socket d, familySupported r.socket d,
    protocolRead r.socket d, protocolSupported r.socket d, cookieRead r.socket d, selectorRead d,
    selectorPresent d, selectorKnown d]

theorem checklist_eq :
    checklist t r d = openingChecks t r d ++ [liveScan d, quota t r d, upsert r d] := rfl

/-- The check of the quota on the live table. -/
theorem quota_of_selected {live : CounterView} (selected : d.selected? = some live) :
    quota t r d =
      let seen := Occupancy.ofKeys r.chargeUid (d.keys live)
      ⟨[], refuseUnless (t.limits.Admits seen)
        ⟨.quotaExceeded r.chargeUid seen.total seen.perUid, 24, rfl⟩⟩ := by
  rw [quota, selected]
  rfl

section Statistics

variable {view : CounterView} {table : FaultyTable StatsKey StatsValue}

/-- In front of the quota no statistics table is looked at. -/
theorem openingChecks_setStats (opened : t'.tables = t.tables) :
    openingChecks t' r (d.setStats table view) = openingChecks t r d := by
  rw [openingChecks, tablesOpen, opened]
  cases view <;> rfl

/-- Nor is one behind it. -/
theorem upsert_setStats : upsert r (d.setStats table view) = upsert r d := by
  cases view <;> rfl

/-- A walk that fails alike is checked alike. -/
theorem liveScan_setStats (walk : ∀ live, d.selected? = some live →
    ((d.setStats table view).stats live).faults.scan = (d.stats live).faults.scan) :
    liveScan (d.setStats table view) = liveScan d := by
  rw [liveScan, liveScan, Desk.selected?_setStats]
  cases selected : d.selected? with
  | none => rfl
  | some live =>
      show (⟨_, ofTable? (Walk.keys _)⟩ : Check) = ⟨_, ofTable? (Walk.keys _)⟩
      rw [Desk.keys_ask_scan, Desk.keys_ask_scan, walk live selected]
      cases (d.stats live).faults.scan <;> rfl

/-- **The checklist is the same if the live table has the same numbers.** -/
theorem checklist_setStats (same : ∀ live, d.selected? = some live →
    SameNumbers r.chargeUid ((d.setStats table view).stats live) (d.stats live)) :
    checklist t r (d.setStats table view) = checklist t r d := by
  have counted : quota t r (d.setStats table view) = quota t r d := by
    cases selected : d.selected? with
    | none => rw [quota, quota, Desk.selected?_setStats, selected]
    | some live =>
        have seen : Occupancy.ofKeys r.chargeUid ((d.setStats table view).keys live) =
            .ofKeys r.chargeUid (d.keys live) := by
          obtain ⟨-, total, own⟩ := same live selected
          rw [Occupancy.ofKeys, Occupancy.ofKeys, Desk.keys, Desk.keys, total, own]
        rw [quota_of_selected selected, quota_of_selected (Desk.selected?_setStats.trans selected),
          seen]
  rw [checklist_eq, checklist_eq, openingChecks_setStats rfl,
    liveScan_setStats fun live selected => (same live selected).walk, counted, upsert_setStats]

/-- A table of the same numbers in the place of another. -/
theorem checklist_setStats_of_same (same : SameNumbers r.chargeUid table (d.stats view)) :
    checklist t r (d.setStats table view) = checklist t r d := by
  apply checklist_setStats
  intro live _
  by_cases on : live = view
  · rw [on, Desk.stats_setStats_same]
    exact same
  · rw [Desk.stats_setStats_other d table on]
    exact ⟨rfl, rfl, rfl⟩

/-- Any table in the place of one that is not live. -/
theorem checklist_setStats_of_unselected (unselected : d.selected? ≠ some view) :
    checklist t r (d.setStats table view) = checklist t r d := by
  apply checklist_setStats
  intro live selected
  have on : live ≠ view := by
    rintro rfl
    exact unselected selected
  rw [Desk.stats_setStats_other d table on]
  exact ⟨rfl, rfl, rfl⟩

/-- A request that passes its checks passes them elsewhere too, if the walk does not fail there and
what the quota admitted is admitted again. -/
theorem passes_setStats (opened : t'.tables = t.tables)
    (walk : ∀ live, d.selected? = some live →
      ((d.setStats table view).stats live).faults.scan = (d.stats live).faults.scan)
    (room : ∀ live, d.selected? = some live →
      t.limits.Admits (.ofKeys r.chargeUid (d.keys live)) →
        t'.limits.Admits (.ofKeys r.chargeUid ((d.setStats table view).keys live)))
    (passes : ∀ check ∈ checklist t r d, check.refusal = none) :
    ∀ check ∈ checklist t' r (d.setStats table view), check.refusal = none := by
  rw [checklist_eq, List.forall_mem_append, List.forall_mem_cons, List.forall_mem_cons] at passes ⊢
  obtain ⟨opening, scanned, counted, written⟩ := passes
  rw [openingChecks_setStats opened, liveScan_setStats walk, upsert_setStats]
  refine ⟨opening, scanned, ?_, written⟩
  cases selected : d.selected? with
  | none => rw [quota, Desk.selected?_setStats, selected]
  | some live =>
      rw [quota_of_selected selected] at counted
      rw [quota_of_selected (Desk.selected?_setStats.trans selected)]
      exact refuseUnless_eq_none_iff.2 (room live selected (refuseUnless_eq_none_iff.1 counted))

/-- **A request that passes its checks passes them under wider limits with fewer keys.** -/
theorem passes_mono (atMost : t.limits.AtMost t'.limits) (opened : t'.tables = t.tables)
    (selected : d.selected? = some view) (fewer : FewerKeys table (d.stats view))
    (countable : (d.keys view).length < UInt32.size)
    (passes : ∀ check ∈ checklist t r d, check.refusal = none) :
    ∀ check ∈ checklist t' r (d.setStats table view), check.refusal = none := by
  apply passes_setStats opened ?walk ?room passes
  case walk =>
    intro live other
    obtain rfl : view = live := Option.some.inj (selected.symm.trans other)
    rw [Desk.stats_setStats_same, fewer.walk]
  case room =>
    intro live other admits
    obtain rfl : view = live := Option.some.inj (selected.symm.trans other)
    have subperm := List.subperm_of_subset table.table.entries.nodup fewer.subset
    rw [Desk.keys, Desk.stats_setStats_same]
    exact atMost.admits (admits.of_subperm subperm countable)

/-- Under wider limits alone nothing has to be counted. -/
theorem passes_of_atMost (atMost : t.limits.AtMost t'.limits) (opened : t'.tables = t.tables)
    (passes : ∀ check ∈ checklist t r d, check.refusal = none) :
    ∀ check ∈ checklist t' r d, check.refusal = none := by
  rw [← d.setStats_stats .a]
  apply passes_setStats opened ?walk ?room passes
  case walk =>
    intro live _
    rw [Desk.setStats_stats]
  case room =>
    intro live _ admits
    rw [Desk.setStats_stats]
    exact atMost.admits admits

end Statistics

/-! ## The checklist with another table of charges -/

/-- All checks but the last, which writes the charge. -/
def inquiry (t : Tagger Tables) (r : TagRequest) (d : Desk) : List Check :=
  openingChecks t r d ++ [liveScan d, quota t r d]

/-- None of them is about charges. -/
theorem checklist_withCookieTags (table : FaultyTable UInt64 Charge) :
    checklist t r (d.withCookieTags table) =
      inquiry t r d ++ [upsert r (d.withCookieTags table)] := rfl

theorem flatMap_calls_inquiry : (inquiry t r d).flatMap Check.calls = questions r d := by
  have written : (upsert r d).calls = writing r d := by
    rw [upsert, writing]
    cases d.cookie? r.socket <;> rfl
  have whole : (inquiry t r d ++ [upsert r d]).flatMap Check.calls = questions r d ++ writing r d :=
    flatMap_calls_checklist
  rw [List.flatMap_append, List.flatMap_singleton, written] at whole
  exact List.append_cancel_right whole

/-- Behind all other checks the cookie is known, and the last check is the answer of the table of
charges. -/
theorem upsert_withCookieTags (passed : firstRefusal (inquiry t r d) = none) :
    ∃ cookie, d.cookie? r.socket = some cookie ∧ ∀ table,
      upsert r (d.withCookieTags table) =
        ⟨[.cookieTags (.upsert cookie r.charge)],
          ofTable? ((d.withCookieTags table).ask (.cookieTags (.upsert cookie r.charge)))⟩ := by
  rw [firstRefusal_eq_none_iff] at passed
  have read : firstRefusal [cookieRead r.socket d] = none := by
    rw [firstRefusal_eq_none_iff, List.forall_mem_singleton]
    exact passed (cookieRead r.socket d) (by simp [inquiry, openingChecks])
  obtain ⟨cookie, known⟩ := cookie_of_passed read
  refine ⟨cookie, known, fun table => ?_⟩
  have known' : (d.withCookieTags table).cookie? r.socket = some cookie := known
  rw [upsert, known']
  rfl

/-! ## Runs -/

/-- Two runs with one result, the same calls and the same charges in the end. -/
structure SameCharge (run run' : Transcript TagCall Desk (Except TagError Unit)) : Prop where
  value : run.value = run'.value
  calls : run.calls = run'.calls
  cookieTags : run.state.cookieTags = run'.state.cookieTags

section Runs

variable {view : CounterView} {table : FaultyTable StatsKey StatsValue}

/-- By one checklist a request is served the same on desks that differ in a statistics table. -/
theorem sameCharge_of_checklist
    (same : checklist t r (d.setStats table view) = checklist t r d) :
    SameCharge ((t.tagSocket r).run.run Desk.answer (d.setStats table view))
      ((t.tagSocket r).run.run Desk.answer d) := by
  obtain ⟨value, calls, state⟩ := t.performs_tagSocket (d.setStats table view) r
  obtain ⟨value', calls', state'⟩ := t.performs_tagSocket d r
  rw [same] at value calls state
  refine ⟨value.trans value'.symm, calls.trans calls'.symm, ?_⟩
  rw [state, state']
  split
  · exact Desk.cookieTags_setStats
  · exact Desk.cookieTags_setCharge_setStats r.socket _

/-- Requests that pass their checks do the same on desks that differ in a statistics table. -/
theorem sameCharge_of_passes
    (passes' : ∀ check ∈ checklist t' r (d.setStats table view), check.refusal = none)
    (passes : ∀ check ∈ checklist t r d, check.refusal = none) :
    SameCharge ((t'.tagSocket r).run.run Desk.answer (d.setStats table view))
      ((t.tagSocket r).run.run Desk.answer d) := by
  obtain ⟨value', calls', state'⟩ := t'.performs_tagSocket (d.setStats table view) r
  obtain ⟨value, calls, state⟩ := t.performs_tagSocket d r
  refine ⟨?_, ?_, ?_⟩
  · rw [value, value', outcome_eq_ok_iff.2 passes, outcome_eq_ok_iff.2 passes']
  · rw [calls, calls', callsOf_of_passes passes, callsOf_of_passes passes',
      flatMap_calls_checklist, flatMap_calls_checklist, questions, questions, writing, writing,
      Desk.selected?_setStats, Desk.cookie?_setStats]
  · rw [state, state', firstRefusal_eq_none_iff.2 passes, firstRefusal_eq_none_iff.2 passes']
    exact Desk.cookieTags_setCharge_setStats r.socket _

/-- A request that succeeds has passed its checks. -/
theorem passes_of_ok (succeeds : ((t.tagSocket r).run.run Desk.answer d).value = .ok ()) :
    ∀ check ∈ checklist t r d, check.refusal = none :=
  outcome_eq_ok_iff.1 ((t.performs_tagSocket d r).value.symm.trans succeeds)

/-- **The table of charges is looked at in the last call or not at all.** Either a check in front
of that call refuses, whatever the table is, or the call is made, whatever the table is, and its
answer is the result. -/
theorem tagSocket_withCookieTags (t : Tagger Tables) (r : TagRequest) (d : Desk) :
    let run (table : FaultyTable UInt64 Charge) :=
      (t.tagSocket r).run.run Desk.answer (d.withCookieTags table)
    (∃ e calls, (∀ call, .cookieTags call ∉ calls) ∧ ∀ table,
      (run table).value = .error e ∧ (run table).calls = calls ∧
        (run table).state = d.withCookieTags table) ∨
      ∃ cookie, d.cookie? r.socket = some cookie ∧ ∀ table,
        (run table).calls = questions r d ++ [.cookieTags (.upsert cookie r.charge)] ∧
          (run table).value =
            ((d.withCookieTags table).ask (.cookieTags (.upsert cookie r.charge))).mapError
              TagError.table := by
  intro run
  cases decided : firstRefusal (inquiry t r d) with
  | some refusal =>
      refine .inl ⟨refusal.error, callsOf (inquiry t r d), ?_, fun table => ?_⟩
      · intro call mem
        have asked := (callsOf_isPrefix (inquiry t r d)).subset mem
        rw [flatMap_calls_inquiry] at asked
        exact not_mem_questions call asked
      · obtain ⟨value, calls, state⟩ := t.performs_tagSocket (d.withCookieTags table) r
        have first : firstRefusal (checklist t r (d.withCookieTags table)) = some refusal := by
          rw [checklist_withCookieTags, firstRefusal_append, decided, Option.some_or]
        rw [outcome_of_some first] at value
        rw [checklist_withCookieTags, callsOf_append, decided] at calls
        rw [first] at state
        exact ⟨value, calls.trans (List.append_nil _), state⟩
  | none =>
      obtain ⟨cookie, known, last⟩ := upsert_withCookieTags decided
      refine .inr ⟨cookie, known, fun table => ?_⟩
      obtain ⟨value, calls, -⟩ := t.performs_tagSocket (d.withCookieTags table) r
      rw [checklist_withCookieTags, last table] at value calls
      rw [callsOf_append, decided, callsOf_of_passes (firstRefusal_eq_none_iff.1 decided),
        flatMap_calls_inquiry] at calls
      refine ⟨by simpa using calls, value.trans ?_⟩
      rw [outcome, firstRefusal_append, decided, Option.none_or, firstRefusal_cons,
        firstRefusal_nil, Option.or_none]
      cases (d.withCookieTags table).ask (.cookieTags (.upsert cookie r.charge)) with
      | ok => rfl
      | error e => rfl

/-- **The gate does not look at the table of charges.** -/
theorem checkQuota_matches (limits : QuotaLimits) (r : TagRequest) (d : Desk)
    (table table' : FaultyTable UInt64 Charge) :
    ((r.checkQuota limits).run.run Desk.answer (d.withCookieTags table)).Matches
      (fun s s' => ∃ e : Desk, s = e.withCookieTags table ∧ s' = e.withCookieTags table')
      ((r.checkQuota limits).run.run Desk.answer (d.withCookieTags table')) := by
  have asks : (r.checkQuota limits).run.Asks fun call => ¬ call.OnCookieTags := by
    rw [← Dialogue.asks_muted, ← Attempt.run_muted, r.muted_checkQuota]
    exact Attempt.asks_bind (Attempt.asks_demand id) fun view => Attempt.asks_demand id
  have alike := answerAlike_of_aside (Desk.answer_withCookieTags table)
    (Desk.answer_withCookieTags table')
  exact asks.run_matches alike ⟨d, rfl, rfl⟩

/-- A result that changes with the table of charges is that of a write which is refused. -/
theorem refused_of_value_ne {table table' : FaultyTable UInt64 Charge}
    (changes : ((t.tagSocket r).run.run Desk.answer (d.withCookieTags table)).value ≠
      ((t.tagSocket r).run.run Desk.answer (d.withCookieTags table')).value) :
    ∃ cookie e, ∃ refusing ∈ [table, table'],
      ((d.withCookieTags refusing).ask (.cookieTags (.upsert cookie r.charge))) = .error e ∧
        ((t.tagSocket r).run.run Desk.answer (d.withCookieTags refusing)).calls =
          questions r d ++ [.cookieTags (.upsert cookie r.charge)] ∧
        ((t.tagSocket r).run.run Desk.answer (d.withCookieTags refusing)).value =
          .error (.table e) := by
  obtain ⟨e, calls, -, refused⟩ | ⟨cookie, -, written⟩ := tagSocket_withCookieTags t r d
  · exact absurd ((refused table).1.trans (refused table').1.symm) changes
  have refusing : ∀ other e,
      ((d.withCookieTags other).ask (.cookieTags (.upsert cookie r.charge))) = .error e →
        ((t.tagSocket r).run.run Desk.answer (d.withCookieTags other)).value =
          .error (.table e) := by
    intro other e answer
    exact (written other).2.trans (congrArg (Except.mapError TagError.table) answer)
  cases answer : (d.withCookieTags table).ask (.cookieTags (.upsert cookie r.charge)) with
  | error e =>
      exact ⟨cookie, e, table, by simp, answer, (written table).1, refusing table e answer⟩
  | ok =>
      cases answer' : (d.withCookieTags table').ask (.cookieTags (.upsert cookie r.charge)) with
      | error e =>
          exact ⟨cookie, e, table', by simp, answer', (written table').1, refusing table' e answer'⟩
      | ok =>
          rw [(written table).2, (written table').2, answer, answer'] at changes
          exact absurd rfl changes

end Runs

/-! ## Two numbers -/

/-- **The quota is monotone and sees two numbers.** A request that succeeds succeeds again, with the
same calls and the same charges in the end, under wider limits, and also with a live table that has
lost some of its keys. With a live table that has the same number of keys, and the same number of
keys of the user who is charged, it has the same result, calls and charges, and so it has with any
table in the place of one that is not live. The gate is the same with all tables of charges, and a
result that changes with that table is that of a write which is refused. -/
theorem quota_seesTwoNumbers (t : Tagger Tables) (r : TagRequest) (d : Desk) :
    let run (limits : QuotaLimits) (e : Desk) :=
      (({ t with limits := limits } : Tagger Tables).tagSocket r).run.run Desk.answer e
    (∀ wider : QuotaLimits, t.limits.AtMost wider → (run t.limits d).value = .ok () →
      SameCharge (run wider d) (run t.limits d)) ∧
    (∀ wider view table, t.limits.AtMost wider → d.selected? = some view →
      FewerKeys table (d.stats view) → (d.keys view).length < 2 ^ 32 →
        (run t.limits d).value = .ok () →
          SameCharge (run wider (d.setStats table view)) (run t.limits d)) ∧
    (∀ limits view table, SameNumbers r.chargeUid table (d.stats view) →
      SameCharge (run limits (d.setStats table view)) (run limits d)) ∧
    (∀ limits view table, d.selected? ≠ some view →
      SameCharge (run limits (d.setStats table view)) (run limits d)) ∧
    ∀ limits table table',
      ((r.checkQuota limits).run.run Desk.answer (d.withCookieTags table)).Matches
        (fun s s' => ∃ e : Desk, s = e.withCookieTags table ∧ s' = e.withCookieTags table')
        ((r.checkQuota limits).run.run Desk.answer (d.withCookieTags table')) ∧
      ((run limits (d.withCookieTags table)).value ≠
          (run limits (d.withCookieTags table')).value →
        ∃ cookie e, ∃ refusing ∈ [table, table'],
          (d.withCookieTags refusing).ask (.cookieTags (.upsert cookie r.charge)) = .error e ∧
            (run limits (d.withCookieTags refusing)).calls =
              questions r d ++ [.cookieTags (.upsert cookie r.charge)] ∧
            (run limits (d.withCookieTags refusing)).value = .error (.table e)) := by
  intro run
  refine ⟨?_, ?_, ?_, ?_, ?_⟩
  · intro wider atMost succeeds
    have passes : ∀ check ∈ checklist t r d, check.refusal = none := passes_of_ok succeeds
    have passes' : ∀ check ∈ checklist { t with limits := wider } r d, check.refusal = none :=
      passes_of_atMost atMost rfl passes
    rw [← d.setStats_stats .a] at passes'
    have same := sameCharge_of_passes passes' passes
    rwa [Desk.setStats_stats] at same
  · intro wider view table atMost selected fewer countable succeeds
    have passes : ∀ check ∈ checklist t r d, check.refusal = none := passes_of_ok succeeds
    exact sameCharge_of_passes (passes_mono atMost rfl selected fewer countable passes) passes
  · intro limits view table same
    exact sameCharge_of_checklist (checklist_setStats_of_same same)
  · intro limits view table unselected
    exact sameCharge_of_checklist (checklist_setStats_of_unselected unselected)
  · intro limits table table'
    exact ⟨checkQuota_matches limits r d table table', refused_of_value_ne⟩

/-- A live table at both of its limits, one that has lost keys, one with other keys of the same
numbers, and a table of charges that is full. -/
theorem quota_seesTwoNumbers_full :
    let live : FaultyTable StatsKey StatsValue := .fill (.fill (.empty 8) 10000 0 0 0 2) 1 0 0 0 1
    let thinned : FaultyTable StatsKey StatsValue := .fill (.empty 4) 10000 1 0 0 1
    let other : FaultyTable StatsKey StatsValue := .fill (.fill (.empty 9) 2 7 1 5 1) 10000 9 1 6 2
    let d : Desk := { Desk.small with statsA := live }
    let t : Tagger Unit := ⟨some (), ⟨2, 3⟩⟩
    let wide : Tagger Unit := ⟨some (), ⟨2, 4⟩⟩
    let r : TagRequest := ⟨3, 5, 10000, 10000⟩
    let run (t : Tagger Unit) (e : Desk) := (t.tagSocket r).run.run Desk.answer e
    (run t d).value = .ok () ∧ SameCharge (run wide d) (run t d) ∧
      SameCharge (run wide (d.setStats thinned .a)) (run t d) ∧
      SameCharge (run t (d.setStats other .a)) (run t d) ∧
      SameCharge (run t (d.setStats thinned .b)) (run t d) ∧
      ∃ cookie e, ∃ refusing ∈ [.empty 8, .empty 0],
        (d.withCookieTags refusing).ask (.cookieTags (.upsert cookie r.charge)) = .error e ∧
          (run t (d.withCookieTags refusing)).calls =
            questions r d ++ [.cookieTags (.upsert cookie r.charge)] ∧
          (run t (d.withCookieTags refusing)).value = .error (.table e) := by
  intro live thinned other d t wide r run
  have succeeds : (run t d).value = .ok () := by decide +kernel
  have atMost : t.limits.AtMost wide.limits := ⟨by decide, by decide⟩
  have fewer : FewerKeys thinned (d.stats .a) := ⟨rfl, by decide +kernel⟩
  have same : SameNumbers r.chargeUid other (d.stats .a) :=
    ⟨rfl, by decide +kernel, by decide +kernel⟩
  obtain ⟨wider, thinner, alike, unselected, charges⟩ := quota_seesTwoNumbers t r d
  refine ⟨succeeds, wider wide.limits atMost succeeds, ?_, ?_, ?_, ?_⟩
  · exact thinner wide.limits .a thinned atMost (by decide) fewer (by decide +kernel) succeeds
  · exact alike t.limits .a other same
  · exact unselected t.limits .b thinned (by decide)
  · exact (charges t.limits (.empty 8) (.empty 0)).2 (by decide +kernel)

end SocketAttribution
