import SocketAttribution.Proofs.Charge.Gate
import SocketAttribution.Proofs.Charge.LastWriter
import SocketAttribution.Proofs.Dialogue.Race
import Mathlib.Data.Finset.Option
import Mathlib.Data.Fintype.Basic

/-!
# Requests that race

Requests to one tagger may be on their way at once, each making its next call whenever its turn
comes. All that one of them can change of what another finds is in the table of charges, and a
request calls on that table only once, as the last thing that it does. So requests that race do what
they would do one after another in the order of these calls.

## Main definitions

* `TagCall.OnCookieTags`, `TagCall.Quiet`: calls on the table of charges, and questions elsewhere.
* `requestRace`: requests on their way together, after the turns of a schedule.
* `Desk.seats`: the cookies that have a charge or may get one.
* `Request.landed`: what a request has written, by its result.
* `Ledger.write`: a ledger with what was written.

## Main statements

* `Request.decidedLast_work`: a request is decided by its call on the table of charges.
* `Desk.world`: nothing else that a request finds depends on the charges.
* `Request.run_of_fits`: where there is room for all, requests are independent.
* `race_serializable`: every race is a serial run, and where the requests are independent every
  order and every race comes to the same.
-/

namespace SocketAttribution

open Check Checklist

variable {Tables : Type}

/-! ## One decisive call -/

namespace TagCall

/-- A call on the table of charges. -/
def OnCookieTags : TagCall → Prop
  | .cookieTags _ => True
  | _ => False

instance : DecidablePred OnCookieTags := fun call =>
  match call with
  | .stats _ _ => .isFalse id
  | .configuration _ => .isFalse id
  | .permissions _ => .isFalse id
  | .cookieTags _ => .isTrue trivial
  | .socket _ => .isFalse id

/-- A question that is not about charges. -/
def Quiet (call : TagCall) : Prop := call.Reads ∧ ¬ call.OnCookieTags

end TagCall

open TagCall (Quiet OnCookieTags)

/-- A charge is decided by its last call, which writes it. -/
theorem Tagger.decidedLast_tagSocket (t : Tagger Tables) (r : TagRequest) :
    (t.tagSocket r).muted.run.DecidedLast Quiet OnCookieTags := by
  rw [muted_tagSocket, r.muted_refuseClat, r.muted_checkFamily, r.muted_checkProtocol,
    r.muted_checkQuota]
  refine Attempt.decidedLast_bind t.asks_requireTables fun _ => ?_
  refine Attempt.decidedLast_bind ?authorise fun _ => ?_
  case authorise =>
    rw [r.muted_authorise]
    split
    · exact Dialogue.asks_done _ _
    · exact Attempt.asks_demand ⟨trivial, id⟩
  refine Attempt.decidedLast_bind (Attempt.asks_ofExcept _) fun _ => ?_
  refine Attempt.decidedLast_bind (Attempt.asks_demand ⟨trivial, id⟩) fun _ => ?_
  refine Attempt.decidedLast_bind (Attempt.asks_demand ⟨trivial, id⟩) fun _ => ?_
  refine Attempt.decidedLast_bind (Attempt.asks_demand ⟨trivial, id⟩) fun cookie => ?_
  refine Attempt.decidedLast_bind ?quota fun _ => ?_
  case quota =>
    exact Attempt.asks_bind (Attempt.asks_demand ⟨trivial, id⟩)
      fun view => Attempt.asks_demand ⟨trivial, id⟩
  rw [r.muted_record]
  exact Attempt.decidedLast_demand trivial

/-- A removal is decided by its last call, which removes the charge. -/
theorem Tagger.decidedLast_untagSocket (t : Tagger Tables) (socket : Descriptor) :
    (t.untagSocket socket).muted.run.DecidedLast Quiet OnCookieTags := by
  rw [muted_untagSocket]
  refine Attempt.decidedLast_bind (Attempt.asks_demand ⟨trivial, id⟩) fun cookie => ?_
  refine Attempt.decidedLast_bind t.asks_requireTables fun _ => ?_
  exact Attempt.decidedLast_demand trivial

/-- **A request is decided by its call on the table of charges.** -/
theorem Request.decidedLast_work (t : Tagger Tables) (request : Request) :
    (request.work t).run.muted.DecidedLast Quiet OnCookieTags := by
  cases request with
  | tag r => exact t.decidedLast_tagSocket r
  | untag socket => exact t.decidedLast_untagSocket socket

/-! ## Desks that differ in their charges -/

/-- A change of a table touches its entries alone. -/
theorem FaultyTable.answer_frame {K V : Type} [DecidableEq K] (call : TableCall K V)
    (t : FaultyTable K V) :
    ∃ entries, (answer call t).2 = { t with table := { t.table with entries := entries } } := by
  cases call with
  | get key =>
      have reads : (TableCall.get key : TableCall K V).Reads := trivial
      exact ⟨t.table.entries, answer_of_reads reads t⟩
  | scan =>
      have reads : (TableCall.scan : TableCall K V).Reads := trivial
      exact ⟨t.table.entries, answer_of_reads reads t⟩
  | upsert key value =>
      rcases answer_upsert key value t with ⟨e, refused⟩ | written
      · exact ⟨t.table.entries, congrArg Prod.snd refused⟩
      · exact ⟨_, congrArg Prod.snd written⟩
  | delete key =>
      rcases answer_delete key t with ⟨e, refused⟩ | removed
      · exact ⟨t.table.entries, congrArg Prod.snd refused⟩
      · exact ⟨_, congrArg Prod.snd removed⟩

namespace Desk

/-- The desk with other charges. -/
def withCharges (d : Desk) (entries : Entries UInt64 Charge) : Desk :=
  let table := { d.cookieTags.table with entries := entries }
  { d with cookieTags := { d.cookieTags with table := table } }

theorem answer_withCharges (d : Desk) (entries : Entries UInt64 Charge) {call : TagCall}
    (off : ¬ call.OnCookieTags) : (answer call (d.withCharges entries)).1 = (answer call d).1 := by
  cases call with
  | stats view call => cases view <;> rfl
  | configuration call => rfl
  | permissions call => rfl
  | cookieTags call => exact absurd trivial off
  | socket query => rfl

/-- **What is asked about anything but charges does not depend on them**, and only they change. -/
theorem world (d : Desk) :
    World answer Quiet OnCookieTags fun s => ∃ entries, s = d.withCharges entries where
  alike := by
    rintro call _ _ quiet ⟨entries, rfl⟩ ⟨others, rfl⟩
    rw [d.answer_withCharges entries quiet.2, d.answer_withCharges others quiet.2]
  still quiet _ := answer_of_reads quiet.1 _
  closed := by
    rintro call _ on ⟨entries, rfl⟩
    cases call with
    | stats view call => exact on.elim
    | configuration call => exact on.elim
    | permissions call => exact on.elim
    | cookieTags call =>
        obtain ⟨changed, frame⟩ :=
          FaultyTable.answer_frame call (d.withCharges entries).cookieTags
        refine ⟨changed, ?_⟩
        show { d.withCharges entries with
          cookieTags := (FaultyTable.answer call (d.withCharges entries).cookieTags).2 } = _
        rw [frame]
        rfl
    | socket query => exact on.elim

end Desk

/-! ## Races -/

/-- Requests on their way together, after the turns of a schedule. -/
def requestRace {ι : Type} [DecidableEq ι] (t : Tagger Tables) (d : Desk) (requests : ι → Request)
    (schedule : List ι) : Race ι TagCall TagCall.Answer Desk (Except TagError Unit) :=
  (Race.start (fun i => ((requests i).work t).run) d).play Desk.answer schedule

/-! ## What was written -/

/-- A ledger with what was written to it, one thing after another. -/
def Ledger.write (ledger : Ledger) (writes : List (UInt64 × Option Charge)) : Ledger :=
  writes.foldl (fun l write => Function.update l write.1 write.2) ledger

namespace Ledger

variable {ledger : Ledger} {writes others : List (UInt64 × Option Charge)} {cookie : UInt64}
  {charge : Option Charge}

@[simp] theorem write_nil (ledger : Ledger) : ledger.write [] = ledger := rfl

theorem write_append (ledger : Ledger) (writes others : List (UInt64 × Option Charge)) :
    ledger.write (writes ++ others) = (ledger.write writes).write others := List.foldl_append

theorem write_of_not_mem (untouched : cookie ∉ writes.map Prod.fst) :
    ledger.write writes cookie = ledger cookie := by
  induction writes generalizing ledger with
  | nil => rfl
  | cons first later ih =>
      rw [List.map_cons, List.mem_cons, not_or] at untouched
      have rest : ledger.write (first :: later) cookie =
          Function.update ledger first.1 first.2 cookie := ih untouched.2
      rw [rest, Function.update_of_ne untouched.1]

theorem write_of_mem (distinct : (writes.map Prod.fst).Nodup) (mem : (cookie, charge) ∈ writes) :
    ledger.write writes cookie = charge := by
  induction writes generalizing ledger with
  | nil => cases mem
  | cons first later ih =>
      rw [List.map_cons, List.nodup_cons] at distinct
      rcases List.mem_cons.1 mem with rfl | mem
      · have rest : ledger.write ((cookie, charge) :: later) cookie =
            Function.update ledger cookie charge cookie := write_of_not_mem distinct.1
        rw [rest, Function.update_self]
      · exact ih distinct.2 mem

/-- **Under distinct cookies the order of writing does not matter.** -/
theorem write_perm (distinct : (writes.map Prod.fst).Nodup) (perm : writes.Perm others) :
    ledger.write writes = ledger.write others := by
  have distinct' : (others.map Prod.fst).Nodup := (perm.map Prod.fst).nodup_iff.1 distinct
  funext cookie
  by_cases touched : cookie ∈ writes.map Prod.fst
  · obtain ⟨⟨_, charge⟩, mem, rfl⟩ := List.mem_map.1 touched
    rw [write_of_mem distinct mem, write_of_mem distinct' (perm.mem_iff.1 mem)]
  · have untouched : cookie ∉ others.map Prod.fst :=
      fun mem => touched ((perm.map Prod.fst).mem_iff.2 mem)
    rw [write_of_not_mem touched, write_of_not_mem untouched]

end Ledger

/-- The rows of a table whose contents are those of another and what was written to it: the rows
that nothing was written to stay, and there is one row for each value that was written. -/
theorem Entries.rows_perm_of_write {before after : Entries UInt64 Charge}
    {writes : List (UInt64 × Option Charge)} (distinct : (writes.map Prod.fst).Nodup)
    (written : after.get? = Ledger.write before.get? writes) :
    after.rows.Perm (before.rows.filter (fun row => row.1 ∉ writes.map Prod.fst) ++
      writes.filterMap fun write => write.2.map (Prod.mk write.1)) := by
  have fromWrite : ∀ (write : UInt64 × Option Charge) (row : UInt64 × Charge),
      row ∈ write.2.map (Prod.mk write.1) ↔ write = (row.1, some row.2) := by
    rintro ⟨cookie, _ | charge⟩ ⟨other, value⟩
    · simp
    · simp
  have new : (writes.filterMap fun write => write.2.map (Prod.mk write.1)).Nodup := by
    apply List.Nodup.filterMap
    · intro one other row here there
      exact ((fromWrite one row).1 here).trans ((fromWrite other row).1 there).symm
    · exact distinct.of_map
  have apart : (before.rows.filter (fun row => row.1 ∉ writes.map Prod.fst)).Disjoint
      (writes.filterMap fun write => write.2.map (Prod.mk write.1)) := by
    intro row old mem
    obtain ⟨write, there, same⟩ := List.mem_filterMap.1 mem
    rw [(fromWrite write row).1 same] at there
    have untouched := of_decide_eq_true (List.mem_filter.1 old).2
    exact untouched (List.mem_map.2 ⟨_, there, rfl⟩)
  -- Neither list repeats a row, so it is enough that they have the same ones.
  refine (List.perm_ext_iff_of_nodup after.nodup.of_map
    ((before.nodup.of_map.filter _).append new apart)).2 ?_
  intro row
  rw [List.mem_append, List.mem_filter, List.mem_filterMap, decide_eq_true_eq]
  have found : row ∈ after.rows ↔ Ledger.write before.get? writes row.1 = some row.2 := by
    rw [← written]
    exact Entries.get?_eq_some_iff.symm
  rw [found]
  by_cases touched : row.1 ∈ writes.map Prod.fst
  · obtain ⟨⟨cookie, charge⟩, mem, same⟩ := List.mem_map.1 touched
    have same : cookie = row.1 := same
    subst same
    rw [Ledger.write_of_mem distinct mem]
    constructor
    · rintro rfl
      exact .inr ⟨_, mem, (fromWrite _ row).2 rfl⟩
    · rintro (⟨-, untouched⟩ | ⟨write, there, made⟩)
      · exact absurd touched untouched
      · rw [(fromWrite write row).1 made] at there
        have one := List.inj_on_of_nodup_map distinct mem there rfl
        exact congrArg Prod.snd one
  · rw [Ledger.write_of_not_mem touched]
    constructor
    · intro old
      exact .inl ⟨Entries.get?_eq_some_iff.1 old, touched⟩
    · rintro (⟨old, -⟩ | ⟨write, there, made⟩)
      · exact Entries.get?_eq_some_iff.2 old
      · rw [(fromWrite write row).1 made] at there
        exact absurd (List.mem_map.2 ⟨_, there, rfl⟩) touched

/-! ## Requests with room for all -/

namespace Request

/-- The socket that a request is about. -/
def socket : Request → Descriptor
  | .tag r => r.socket
  | .untag socket => socket

/-- The charge that a request is to leave, or none. -/
def charge? : Request → Option Charge
  | .tag r => some ⟨r.chargeUid, r.tag⟩
  | .untag _ => none

/-- The cookie for which a request may need a place. -/
def seat? (d : Desk) : Request → Option UInt64
  | .tag r => d.cookie? r.socket
  | .untag _ => none

/-- What a request has written, if this is its result. -/
def landed (d : Desk) (request : Request) (result : Except TagError Unit) :
    List (UInt64 × Option Charge) :=
  if result.isOk then
    ((d.cookie? request.socket).map fun cookie => (cookie, request.charge?)).toList
  else []

/-- How a request ends by its checks. -/
def verdict (t : Tagger Tables) (d : Desk) (request : Request) : Except TagError Unit :=
  outcome ((SessionCall.request request).row t d) ()

theorem writes?_eq (request : Request) :
    (SessionCall.request request).writes? = some (request.socket, request.charge?) := by
  cases request <;> rfl

theorem seat?_of_charge {d : Desk} {request : Request} {cookie : UInt64} {charge : Charge}
    (charges : request.charge? = some charge) (known : d.cookie? request.socket = some cookie) :
    request.seat? d = some cookie := by
  cases request with
  | tag r => exact known
  | untag socket => cases charges

end Request

namespace Desk

/-- The cookies that have a charge or may get one. -/
def seats {ι : Type} [Fintype ι] (d : Desk) (requests : ι → Request) : Finset UInt64 :=
  d.cookieTags.table.entries.keys.toFinset ∪
    Finset.univ.biUnion fun i => ((requests i).seat? d).toFinset

/-- A desk that differs from another at most in its charges, which keep to some cookies. -/
structure Fits (d : Desk) (seats : Finset UInt64) (s : Desk) : Prop where
  frame : ∃ entries, s = d.withCharges entries
  seated : ∀ cookie, s.ledger cookie ≠ none → cookie ∈ seats

variable {d s : Desk} {seats : Finset UInt64} {cookie : UInt64}

theorem mem_keys_iff : cookie ∈ d.cookieTags.table.entries.keys ↔ d.ledger cookie ≠ none := by
  rw [← Entries.contains_iff, Entries.contains, Option.isSome_iff_ne_none]
  rfl

/-- At first the charges keep to the cookies that have one or may get one. -/
theorem fits_self {ι : Type} [Fintype ι] (d : Desk) (requests : ι → Request) :
    d.Fits (d.seats requests) d where
  frame := ⟨d.cookieTags.table.entries, rfl⟩
  seated _ stands :=
    Finset.mem_union_left _ (List.mem_toFinset.2 (mem_keys_iff.2 stands))

theorem mem_seats {ι : Type} [Fintype ι] (d : Desk) {requests : ι → Request} (i : ι) :
    ∀ cookie ∈ (requests i).seat? d, cookie ∈ d.seats requests := by
  intro cookie mem
  apply Finset.mem_union_right
  exact Finset.mem_biUnion.2 ⟨i, Finset.mem_univ i, Option.mem_toFinset.2 mem⟩

/-- Where charges keep to as many cookies as there are places, each of the cookies has one. -/
theorem Fits.hasRoomFor (fits : d.Fits seats s) (room : seats.card ≤ d.cookieTags.table.capacity)
    (seat : cookie ∈ seats) : s.cookieTags.table.HasRoomFor cookie := by
  obtain ⟨⟨entries, rfl⟩, seated⟩ := fits
  by_cases present : entries.contains cookie = true
  · exact .inl present
  · right
    show entries.size < d.cookieTags.table.capacity
    -- A new cookie and those that have a charge are distinct, and all of them are among the seats.
    have fresh : cookie ∉ entries.keys := fun mem => present (Entries.contains_iff.2 mem)
    have nodup : (cookie :: entries.keys).Nodup := List.nodup_cons.2 ⟨fresh, entries.nodup⟩
    have within : (cookie :: entries.keys).toFinset ⊆ seats := by
      intro other mem
      rcases List.mem_cons.1 (List.mem_toFinset.1 mem) with rfl | old
      · exact seat
      · exact seated other ((mem_keys_iff (d := d.withCharges entries)).1 old)
    have fewer : (cookie :: entries.keys).length ≤ seats.card := by
      rw [← List.toFinset_card_of_nodup nodup]
      exact Finset.card_le_card within
    rw [List.length_cons, Entries.length_keys] at fewer
    omega

end Desk

/-- A table that has room takes a value unless it is made to fail. -/
theorem FaultyTable.ask_upsert_of_room {K V : Type} [DecidableEq K] {t : FaultyTable K V} {key : K}
    (room : t.table.HasRoomFor key) (value : V) :
    (answer (.upsert key value) t).1 =
      match t.faults.upsert with
      | some code => .error ⟨code⟩
      | none => .ok () := by
  rw [answer]
  cases t.faults.upsert with
  | some code => rfl
  | none =>
      show (t.table.answer (.upsert key value)).1 = .ok ()
      rw [Bounded.answer, if_pos room]

/-- A table lets go of a key unless it is made to fail. -/
theorem FaultyTable.ask_delete {K V : Type} [DecidableEq K] (t : FaultyTable K V) (key : K) :
    (answer (.delete key) t).1 =
      match t.faults.delete with
      | some code => .error ⟨code⟩
      | none => .ok () := by
  rw [answer]
  cases t.faults.delete with
  | some code => rfl
  | none => rfl

section Independence

variable {t : Tagger Tables} {d s : Desk} {seats : Finset UInt64}

/-- With room for all, whether a charge can be written does not depend on the other charges. -/
theorem upsert_of_fits (here : d.Fits seats d) (fits : d.Fits seats s)
    (room : seats.card ≤ d.cookieTags.table.capacity) {r : TagRequest}
    (seat : ∀ cookie ∈ d.cookie? r.socket, cookie ∈ seats) : upsert r s = upsert r d := by
  have free : ∀ cookie, d.cookie? r.socket = some cookie →
      s.ask (.cookieTags (.upsert cookie ⟨r.chargeUid, r.tag⟩)) =
        d.ask (.cookieTags (.upsert cookie ⟨r.chargeUid, r.tag⟩)) := by
    intro cookie known
    have own := FaultyTable.ask_upsert_of_room (here.hasRoomFor room (seat cookie known))
      (⟨r.chargeUid, r.tag⟩ : Charge)
    have other := FaultyTable.ask_upsert_of_room (fits.hasRoomFor room (seat cookie known))
      (⟨r.chargeUid, r.tag⟩ : Charge)
    obtain ⟨entries, rfl⟩ := fits.frame
    exact other.trans own.symm
  have same : s.cookie? r.socket = d.cookie? r.socket := by
    obtain ⟨entries, rfl⟩ := fits.frame
    rfl
  rw [upsert, upsert, same]
  cases known : d.cookie? r.socket with
  | none => rfl
  | some cookie => simp only [free cookie known]

/-- A removal never depends on the other charges. -/
theorem removal_withCharges (socket : Descriptor) (entries : Entries UInt64 Charge) :
    removal socket (d.withCharges entries) = removal socket d := by
  have same : (d.withCharges entries).cookie? socket = d.cookie? socket := rfl
  rw [removal, removal, same]
  cases d.cookie? socket with
  | none => rfl
  | some cookie =>
      have free : (d.withCharges entries).ask (.cookieTags (.delete cookie)) =
          d.ask (.cookieTags (.delete cookie)) := by
        have other := FaultyTable.ask_delete (d.withCharges entries).cookieTags cookie
        exact other.trans (FaultyTable.ask_delete d.cookieTags cookie).symm
      simp only [free]

/-- **With room for all, the checks of a request do not depend on the charges.** -/
theorem Request.row_of_fits (here : d.Fits seats d) (fits : d.Fits seats s)
    (room : seats.card ≤ d.cookieTags.table.capacity) (request : Request)
    (seat : ∀ cookie ∈ request.seat? d, cookie ∈ seats) :
    (SessionCall.request request).row t s = (SessionCall.request request).row t d := by
  cases request with
  | tag r =>
      show checklist t r s = checklist t r d
      rw [checklist, checklist, upsert_of_fits here fits room seat]
      obtain ⟨entries, rfl⟩ := fits.frame
      rfl
  | untag socket =>
      obtain ⟨entries, rfl⟩ := fits.frame
      show removalChecklist t socket (d.withCharges entries) = removalChecklist t socket d
      rw [removalChecklist, removalChecklist, removal_withCharges]
      rfl

/-- What a request does to the charges, by its result. -/
theorem Request.ledger_receipt (frame : ∃ entries, s = d.withCharges entries) (request : Request) :
    ((SessionCall.request request).receipt t s).after.ledger =
      s.ledger.write
        (request.landed d ((SessionCall.request request).receipt t s).outcome) := by
  have same : s.cookie? request.socket = d.cookie? request.socket := by
    obtain ⟨entries, rfl⟩ := frame
    rfl
  rw [SessionCall.ledger_after, landed]
  split
  · cases known : d.cookie? request.socket with
    | none => exact Receipt.replay_of_unknown request.writes?_eq (same.trans known) _
    | some cookie => exact Receipt.replay_of_cookie request.writes?_eq (same.trans known) _
  · rfl

/-- A cookie for which a request leaves a charge is one that it needs a place for. -/
theorem Request.seat_of_landed {request : Request} {result : Except TagError Unit}
    {cookie : UInt64} {charge : Charge} (mem : (cookie, some charge) ∈ request.landed d result) :
    request.seat? d = some cookie := by
  rw [landed] at mem
  split at mem
  · rw [Option.mem_toList, Option.map_eq_some_iff] at mem
    obtain ⟨_, known, same⟩ := mem
    obtain ⟨rfl, charges⟩ := Prod.ext_iff.1 same
    exact seat?_of_charge charges known
  · cases mem

/-- Where something stands after writing, it stood before or was written. -/
theorem Ledger.ne_none_of_write {ledger : Ledger} {writes : List (UInt64 × Option Charge)}
    {cookie : UInt64} (distinct : (writes.map Prod.fst).Nodup)
    (stands : ledger.write writes cookie ≠ none) :
    ledger cookie ≠ none ∨ ∃ charge, (cookie, some charge) ∈ writes := by
  by_cases touched : cookie ∈ writes.map Prod.fst
  · obtain ⟨⟨_, charge⟩, mem, rfl⟩ := List.mem_map.1 touched
    rw [write_of_mem distinct mem] at stands
    obtain ⟨value, same⟩ := Option.ne_none_iff_exists'.1 stands
    exact .inr ⟨value, same ▸ mem⟩
  · rw [write_of_not_mem touched] at stands
    exact .inl stands

theorem Request.nodup_landed (request : Request) (result : Except TagError Unit) :
    ((request.landed d result).map Prod.fst).Nodup := by
  rw [landed]
  split
  · cases d.cookie? request.socket with
    | none => exact List.nodup_nil
    | some cookie => exact List.nodup_cons.2 ⟨List.not_mem_nil, List.nodup_nil⟩
  · exact List.nodup_nil

/-- A request that ends well by its checks knows its cookie. -/
theorem Request.cookie_of_verdict {request : Request} (granted : request.verdict t d = .ok ()) :
    ∃ cookie, d.cookie? request.socket = some cookie := by
  have passed : firstRefusal ((SessionCall.request request).row t d) = none :=
    firstRefusal_eq_none_iff.2 (outcome_eq_ok_iff.1 granted)
  exact SessionCall.cookie_of_passed passed request.writes?_eq

/-- **With room for all, requests are independent**: whatever charges a request finds, it ends by
the same checks and writes the same. -/
theorem Request.run_of_fits (here : d.Fits seats d) (fits : d.Fits seats s)
    (room : seats.card ≤ d.cookieTags.table.capacity) (request : Request)
    (seat : ∀ cookie ∈ request.seat? d, cookie ∈ seats) :
    let run := (request.work t).run.run Desk.answer s
    run.value = request.verdict t d ∧ d.Fits seats run.state ∧
      run.state.ledger = s.ledger.write (request.landed d (request.verdict t d)) := by
  intro run
  have ends : run.value = request.verdict t d := by
    have value : run.value = outcome ((SessionCall.request request).row t s) () :=
      ((SessionCall.request request).performs t s).value
    rw [value, row_of_fits here fits room request seat]
    rfl
  have ledger : run.state.ledger = s.ledger.write (request.landed d (request.verdict t d)) := by
    have receipt := request.ledger_receipt (t := t) fits.frame
    rw [← ends]
    exact receipt
  refine ⟨ends, ⟨?_, ?_⟩, ledger⟩
  · have inside := d.world.run_within (request.decidedLast_work t) fits.frame
    rw [Dialogue.run_muted] at inside
    exact inside
  · intro cookie stands
    rw [ledger] at stands
    rcases Ledger.ne_none_of_write (request.nodup_landed _) stands with old | ⟨charge, mem⟩
    · exact fits.seated cookie old
    · exact seat cookie (seat_of_landed mem)

variable {ι : Type} {requests : ι → Request}

/-- Independent requests one after another. -/
theorem inTurn_of_fits (here : d.Fits seats d) (fits : d.Fits seats s)
    (room : seats.card ≤ d.cookieTags.table.capacity)
    (seat : ∀ i, ∀ cookie ∈ (requests i).seat? d, cookie ∈ seats) (order : List ι) :
    ∃ last, InTurn Desk.answer (fun i => ((requests i).work t).run)
        (fun i => (requests i).verdict t d) order s last ∧
      last.ledger = s.ledger.write
        (order.flatMap fun i => (requests i).landed d ((requests i).verdict t d)) := by
  induction order generalizing s with
  | nil => exact ⟨s, .nil s, rfl⟩
  | cons i rest ih =>
      obtain ⟨ends, onward, written⟩ := (requests i).run_of_fits here fits room (seat i)
      obtain ⟨last, behind, ledger⟩ := ih onward
      refine ⟨last, .cons ends behind, ?_⟩
      rw [ledger, written, List.flatMap_cons, Ledger.write_append]

/-- Distinct cookies are written to once each. -/
theorem nodup_landed_flatMap {result : ι → Except TagError Unit}
    (distinct : ∀ i j cookie, d.cookie? (requests i).socket = some cookie →
      d.cookie? (requests j).socket = some cookie → i = j)
    {order : List ι} (once : order.Nodup) :
    ((order.flatMap fun i => (requests i).landed d (result i)).map Prod.fst).Nodup := by
  have known : ∀ i cookie, cookie ∈ ((requests i).landed d (result i)).map Prod.fst →
      d.cookie? (requests i).socket = some cookie := by
    intro i cookie mem
    obtain ⟨write, there, rfl⟩ := List.mem_map.1 mem
    rw [Request.landed] at there
    split at there
    · rw [Option.mem_toList, Option.map_eq_some_iff] at there
      obtain ⟨_, found, rfl⟩ := there
      exact found
    · cases there
  induction order with
  | nil => exact List.nodup_nil
  | cons i rest ih =>
      rw [List.nodup_cons] at once
      rw [List.flatMap_cons, List.map_append]
      refine ((requests i).nodup_landed (result i)).append (ih once.2) ?_
      intro cookie own other
      rw [List.map_flatMap, List.mem_flatMap] at other
      obtain ⟨j, later, there⟩ := other
      have same : i = j := distinct i j cookie (known i cookie own) (known j cookie there)
      exact once.1 (same ▸ later)

end Independence

/-! ## Every race -/

/-- Some order of all begins with a given one. -/
theorem exists_order_of_first {ι : Type} [Fintype ι] [DecidableEq ι] {first : List ι}
    (once : first.Nodup) :
    ∃ order : List ι, order.Nodup ∧ (∀ i, i ∈ order) ∧ order.filter (· ∈ first) = first := by
  let others := Finset.univ.toList.filter fun i => i ∉ first
  have apart : ∀ i ∈ others, i ∉ first := fun i mem => of_decide_eq_true (List.mem_filter.1 mem).2
  refine ⟨first ++ others, ?_, ?_, ?_⟩
  · exact once.append ((Finset.nodup_toList _).filter _) fun i mem other => apart i other mem
  · intro i
    rw [List.mem_append, List.mem_filter, decide_eq_true_eq]
    by_cases mem : i ∈ first
    · exact .inl mem
    · exact .inr ⟨Finset.mem_toList.2 (Finset.mem_univ i), mem⟩
  · have kept : first.filter (· ∈ first) = first :=
      List.filter_eq_self.2 fun i mem => decide_eq_true mem
    have dropped : others.filter (· ∈ first) = [] :=
      List.filter_eq_nil_iff.2 fun i mem taken => apart i mem (of_decide_eq_true taken)
    rw [List.filter_append, kept, dropped, List.append_nil]

section Races

variable {ι : Type} [DecidableEq ι] {t : Tagger Tables} {d : Desk} {requests : ι → Request}
  {schedule : List ι} {result : ι → Except TagError Unit}

/-- **A race of requests is a serial run.** -/
theorem requestRace_serial
    (ended : ∀ i, (requestRace t d requests schedule).result? i = some (result i)) :
    let last := requestRace t d requests schedule
    let writers := last.writers OnCookieTags
    writers.Nodup ∧ (∀ i ∉ writers, ∃ e, result i = .error e) ∧
      ∀ order : List ι, order.filter (· ∈ writers) = writers →
        InTurn Desk.answer (fun i => ((requests i).work t).run) result order d last.state :=
  Race.serializable d.world (fun _ quiet => quiet.2) ⟨d.cookieTags.table.entries, rfl⟩
    (fun i => (requests i).decidedLast_work t) ended

variable [Fintype ι]

/-- **A race of independent requests** ends as their checks say, and leaves what they write in
whatever order. -/
theorem requestRace_of_room
    (distinct : ∀ i j cookie, d.cookie? (requests i).socket = some cookie →
      d.cookie? (requests j).socket = some cookie → i = j)
    (room : (d.seats requests).card ≤ d.cookieTags.table.capacity)
    (ended : ∀ i, (requestRace t d requests schedule).result? i = some (result i)) :
    (∀ i, result i = (requests i).verdict t d) ∧
      ∀ order : List ι, order.Nodup → (∀ i, i ∈ order) →
        (requestRace t d requests schedule).state.ledger = d.ledger.write
          (order.flatMap fun i => (requests i).landed d ((requests i).verdict t d)) := by
  obtain ⟨once, -, serial⟩ := requestRace_serial ended
  -- The race is the serial run in the order of its writes, and that run is known.
  obtain ⟨first, nodup, all, sorted⟩ := exists_order_of_first once
  obtain ⟨last, inTurn, ledger⟩ :=
    inTurn_of_fits (t := t) (d.fits_self requests) (d.fits_self requests) room d.mem_seats first
  obtain ⟨same, results⟩ := (serial first sorted).unique inTurn
  refine ⟨fun i => results i (all i), ?_⟩
  intro order nodup' all'
  have perm : first.Perm order :=
    (List.perm_ext_iff_of_nodup nodup nodup').2 fun i => ⟨fun _ => all' i, fun _ => all i⟩
  rw [same, ledger]
  exact Ledger.write_perm (nodup_landed_flatMap distinct nodup) (perm.flatMap_right _)

end Races

/-- **Requests that race are serializable, and no update is lost.** Nobody calls twice on the table
of charges, and who does not call on it has failed. Results and tables are those of the requests one
after another in the order of these calls, wherever those stand that made none. If no two sockets
have one cookie and the table has room for all cookies, every race and every serial order come to
the same results and the same charges: what nobody wrote to is as before, and each granted charge
has one row. -/
theorem race_serializable {ι : Type} [Fintype ι] [DecidableEq ι] {t : Tagger Tables} {d : Desk}
    {requests : ι → Request} {schedule : List ι} {result : ι → Except TagError Unit}
    (ended : ∀ i, (requestRace t d requests schedule).result? i = some (result i)) :
    let programs := fun i => ((requests i).work t).run
    let last := (requestRace t d requests schedule).state
    let writers := (requestRace t d requests schedule).writers OnCookieTags
    (writers.Nodup ∧ (∀ i ∉ writers, ∃ e, result i = .error e) ∧
      ∀ order : List ι, order.filter (· ∈ writers) = writers →
        InTurn Desk.answer programs result order d last) ∧
    ((∀ i j cookie, d.cookie? (requests i).socket = some cookie →
        d.cookie? (requests j).socket = some cookie → i = j) →
      (d.seats requests).card ≤ d.cookieTags.table.capacity →
      (∀ schedule' result',
        (∀ i, (requestRace t d requests schedule').result? i = some (result' i)) →
          result' = result ∧ (requestRace t d requests schedule').state.ledger = last.ledger) ∧
      (∀ i r, requests i = .tag r → result i = .ok () → ∃ cookie,
        d.cookie? r.socket = some cookie ∧ last.ledger cookie = some ⟨r.chargeUid, r.tag⟩) ∧
      ∀ order : List ι, order.Nodup → (∀ i, i ∈ order) →
        (∃ desk, InTurn Desk.answer programs result order d desk ∧ desk.ledger = last.ledger) ∧
        let writes := order.flatMap fun i => (requests i).landed d (result i)
        last.cookieTags.table.entries.rows.Perm
          (d.cookieTags.table.entries.rows.filter (fun row => row.1 ∉ writes.map Prod.fst) ++
            writes.filterMap fun write => write.2.map (Prod.mk write.1))) := by
  intro programs last writers
  refine ⟨requestRace_serial ended, ?_⟩
  intro distinct room
  obtain ⟨verdicts, written⟩ := requestRace_of_room distinct room ended
  have same : result = fun i => (requests i).verdict t d := funext verdicts
  obtain ⟨order, nodup, all, -⟩ := exists_order_of_first (List.nodup_nil : ([] : List ι).Nodup)
  refine ⟨?_, ?_, ?_⟩
  · intro schedule' result' ended'
    obtain ⟨verdicts', written'⟩ := requestRace_of_room distinct room ended'
    have ledger : (requestRace t d requests schedule').state.ledger = last.ledger :=
      (written' order nodup all).trans (written order nodup all).symm
    exact ⟨(funext verdicts').trans same.symm, ledger⟩
  · intro i r tags granted
    rw [verdicts i] at granted
    obtain ⟨cookie, known⟩ := Request.cookie_of_verdict granted
    have mem : (cookie, (requests i).charge?) ∈
        (requests i).landed d ((requests i).verdict t d) := by
      rw [Request.landed, granted, known]
      exact List.mem_singleton_self _
    have stands : last.ledger cookie = (requests i).charge? := by
      rw [show last.ledger = _ from written order nodup all]
      exact Ledger.write_of_mem (nodup_landed_flatMap distinct nodup)
        (List.mem_flatMap.2 ⟨i, all i, mem⟩)
    rw [tags] at known stands
    exact ⟨cookie, known, stands⟩
  · intro order nodup all
    have ledger : last.ledger =
        d.ledger.write (order.flatMap fun i => (requests i).landed d (result i)) := by
      rw [same]
      exact written order nodup all
    constructor
    · obtain ⟨desk, inTurn, left⟩ := inTurn_of_fits (t := t) (d.fits_self requests)
        (d.fits_self requests) room d.mem_seats order
      rw [← same] at inTurn
      exact ⟨desk, inTurn, left.trans (written order nodup all).symm⟩
    · exact Entries.rows_perm_of_write (nodup_landed_flatMap distinct nodup) ledger

/-- Two users charge a socket each. With one place for both, the later writer is refused, although
he asked first. With two places each has his row. -/
theorem race_serializable_two :
    let t : Tagger Unit := ⟨some (), .default⟩
    let answers (cookie : UInt64) : SocketAnswers := ⟨.ok familyInet, .ok protocolTcp, .ok cookie⟩
    let desk (capacity : Nat) : Desk :=
      { Desk.empty capacity [(3, answers 7), (4, answers 8)] with
        configuration := .put (.empty 8) selectorKey (some 0) }
    let requests (first : Bool) : Request :=
      .tag (if first then ⟨3, 5, 10000, 10000⟩ else ⟨4, 6, 10001, 10001⟩)
    let refused (first : Bool) : Except TagError Unit :=
      if first then .error (.table ⟨ErrorCode.listTooLong⟩) else .ok ()
    let schedule := [true, false, true, false, true, false, true, false, true, false, false, true]
    (∀ i, (requestRace t (desk 1) requests schedule).result? i = some (refused i)) ∧
      InTurn Desk.answer (fun i => ((requests i).work t).run) refused [false, true] (desk 1)
        (requestRace t (desk 1) requests schedule).state ∧
      (∀ i, (requestRace t (desk 2) requests schedule).result? i = some (.ok ())) ∧
      (requestRace t (desk 2) requests schedule).state.cookieTags.table.entries.rows.Perm
        [(7, ⟨10000, 5⟩), (8, ⟨10001, 6⟩)] := by
  intro t answers desk requests refused schedule
  have full : ∀ i, (requestRace t (desk 1) requests schedule).result? i = some (refused i) := by
    decide +kernel
  have wide : ∀ i, (requestRace t (desk 2) requests schedule).result? i = some (.ok ()) := by
    decide +kernel
  refine ⟨full, ?_, wide, ?_⟩
  · exact (race_serializable full).1.2.2 [false, true] (by decide +kernel)
  · have distinct : ∀ i j cookie, (desk 2).cookie? (requests i).socket = some cookie →
        (desk 2).cookie? (requests j).socket = some cookie → i = j := by
      have injective : ∀ i j, (desk 2).cookie? (requests i).socket =
          (desk 2).cookie? (requests j).socket → i = j := by
        decide +kernel
      intro i j cookie one other
      exact injective i j (one.trans other.symm)
    have room : ((desk 2).seats requests).card ≤ (desk 2).cookieTags.table.capacity := by
      decide +kernel
    have all : ∀ i, i ∈ [true, false] := by decide
    exact (((race_serializable wide).2 distinct room).2.2 [true, false] (by decide) all).2

end SocketAttribution
