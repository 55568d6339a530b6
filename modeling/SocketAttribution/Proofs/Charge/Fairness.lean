import SocketAttribution.Proofs.Charge.Checklist
import SocketAttribution.Proofs.Charge.Overshoot
import Mathlib.Algebra.BigOperators.Group.Finset.Basic
import Mathlib.Algebra.Order.BigOperators.Group.Finset

/-!
# Room for others

There are two limits so that a few users who fill a table cannot keep the others out. Where only
some users gain entries, each of them overshoots the limit for one user by no more than the number
of requests that are pending at once, and the entries of a table are the sum over these users. As
long as the limit in all is not below that sum, everybody else finds room at every moment.

## Main definitions

* `Brings`, `ReachesBy`: what can happen while only some users gain entries.
* `Roomy`, `Unfilled`: walks that find room, and programs that are not refused for want of it.
* `Unharmed`: the invariant.

## Main statements

* `Desk.tally_all_le`: the entries of a table as a sum over users.
* `Unharmed.step`: no step that brings entries of these users only leads out of the invariant.
* `others_find_room`: nobody else is ever refused for want of room.
-/

namespace SocketAttribution

open Relation (ReflTransGen)

variable {Tables : Type} {t : Tagger Tables} {limits : QuotaLimits} {k : Nat} {p q : Pool}
  {users : Finset UInt32} {uid : UInt32}

/-! ## Entries of some users -/

/-- Every entry that a step brings is one of certain users. -/
def Brings (users : Finset UInt32) (p q : Pool) : Prop :=
  ∀ view, ∀ key ∈ q.desk.keys view, key ∈ p.desk.keys view ∨ key.uid ∈ users

/-- What can happen step after step, with at most `k` requests pending at every moment, while only
certain users gain entries. -/
def ReachesBy (t : Tagger Tables) (k : Nat) (users : Finset UInt32) : Pool → Pool → Prop :=
  ReflTransGen fun p q => (Step t p q ∧ q.pending ≤ k) ∧ Brings users p q

theorem ReachesBy.reaches (run : ReachesBy t k users p q) : Reaches t k p q :=
  ReflTransGen.mono (fun _ _ next => next.1) p q run

/-- Where nothing changes the statistics tables, nobody gains entries. -/
theorem ReachesSparingStats.reachesBy (run : ReachesSparingStats t k p q) (users : Finset UInt32) :
    ReachesBy t k users p q := by
  refine ReflTransGen.mono (fun a b next => ⟨next.1, ?_⟩) p q run
  intro view key mem
  rw [Desk.keys, next.2 view] at mem
  exact .inl mem

/-- **The entries of a table are the sum over its users.** -/
theorem Desk.tally_all_le {d : Desk} {view : CounterView} {most : Nat}
    (only : ∀ key ∈ d.keys view, key.uid ∈ users)
    (each : ∀ uid ∈ users, d.tally view (.of uid) ≤ most) :
    d.tally view .all ≤ users.card * most := by
  -- Whom the entries are charged to, each as often as he has entries.
  let charged : Multiset UInt32 := (d.keys view).map (·.uid)
  have known : ∀ uid ∈ charged, uid ∈ users := by
    intro uid mem
    obtain ⟨key, there, rfl⟩ := List.mem_map.1 mem
    exact only key there
  have own : ∀ uid, charged.count uid = d.tally view (.of uid) := by
    intro uid
    rw [tally_of, Multiset.coe_count, List.count, List.countP_map]
    exact List.countP_congr fun key _ => by simp
  calc
    d.tally view .all = charged.card := by rw [tally_all, Multiset.coe_card, List.length_map]
    _ = ∑ uid ∈ users, charged.count uid := (Multiset.sum_count_eq_card known).symm
    _ = ∑ uid ∈ users, d.tally view (.of uid) := Finset.sum_congr rfl fun uid _ => own uid
    _ ≤ ∑ _uid ∈ users, most := Finset.sum_le_sum each
    _ = users.card * most := Finset.sum_const_nat fun _ _ => rfl

/-- Who has no entries is counted none. -/
theorem Desk.countP_uid_eq_zero {d : Desk} {view : CounterView}
    (only : ∀ key ∈ d.keys view, key.uid ∈ users) (other : uid ∉ users) :
    (d.keys view).countP (·.uid = uid) = 0 := by
  rw [List.countP_eq_zero]
  intro key mem same
  exact other (of_decide_eq_true same ▸ only key mem)

/-- **Room for others.** Where only certain users have entries, and none of them more than the limit
and `k`, everybody else is admitted. -/
theorem Within.admits (inv : Within t k p)
    (fits : users.card * (t.limits.perUid.toNat + k) ≤ t.limits.total.toNat) {view : CounterView}
    (only : ∀ key ∈ p.desk.keys view, key.uid ∈ users) (other : uid ∉ users) :
    t.limits.Admits (.ofKeys uid (p.desk.keys view)) := by
  have each : ∀ user ∈ users, p.desk.tally view (.of user) ≤ t.limits.perUid.toNat + k := by
    intro user _
    exact Nat.le_trans (Nat.le_add_right _ _) (inv.bounded view (.of user))
  have all : (p.desk.keys view).length ≤ t.limits.total.toNat := by
    rw [← Desk.tally_all]
    exact Nat.le_trans (Desk.tally_all_le only each) fits
  constructor
  · rw [UInt32.le_iff_toNat_le, Occupancy.total_ofKeys uid (p.countable view)]
    exact all
  · show UInt32.ofNat ((p.desk.keys view).countP (·.uid = uid)) ≤ _
    rw [Desk.countP_uid_eq_zero only other]
    exact UInt32.zero_le

/-! ## Programs that find room -/

/-- A walk that comes to its end has found room for a user. All other answers are as they are. -/
def Roomy (limits : QuotaLimits) (uid : UInt32) : (call : TagCall) → call.Answer → Prop
  | .stats _ .scan, walk => ∀ keys, walk.keys = .ok keys → limits.Admits (.ofKeys uid keys)
  | _, _ => True

/-- The outcome is no refusal for want of room. -/
def SparesQuota {α : Type} (outcome : Except TagError α) : Prop :=
  ∀ uid total perUid, outcome ≠ .error (.quotaExceeded uid total perUid)

/-- A part of a request that is not refused for want of room where walks find some. -/
def Unfilled {α : Type} (limits : QuotaLimits) (uid : UInt32) (part : TagAttempt α) : Prop :=
  part.run.Ensures (Roomy limits uid) SparesQuota

section Parts

variable {α β : Type}

theorem sparesQuota_ok (value : α) : SparesQuota (.ok value : Except TagError α) := by
  intro uid total perUid h
  cases h

theorem sparesQuota_ofSocket (answer : Except SystemError α) :
    SparesQuota (answer.mapError TagError.ofSocket) := by
  intro uid total perUid h
  cases answer <;> cases h

theorem sparesQuota_table (answer : Except TableError α) :
    SparesQuota (answer.mapError TagError.table) := by
  intro uid total perUid h
  cases answer <;> cases h

theorem Unfilled.bind {first : TagAttempt α} {next : α → TagAttempt β}
    (before : Unfilled limits uid first) (behind : ∀ value, Unfilled limits uid (next value)) :
    Unfilled limits uid (first >>= next) := by
  rw [Unfilled, Attempt.run_bind]
  refine Dialogue.Ensures.bind before fun outcome spares => ?_
  cases outcome with
  | ok value => exact behind value
  | error e =>
      intro uid total perUid h
      cases h
      exact spares uid total perUid rfl

theorem unfilled_ofExcept {result : Except TagError α} (spares : SparesQuota result) :
    Unfilled limits uid (Attempt.ofExcept result) := spares

theorem unfilled_demand {call : TagCall} {read : call.Answer → Except TagError α}
    (spares : ∀ answer, Roomy limits uid call answer → SparesQuota (read answer)) :
    Unfilled limits uid (Attempt.demand call read) := spares

end Parts

/-- A walk that finds room is not refused. -/
theorem sparesQuota_judgeWalk {walk : Walk StatsKey}
    (roomy : ∀ keys, walk.keys = .ok keys → limits.Admits (.ofKeys uid keys)) :
    SparesQuota (judgeWalk limits uid walk) := by
  intro other total perUid h
  rw [judgeWalk, occupancyOfWalk] at h
  cases found : walk.keys with
  | error e =>
      rw [found] at h
      cases h
  | ok keys =>
      rw [found] at h
      simp only [if_pos (roomy keys found)] at h
      cases h

theorem sparesQuota_selectedView (answer : Except TableError (Option UInt32)) :
    SparesQuota (selectedView answer) := by
  intro uid total perUid h
  rcases answer with e | (_ | value)
  · cases h
  · cases h
  · rw [selectedView] at h
    split at h <;> cases h

/-- A refusal for another reason, if it is one at all. -/
theorem sparesQuota_ite {holds : Prop} [Decidable holds] {e : TagError}
    (other : ∀ uid total perUid, e ≠ .quotaExceeded uid total perUid) :
    SparesQuota (if holds then .ok () else .error e) := by
  intro uid total perUid h
  split at h
  · cases h
  · cases h
    exact other uid total perUid rfl

/-- **Where walks find room, a request to charge a socket is not refused for want of it.** -/
theorem Tagger.unfilled_tagSocket (t : Tagger Tables) (r : TagRequest) :
    Unfilled t.limits r.chargeUid (t.tagSocket r).muted := by
  rw [muted_tagSocket, t.muted_requireTables, r.muted_refuseClat, r.muted_checkFamily,
    r.muted_checkProtocol, r.muted_checkQuota]
  refine .bind (unfilled_ofExcept ?tables) fun _ => .bind ?delegation fun _ => ?_
  case tables => exact sparesQuota_ite fun _ _ _ h => by cases h
  case delegation =>
    rw [r.muted_authorise]
    split
    · exact sparesQuota_ok ()
    · refine unfilled_demand fun answer _ => ?_
      exact sparesQuota_ite fun _ _ _ h => by cases h
  refine .bind (unfilled_ofExcept ?clat) fun _ => .bind (unfilled_demand ?family) fun _ => ?_
  case clat =>
    intro uid total perUid h
    split at h <;> cases h
  case family =>
    rintro (e | family) _
    · exact sparesQuota_ofSocket (.error e)
    · exact sparesQuota_ite fun _ _ _ h => by cases h
  refine .bind (unfilled_demand ?protocol) fun _ => .bind ?cookie fun cookie => ?_
  case protocol =>
    rintro (e | protocol) _
    · exact sparesQuota_ofSocket (.error e)
    · exact sparesQuota_ite fun _ _ _ h => by cases h
  case cookie => exact unfilled_demand fun answer _ => sparesQuota_ofSocket answer
  refine .bind (.bind ?selector fun view => ?walk) fun _ => ?_
  case selector => exact unfilled_demand fun answer _ => sparesQuota_selectedView answer
  case walk => exact unfilled_demand fun walk roomy => sparesQuota_judgeWalk roomy
  rw [r.muted_record]
  exact unfilled_demand fun answer _ => sparesQuota_table answer

/-! ## The invariant -/

/-- Only certain users have entries, and nobody else is going to be refused for want of room. -/
structure Unharmed (t : Tagger Tables) (users : Finset UInt32) (p : Pool) : Prop where
  only : ∀ view, ∀ key ∈ p.desk.keys view, key.uid ∈ users
  admitted : ∀ f ∈ p.flights, ∀ r, f.request = .tag r → r.chargeUid ∉ users →
    f.rest.Ensures (Roomy t.limits r.chargeUid) SparesQuota

namespace Unharmed

/-- The answers that a desk gives find room for others. -/
theorem roomy (inv : Unharmed t users p) (within : Within t k p)
    (fits : users.card * (t.limits.perUid.toNat + k) ≤ t.limits.total.toNat)
    (other : uid ∉ users) (call : TagCall) : Roomy t.limits uid call (p.desk.ask call) := by
  cases call with
  | stats view call =>
      cases call with
      | scan =>
          intro keys found
          rw [Desk.keys_of_walk found]
          exact within.admits fits (inv.only view) other
      | get key => trivial
      | upsert key value => trivial
      | delete key => trivial
  | configuration call => trivial
  | permissions call => trivial
  | cookieTags call => trivial
  | socket query => trivial

/-- **No step that brings entries of these users only leads out of the invariant.** -/
theorem step (inv : Unharmed t users p) (within : Within t k p)
    (fits : users.card * (t.limits.perUid.toNat + k) ≤ t.limits.total.toNat)
    (next : Step t p q) (brings : Brings users p q) : Unharmed t users q where
  only := by
    intro view key mem
    rcases brings view key mem with old | new
    · exact inv.only view key old
    · exact new
  admitted := by
    refine next.forall_flights ?arrives ?moves inv.admitted
    case arrives =>
      intro request r charges other
      obtain rfl : request = .tag r := charges
      exact t.unfilled_tagSocket r
    case moves =>
      intro f call resume _ held asks r charges other
      have going : (Dialogue.ask call resume).Ensures (Roomy t.limits r.chargeUid) SparesQuota :=
        asks ▸ held r charges other
      exact going (p.desk.ask call) (inv.roomy within fits other call)

/-- The invariant holds along every run. -/
theorem reachesBy (inv : Unharmed t users p) (within : Within t k p)
    (fits : users.card * (t.limits.perUid.toNat + k) ≤ t.limits.total.toNat)
    (run : ReachesBy t k users p q) : Unharmed t users q := by
  induction run with
  | refl => exact inv
  | tail before next ih =>
      -- The bound on the entries of each user comes from the run so far, whoever gains entries.
      exact ih.step (within.reaches (ReachesBy.reaches before)) fits next.1.1 next.2

end Unharmed

/-! ## Others find room -/

/-- What the usage tells, if it tells anything. -/
theorem Tagger.usage_eq_ok {d : Desk} {view : CounterView} {occupancy : Occupancy}
    (told : ((t.usage uid).run.run Desk.answer d).value = .ok (view, occupancy)) :
    occupancy = .ofKeys uid (d.keys view) := by
  rw [(t.performs_usage d uid).value, Check.outcome] at told
  split at told
  · cases told
    rfl
  · cases told

/-- **Some users cannot keep the others out.** Where the tables are empty at first, at most `k`
requests are pending at once, only certain users gain entries, and the limit in all is not below
what these users may have together, nobody else is ever refused for want of room. Whenever he asks
for the usage and is told, he has no entries, and the entries in all are within the limit. -/
theorem others_find_room (fits : users.card * (t.limits.perUid.toNat + k) ≤ t.limits.total.toNat)
    (idle : p.flights = []) (clean : ∀ view, p.desk.keys view = [])
    (run : ReachesBy t k users p q) :
    (∀ f ∈ q.flights, ∀ r, f.request = .tag r → r.chargeUid ∉ users →
      ∀ uid total perUid, f.rest ≠ .done (.error (.quotaExceeded uid total perUid))) ∧
    ∀ uid, uid ∉ users → ∀ view occupancy,
      ((t.usage uid).run.run Desk.answer q.desk).value = .ok (view, occupancy) →
        occupancy.perUid = 0 ∧ occupancy.total ≤ t.limits.total := by
  have start : Within t k p := .of_empty idle clean
  have first : Unharmed t users p := by
    refine ⟨fun view key mem => ?_, fun f mem => ?_⟩
    · rw [clean view] at mem
      cases mem
    · rw [idle] at mem
      cases mem
  have inv : Unharmed t users q := first.reachesBy start fits run
  constructor
  · intro f mem r charges other uid total perUid refused
    have spared := inv.admitted f mem r charges other
    rw [refused] at spared
    exact spared uid total perUid rfl
  · intro uid other view occupancy told
    have within : Within t k q := start.reaches run.reaches
    have room : t.limits.Admits (.ofKeys uid (q.desk.keys view)) :=
      within.admits fits (inv.only view) other
    rw [Tagger.usage_eq_ok told]
    refine ⟨?_, room.1⟩
    show UInt32.ofNat _ = 0
    rw [Desk.countP_uid_eq_zero (inv.only view) other]
    rfl

/-- One user goes over his limit of no entries and takes the only one that there may be in all.
Somebody else is admitted behind him, and is told that he has none. -/
theorem others_find_room_tight :
    let t : Tagger Unit := ⟨some (), ⟨0, 1⟩⟩
    let other : TagRequest := ⟨3, 6, 10001, 10001⟩
    ({10000} : Finset UInt32).card * (t.limits.perUid.toNat + 1) ≤ t.limits.total.toNat ∧
    ∃ p q : Pool, p.flights = [] ∧ (∀ view, p.desk.keys view = []) ∧
      ReachesBy t 1 {10000} p q ∧ (q.desk.keys .a).length = 1 ∧
      (∃ f ∈ q.flights, f.request = .tag other ∧ f.rest = .done (.ok ()) ∧
        ∀ uid total perUid, f.rest ≠ .done (.error (.quotaExceeded uid total perUid))) ∧
      ((t.usage 10001).run.run Desk.answer q.desk).value = .ok (.a, ⟨1, 0⟩) ∧
      (⟨1, 0⟩ : Occupancy).perUid = 0 ∧ (⟨1, 0⟩ : Occupancy).total ≤ t.limits.total := by
  intro t other
  have fits : ({10000} : Finset UInt32).card * (t.limits.perUid.toNat + 1) ≤
      t.limits.total.toNat := by decide
  let noisy : TagRequest := ⟨3, 5, 10000, 10000⟩
  let key : StatsKey := ⟨10000, 5, 0, 0⟩
  let charged : Desk :=
    { Desk.small with cookieTags := Desk.small.cookieTags.put 7 (some noisy.charge) }
  let full : Desk := { charged with statsA := charged.statsA.put key (some .zero) }
  let p : Pool := ⟨Desk.small, [], fun view => by cases view <;> decide⟩
  let mid : Pool := ⟨full, [], fun view => by cases view <;> decide⟩
  have clean : ∀ view, p.desk.keys view = [] := by
    intro view
    cases view <;> rfl
  obtain ⟨first, arrived, desk, lone⟩ :=
    ReachesSparingStats.alone (t := t) (p := p) (.tag noisy) (Nat.le_refl 1) rfl
  have same : first.desk = charged := desk
  have fresh : key ∉ first.desk.keys .a := by
    rw [same]
    exact List.not_mem_nil
  have counted : Step t first mid :=
    .count (show first.flights = [] ++ _ :: [] from lone) rfl rfl rfl fresh rfl
      (by rw [same]; rfl) rfl
  have brings : Brings {10000} first mid := by
    intro view entry mem
    right
    cases view with
    | a =>
        rw [List.mem_singleton.1 (show entry ∈ [key] from mem)]
        decide
    | b => exact absurd (show entry ∈ [] from mem) List.not_mem_nil
  obtain ⟨q, later, left, alone⟩ :=
    ReachesSparingStats.alone (t := t) (p := mid) (.tag other) (Nat.le_refl 1) rfl
  have run : ReachesBy t 1 {10000} p q :=
    ((arrived.reachesBy _).tail ⟨⟨counted, Nat.zero_le 1⟩, brings⟩).trans (later.reachesBy _)
  obtain ⟨unrefused, usage⟩ := others_find_room fits rfl clean run
  have stranger : (10001 : UInt32) ∉ ({10000} : Finset UInt32) := by decide
  have there : ∃ f ∈ q.flights, f.request = .tag other ∧ f.rest = .done (.ok ()) := by
    rw [alone]
    exact ⟨_, List.mem_singleton_self _, rfl, rfl⟩
  obtain ⟨f, mem, asked, ended⟩ := there
  have told : ((t.usage 10001).run.run Desk.answer q.desk).value = .ok (.a, ⟨1, 0⟩) := by
    rw [left]
    rfl
  have one : (q.desk.keys .a).length = 1 := by
    rw [left]
    rfl
  exact ⟨fits, p, q, rfl, clean, run, one,
    ⟨f, mem, asked, ended, unrefused f mem other asked stranger⟩, told,
    usage 10001 stranger .a ⟨1, 0⟩ told⟩

end SocketAttribution
