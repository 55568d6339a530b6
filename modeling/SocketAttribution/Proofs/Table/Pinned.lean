import Mathlib.Data.List.Nodup
import SocketAttribution.Proofs.Dialogue.Exchange
import SocketAttribution.Proofs.Table.KernelHash
import SocketAttribution.Table.Bounded
import SocketAttribution.Table.Pinned

/-!
# Pinned tables and tables in memory

A hash map of the kernel, used as a table, and a table in memory are the same bounded map. The
kernel has keys and values in their wire form, keeps the keys in an order of its own and tells a
missing key by an error; behind the table calls nothing of this is left but the order of a walk.
What a call of the kernel fails with is passed on, and such a call changes nothing.

## Main definitions

* `Entries.Holds`: entries in wire form that hold the same as others.
* `Mirrors`: a map of the kernel and a table in memory with the same room and the same contents.
* `TableCall.SameAnswer`, `Alike`: answers that differ in the order of a walk at most.
* `TableCall.FailsWith`: what becomes of a failure of the kernel.

## Main statements

* `PinnedHash.run_walk`: a walk goes through all keys.
* `PinnedHash.mirrors_answer`: one call tells the same of both tables and keeps them the same.
* `PinnedHash.mirrors_inTurn`: and so do any calls one after another.
* `PinnedHash.failsWith_of_yields`: the failure of a call of the kernel is that of the table call.
* `PinnedHash.alike_and_failsWith`: both tables over any calls, and what becomes of failures.
-/

namespace SocketAttribution

variable {K V σ : Type}

/-! ## Contents in wire form -/

namespace Entries

variable [DecidableEq K] [Wire K] [Wire V]

/-- Entries in wire form that hold the same as others, in whatever order. -/
structure Holds (m : Entries Bytes Bytes) (e : Entries K V) : Prop where
  get? : ∀ key, m.get? (Wire.encode key) = (e.get? key).map Wire.encode
  /-- No key is there but the wire forms of keys. -/
  typed : ∀ bytes ∈ m.keys, ∃ key : K, Wire.encode key = bytes

namespace Holds

variable {m m' : Entries Bytes Bytes} {e e' : Entries K V}

theorem contains (holds : m.Holds e) (key : K) :
    m.contains (Wire.encode key) = e.contains key := by
  rw [Entries.contains, holds.get? key, Option.isSome_map]
  rfl

theorem mem_keys_iff (holds : m.Holds e) {key : K} :
    Wire.encode key ∈ m.keys ↔ key ∈ e.keys := by
  rw [← contains_iff, ← contains_iff, holds.contains key]

/-- **The keys are the wire forms of the keys, each once.** -/
theorem keys_perm (holds : m.Holds e) : m.keys.Perm (e.keys.map Wire.encode) := by
  have once : (e.keys.map Wire.encode).Nodup :=
    List.Nodup.map (fun _ _ => Wire.encode_injective) e.nodup
  refine (List.perm_ext_iff_of_nodup m.nodup once).2 fun bytes => ⟨fun mem => ?_, fun mem => ?_⟩
  · obtain ⟨key, rfl⟩ := holds.typed bytes mem
    exact List.mem_map_of_mem (holds.mem_keys_iff.1 mem)
  · obtain ⟨key, there, rfl⟩ := List.mem_map.1 mem
    exact holds.mem_keys_iff.2 there

theorem size_eq (holds : m.Holds e) : m.size = e.size := by
  rw [← length_keys, holds.keys_perm.length_eq, List.length_map, length_keys]

/-- What a walk meets, read back, are the keys. -/
theorem decode_keys_perm (holds : m.Holds e) : (m.keys.map Wire.decode).Perm e.keys := by
  have back : (e.keys.map Wire.encode).map Wire.decode = e.keys := by
    rw [List.map_map]
    exact (List.map_congr_left fun key _ => Wire.decode_encode key).trans (List.map_id _)
  exact back ▸ holds.keys_perm.map _

/-- **The same change on both sides**: one key has another value, or none. -/
theorem change (holds : m.Holds e) {key : K} {value? : Option V}
    (wire : ∀ k,
      m'.get? k = if Wire.encode key = k then value?.map Wire.encode else m.get? k)
    (plain : ∀ k, e'.get? k = if key = k then value? else e.get? k) : m'.Holds e' where
  get? k := by
    rw [wire, plain]
    by_cases same : key = k
    · rw [if_pos same, if_pos (congrArg _ same)]
    · rw [if_neg same, if_neg fun h => same (Wire.encode_injective h)]
      exact holds.get? k
  typed bytes mem := by
    have there : (m'.get? bytes).isSome = true := contains_iff.2 mem
    rw [wire] at there
    split at there
    · next same => exact ⟨key, same⟩
    · exact holds.typed bytes (contains_iff.1 there)

end Holds

end Entries

/-- A map of the kernel and a table in memory with the same room and the same contents. -/
structure Mirrors [DecidableEq K] [Wire K] [Wire V] (view : σ → Entries Bytes Bytes)
    (room : UInt32) (s : σ) (t : Bounded K V) : Prop where
  capacity : t.capacity = room.toNat
  fits : t.entries.size ≤ room.toNat
  same : (view s).Holds t.entries

/-! ## The same answers -/

/-- Two answers that tell the same: a walk may go through the keys in any order, but meets each
once. -/
def TableCall.SameAnswer : (call : TableCall K V) → call.Answer → call.Answer → Prop
  | .get _, answer, answer' => answer = answer'
  | .scan, walk, walk' =>
    walk.failure = none ∧ walk'.failure = none ∧
      walk.visited.Nodup ∧ walk.visited.Perm walk'.visited
  | .upsert _ _, answer, answer' => answer = answer'
  | .delete _, answer, answer' => answer = answer'

/-- The same call with answers that tell the same. -/
inductive Alike : Exchange (TableCall K V) TableCall.Answer →
    Exchange (TableCall K V) TableCall.Answer → Prop where
  | intro (call : TableCall K V) {answer answer' : call.Answer}
      (same : call.SameAnswer answer answer') : Alike ⟨call, answer⟩ ⟨call, answer'⟩

/-- What becomes of the failure of a call of the kernel. The code by which the kernel tells a
missing key, or the end of the keys, is no failure where there may be none. -/
def TableCall.FailsWith (code : ErrorCode) : (call : TableCall K V) → call.Answer → Prop
  | .get _, answer => answer = if code = ErrorCode.noEntry then .ok none else .error ⟨code⟩
  | .scan, walk => walk.failure = if code = ErrorCode.noEntry then none else some ⟨code⟩
  | .upsert _ _, answer => answer = .error ⟨code⟩
  | .delete _, answer => answer = if code = ErrorCode.noEntry then .ok () else .error ⟨code⟩

/-- Calls that are made one after another, whatever they are answered. -/
def Dialogue.inTurn {Call : Type} {Answer : Call → Type} : List Call → Dialogue Call Answer Unit
  | [] => .done ()
  | c :: later => .ask c fun _ => inTurn later

namespace PinnedHash

variable [Wire K] [Wire V]

/-- What a hash map answers to table calls. -/
def answer (kernel : (call : MapCall) → σ → call.Answer × σ) (call : TableCall K V) (s : σ) :
    call.Answer × σ :=
  let t := (perform call).run kernel s
  (t.value, t.state)

variable {kernel : (call : MapCall) → σ → call.Answer × σ} {view : σ → Entries Bytes Bytes}
  {room : UInt32} {s : σ} {t : Bounded K V}

/-! ## A map that nobody else writes to -/

/-- **A walk goes through all keys**: behind those that it has met it meets the others, as long as
its patience lasts. -/
theorem run_walk {n : Nat} (rules : FollowsManual kernel view n) :
    ∀ (back front : List Bytes) (met : List K) (patience : Nat),
      (view s).keys = front ++ back → back.length < patience →
      ∃ calls, (walk patience front.getLast? met).run kernel s =
        ⟨.complete (met.reverse ++ back.map Wire.decode), s, calls, []⟩ := by
  intro back
  induction back with
  | nil =>
      intro front met patience keys enough
      obtain ⟨patience, rfl⟩ := Nat.exists_eq_add_one.2 enough
      have ended := rules.next_end s
      rw [keys, List.append_nil] at ended
      refine ⟨[.next front.getLast?], ?_⟩
      rw [walk, Dialogue.run_ask, ended, List.map_nil, List.append_nil]
      rfl
  | cons key back ih =>
      intro front met patience keys enough
      obtain ⟨patience, rfl⟩ := Nat.exists_eq_add_one.2 (Nat.zero_lt_of_lt enough)
      have further : (view s).keys = (front ++ [key]) ++ back := by
        rw [keys, List.append_assoc]
        rfl
      obtain ⟨calls, rest⟩ := ih (front ++ [key]) (Wire.decode key :: met) patience further
        (Nat.lt_of_succ_lt_succ enough)
      rw [List.getLast?_concat, List.reverse_cons, List.append_assoc] at rest
      refine ⟨.next front.getLast? :: calls, ?_⟩
      rw [walk, Dialogue.run_ask, rules.next s front key back keys]
      exact congrArg (Transcript.afterCall _) rest

section Mirror

variable [DecidableEq K] (rules : FollowsManual kernel view room.toNat)
  (mirrors : Mirrors view room s t)
include rules mirrors

theorem answer_get (key : K) :
    answer kernel (.get key : TableCall K V) s = (.ok (t.entries.get? key), s) := by
  have told := mirrors.same.get? key
  cases held : t.entries.get? key with
  | some value =>
      rw [held] at told
      have looked := rules.lookup_present s _ _ told
      rw [answer, perform, Dialogue.run_ask, looked]
      exact congrArg (fun v => (Except.ok (some v), s)) (Wire.decode_encode value)
  | none =>
      rw [held] at told
      have looked := rules.lookup_absent s _ told
      rw [answer, perform, Dialogue.run_ask, looked]
      rfl

theorem answer_scan :
    answer kernel (.scan : TableCall K V) s =
      (.complete ((view s).keys.map Wire.decode), s) := by
  have few : (view s).keys.length < patience := by
    rw [Entries.length_keys, mirrors.same.size_eq]
    exact Nat.lt_of_le_of_lt mirrors.fits room.toNat_lt
  obtain ⟨calls, rest⟩ :=
    run_walk (K := K) rules (view s).keys [] [] patience rfl few
  exact congrArg (fun t => (Transcript.value t, Transcript.state t)) rest

theorem answer_upsert_of_room {key : K} (free : t.HasRoomFor key) (value : V) :
    ∃ s', answer kernel (.upsert key value) s = (.ok (), s') ∧
      Mirrors view room s' (t.set key value) := by
  have fits : (view s).contains (Wire.encode key) = true ∨ (view s).size < room.toNat := by
    rw [mirrors.same.contains key, mirrors.same.size_eq, ← mirrors.capacity]
    exact free
  obtain ⟨s', done, written⟩ := rules.update s _ (Wire.encode value) fits
  refine ⟨s', ?_, mirrors.capacity, ?_,
    mirrors.same.change written (Entries.get?_put _ t.entries key value)⟩
  · rw [answer, perform, Dialogue.run_ask, done]
    rfl
  · show (t.entries.put _ key value).size ≤ room.toNat
    rw [Entries.size_put, ← mirrors.capacity]
    have before : t.entries.size ≤ t.capacity := mirrors.capacity ▸ mirrors.fits
    split
    · exact before
    · next absent => exact free.resolve_left absent

theorem answer_upsert_of_full {key : K} (full : ¬ t.HasRoomFor key) (value : V) :
    answer kernel (.upsert key value) s = (.error ⟨ErrorCode.listTooLong⟩, s) := by
  rw [Bounded.HasRoomFor, not_or, Bool.not_eq_true, Nat.not_lt, mirrors.capacity,
    ← mirrors.same.contains key, ← mirrors.same.size_eq] at full
  have refused := rules.update_full s _ (Wire.encode value) full.1 full.2
  rw [answer, perform, Dialogue.run_ask, refused]
  rfl

theorem answer_delete (key : K) :
    ∃ s', answer kernel (.delete key : TableCall K V) s = (.ok (), s') ∧
      Mirrors view room s' (t.erase key) := by
  have fits : (t.entries.erase key).size ≤ room.toNat :=
    Nat.le_trans (t.entries.size_erase_le key) mirrors.fits
  have removed := t.entries.get?_erase key
  cases present : (view s).contains (Wire.encode key) with
  | true =>
      obtain ⟨s', done, erased⟩ := rules.delete_present s _ present
      refine ⟨s', ?_, mirrors.capacity, fits, mirrors.same.change erased removed⟩
      rw [answer, perform, Dialogue.run_ask, done]
      rfl
  | false =>
      have missing := rules.delete_absent s _ present
      have nothing : (view s).get? (Wire.encode key) = none := by
        simpa [Entries.contains] using present
      refine ⟨s, ?_, mirrors.capacity, fits, mirrors.same.change (fun k => ?_) removed⟩
      · rw [answer, perform, Dialogue.run_ask, missing]
        rfl
      · split
        · next same =>
            rw [← same, nothing]
            rfl
        · rfl

/-- **One call tells the same of both tables and keeps them the same.** -/
theorem mirrors_answer (call : TableCall K V) :
    call.SameAnswer (answer kernel call s).1 (Bounded.answer call t).1 ∧
      Mirrors view room (answer kernel call s).2 (Bounded.answer call t).2 := by
  cases call with
  | get key =>
      rw [answer_get rules mirrors key]
      exact ⟨rfl, mirrors⟩
  | scan =>
      rw [answer_scan rules mirrors]
      have met := mirrors.same.decode_keys_perm
      exact ⟨⟨rfl, rfl, met.nodup_iff.2 t.entries.nodup, met⟩, mirrors⟩
  | upsert key value =>
      by_cases free : t.HasRoomFor key
      · obtain ⟨s', done, kept⟩ := answer_upsert_of_room rules mirrors free value
        rw [done, Bounded.answer, if_pos free]
        exact ⟨rfl, kept⟩
      · rw [answer_upsert_of_full rules mirrors free value, Bounded.answer, if_neg free]
        exact ⟨rfl, mirrors⟩
  | delete key =>
      obtain ⟨s', done, kept⟩ := answer_delete rules mirrors key
      rw [done]
      exact ⟨rfl, kept⟩

end Mirror

/-- **Both tables over any calls**: they tell the same and end the same. -/
theorem mirrors_inTurn [DecidableEq K] (rules : FollowsManual kernel view room.toNat)
    (mirrors : Mirrors view room s t) (calls : List (TableCall K V)) :
    List.Forall₂ Alike ((Dialogue.inTurn calls).exchanges (answer kernel) s)
        ((Dialogue.inTurn calls).exchanges Bounded.answer t) ∧
      Mirrors view room ((Dialogue.inTurn calls).run (answer kernel) s).state
        ((Dialogue.inTurn calls).run Bounded.answer t).state := by
  induction calls generalizing s t with
  | nil => exact ⟨.nil, mirrors⟩
  | cons call calls ih =>
      obtain ⟨same, kept⟩ := mirrors_answer rules mirrors call
      obtain ⟨alike, kept⟩ := ih kept
      exact ⟨.cons (.intro call same) alike, kept⟩

/-! ## A map whose calls fail -/

section Failure

variable {exchange : Exchange MapCall MapCall.Answer} {code : ErrorCode}
  {talk : List (Exchange MapCall MapCall.Answer)}

/-- **A walk ends where a call fails**, with its code, unless it tells that the keys are over. -/
theorem failure_walk {patience : Nat} {after : Option Bytes} {met : List K} {outcome : Walk K}
    (yields : (walk patience after met).Yields talk outcome) (made : exchange ∈ talk)
    (failed : exchange.1.failure? exchange.2 = some code) :
    outcome.failure = if code = ErrorCode.noEntry then none else some ⟨code⟩ := by
  induction patience generalizing after met talk with
  | zero =>
      obtain ⟨rfl, rfl⟩ := yields
      cases made
  | succ patience ih =>
      obtain ⟨told, later, rfl, ends⟩ := yields
      cases told with
      | ok key =>
          rcases List.mem_cons.1 made with rfl | made
          · cases failed
          · exact ih ends made
      | error code' =>
          by_cases ended : code' = ErrorCode.noEntry
          · simp only [nextKey, if_pos ended] at ends
            obtain ⟨rfl, rfl⟩ := ends
            obtain rfl := List.mem_singleton.1 made
            obtain rfl := Option.some.inj failed
            exact (if_pos ended).symm
          · simp only [nextKey, if_neg ended] at ends
            obtain ⟨rfl, rfl⟩ := ends
            obtain rfl := List.mem_singleton.1 made
            obtain rfl := Option.some.inj failed
            exact (if_neg ended).symm

theorem found_ofLookup (code : ErrorCode) :
    found (V := V) (.error (.ofLookup code)) =
      if code = ErrorCode.noEntry then .ok none else .error ⟨code⟩ := by
  rw [MapError.ofLookup]
  split
  · rfl
  · rfl

/-- **The failure of a call of the kernel is that of the table call.** -/
theorem failsWith_of_yields {call : TableCall K V} {outcome : call.Answer}
    (yields : (perform call).Yields talk outcome) (made : exchange ∈ talk)
    (failed : exchange.1.failure? exchange.2 = some code) : call.FailsWith code outcome := by
  cases call with
  | get key =>
      obtain ⟨told, _, rfl, rfl, rfl⟩ := yields
      obtain rfl := List.mem_singleton.1 made
      cases told with
      | ok value => cases failed
      | error code' =>
          obtain rfl := Option.some.inj failed
          exact found_ofLookup code'
  | scan => exact failure_walk yields made failed
  | upsert key value =>
      obtain ⟨told, _, rfl, rfl, rfl⟩ := yields
      obtain rfl := List.mem_singleton.1 made
      cases told with
      | ok value => cases failed
      | error code' =>
          obtain rfl := Option.some.inj failed
          rfl
  | delete key =>
      obtain ⟨told, _, rfl, rfl, rfl⟩ := yields
      obtain rfl := List.mem_singleton.1 made
      cases told with
      | ok value => cases failed
      | error code' =>
          obtain rfl := Option.some.inj failed
          rfl

variable (harmless : Harmless kernel)
include harmless

/-- A walk changes nothing. -/
theorem state_walk (patience : Nat) (after : Option Bytes) (met : List K) :
    ((walk patience after met).run kernel s).state = s := by
  induction patience generalizing after met with
  | zero => rfl
  | succ patience ih =>
      have same := harmless.next after s
      rcases told : kernel (.next after) s with ⟨code | key, s'⟩
      all_goals
        rw [told] at same
        rw [walk, Dialogue.run_ask, told, same]
      · by_cases ended : code = ErrorCode.noEntry
        · rw [nextKey, if_pos ended]
          rfl
        · rw [nextKey, if_neg ended]
          rfl
      · exact ih _ _

/-- A table call changes nothing if a call of the kernel fails that it makes. -/
theorem state_of_failure {call : TableCall K V}
    (made : exchange ∈ (perform call).exchanges kernel s)
    (failed : exchange.1.failure? exchange.2 = some code) : (answer kernel call s).2 = s := by
  cases call with
  | get key => exact harmless.lookup _ s
  | scan => exact state_walk harmless _ _ _
  | upsert key value =>
      obtain rfl := List.mem_singleton.1 made
      exact harmless.failed _ s code failed
  | delete key =>
      obtain rfl := List.mem_singleton.1 made
      exact harmless.failed _ s code failed

end Failure

/-- **The pinned table and the table in memory are one bounded map.** Over a map that nobody else
writes to, any calls are told the same by both and leave the same contents. Where a call of the
kernel fails, the table call fails with its code, unless it tells that there is no such key, and
changes nothing. -/
theorem alike_and_failsWith [DecidableEq K] {τ : Type}
    {faulty : (call : MapCall) → τ → call.Answer × τ}
    (rules : FollowsManual kernel view room.toNat) (harmless : Harmless faulty)
    (mirrors : Mirrors view room s t) (calls : List (TableCall K V)) :
    (List.Forall₂ Alike ((Dialogue.inTurn calls).exchanges (answer kernel) s)
        ((Dialogue.inTurn calls).exchanges Bounded.answer t) ∧
      Mirrors view room ((Dialogue.inTurn calls).run (answer kernel) s).state
        ((Dialogue.inTurn calls).run Bounded.answer t).state) ∧
    ∀ (call : TableCall K V) (s : τ) (code : ErrorCode),
      (∃ exchange ∈ (perform call).exchanges faulty s,
        exchange.1.failure? exchange.2 = some code) →
      call.FailsWith code (answer faulty call s).1 ∧ (answer faulty call s).2 = s := by
  refine ⟨mirrors_inTurn rules mirrors calls, ?_⟩
  rintro call s code ⟨exchange, made, failed⟩
  have yields := (perform call).yields_exchanges faulty s
  exact ⟨failsWith_of_yields yields made failed, state_of_failure harmless made failed⟩

/-- A map with room for two keys, which is filled, overwritten and gone through, and whose removals
are then made to fail. -/
theorem alike_and_failsWith_two :
    let map : KernelMap := ⟨⟨1, 4, 1, 2⟩, .empty⟩
    let hash : KernelHash 2 := ⟨map, rfl, rfl⟩
    let table : Bounded UInt32 UInt8 := .empty 2
    let calls : List (TableCall UInt32 UInt8) :=
      [.upsert 256 1, .upsert 7 2, .upsert 5 3, .upsert 7 4, .delete 5, .scan, .get 7]
    let faults : MapFaults := { MapFaults.none with delete := some ErrorCode.badDescriptor }
    Mirrors KernelHash.entries 2 hash table ∧
      List.Forall₂ Alike ((Dialogue.inTurn calls).exchanges (answer KernelHash.answer) hash)
        ((Dialogue.inTurn calls).exchanges Bounded.answer table) ∧
      ((Dialogue.inTurn calls).run Bounded.answer table).state.entries.rows =
        [(256, 1), (7, 4)] ∧
      (TableCall.delete 5 : TableCall UInt32 UInt8).FailsWith ErrorCode.badDescriptor
        (answer (KernelMap.answer faults) (.delete 5) map).1 := by
  intro map hash table calls faults
  have mirrors : Mirrors KernelHash.entries 2 hash table :=
    ⟨rfl, by decide, fun _ => rfl, fun _ mem => nomatch mem⟩
  have both :=
    alike_and_failsWith KernelHash.followsManual (KernelMap.harmless faults) mirrors calls
  refine ⟨mirrors, both.1.1, by decide, ?_⟩
  exact (both.2 (.delete 5) map ErrorCode.badDescriptor
    ⟨⟨.delete (Wire.encode (5 : UInt32)), .error ErrorCode.badDescriptor⟩, .head _, rfl⟩).1

end PinnedHash

end SocketAttribution
