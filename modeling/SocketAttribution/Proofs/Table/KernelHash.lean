import Mathlib.Data.List.Basic
import SocketAttribution.Table.KernelMap

/-!
# Hash maps of the kernel

What may be relied on where a process works on a hash map of the kernel and nobody else writes to
it: a key is found or missing, a full map refuses a new key, the keys are gone through one behind
the other in some order, and a call that fails changes nothing. The order of the keys is the
kernel's own, and where a new key goes in it is not said.

## Main definitions

* `FollowsManual`: the rules of a hash map, for whatever answers the calls.
* `Harmless`: failed calls and questions change nothing, whatever makes calls fail.
* `KernelHash`: hash maps among the maps of the kernel.

## Main statements

* `KernelHash.followsManual`: they keep to the rules.
* `KernelMap.harmless`: no map is harmed by calls that are made to fail.
-/

namespace SocketAttribution

variable {σ : Type}

/-- The error code of an answer, if it is an error. -/
def MapCall.failure? : (call : MapCall) → call.Answer → Option ErrorCode
  | .lookup _, .error code => some code
  | .update _ _, .error code => some code
  | .delete _, .error code => some code
  | .next _, .error code => some code
  | .lookup _, .ok _ => none
  | .update _ _, .ok _ => none
  | .delete _, .ok _ => none
  | .next _, .ok _ => none

/-- The rules of a hash map with room for so many keys. A state is seen as the entries that it
holds, in the order in which the keys are gone through. -/
structure FollowsManual (answer : (call : MapCall) → σ → call.Answer × σ)
    (view : σ → Entries Bytes Bytes) (room : Nat) : Prop where
  lookup_present : ∀ s key value, (view s).get? key = some value →
    answer (.lookup key) s = (.ok value, s)
  lookup_absent : ∀ s key, (view s).get? key = none →
    answer (.lookup key) s = (.error ErrorCode.noEntry, s)
  /-- A key that is there takes every value, and a new one a place that is free. -/
  update : ∀ s key value, (view s).contains key = true ∨ (view s).size < room →
    ∃ s', answer (.update key value) s = (.ok (), s') ∧
      ∀ k, (view s').get? k = if key = k then some value else (view s).get? k
  update_full : ∀ s key value, (view s).contains key = false → room ≤ (view s).size →
    answer (.update key value) s = (.error ErrorCode.listTooLong, s)
  delete_present : ∀ s key, (view s).contains key = true →
    ∃ s', answer (.delete key) s = (.ok (), s') ∧
      ∀ k, (view s').get? k = if key = k then none else (view s).get? k
  delete_absent : ∀ s key, (view s).contains key = false →
    answer (.delete key) s = (.error ErrorCode.noEntry, s)
  /-- Behind the last of some first keys stands the next one, and behind none the very first. -/
  next : ∀ s front key back, (view s).keys = front ++ key :: back →
    answer (.next front.getLast?) s = (.ok key, s)
  /-- Behind the last of all keys there is none. -/
  next_end : ∀ s, answer (.next (view s).keys.getLast?) s = (.error ErrorCode.noEntry, s)

/-- A call that fails, whatever makes it fail, and a call that only asks leave all as it is. -/
structure Harmless (answer : (call : MapCall) → σ → call.Answer × σ) : Prop where
  failed : ∀ call s code, call.failure? (answer call s).1 = some code → (answer call s).2 = s
  lookup : ∀ key s, (answer (.lookup key) s).2 = s
  next : ∀ after s, (answer (.next after) s).2 = s

/-! ## Maps of the kernel -/

namespace KernelMap

variable (m : KernelMap) (faults : MapFaults)

/-- A change is made, or it fails and is none. -/
theorem changed_cases (outcome : Except ErrorCode KernelMap) :
    (m.changed outcome).1 = .ok () ∨ (m.changed outcome).2 = m := by
  cases outcome with
  | ok m' => exact .inl rfl
  | error code => exact .inr rfl

/-- **No map is harmed by calls that are made to fail.** -/
theorem harmless : Harmless (answer faults) where
  failed call m code failed := by
    cases call with
    | lookup key => rfl
    | next after => rfl
    | update key value =>
        rcases m.changed_cases (orFault faults.update (m.update key value)) with done | same
        · rw [answer, done] at failed
          cases failed
        · exact same
    | delete key =>
        rcases m.changed_cases (orFault faults.delete (m.delete key)) with done | same
        · rw [answer, done] at failed
          cases failed
        · exact same
  lookup _ _ := rfl
  next _ _ := rfl

/-- A change keeps what the kernel says of the map. -/
theorem info_update {key value : Bytes} {m' : KernelMap} (done : m.update key value = .ok m') :
    m'.info = m.info := by
  rw [update] at done
  split at done
  · cases done
    rfl
  split at done
  · split at done
    · cases done
      rfl
    · cases done
  split at done
  · cases done
    rfl
  · cases done

theorem info_delete {key : Bytes} {m' : KernelMap} (done : m.delete key = .ok m') :
    m'.info = m.info := by
  rw [delete] at done
  split at done
  · cases done
  split at done
  · cases done
    rfl
  · cases done

theorem info_changed {outcome : Except ErrorCode KernelMap}
    (kept : ∀ m', outcome = .ok m' → m'.info = m.info) : (m.changed outcome).2.info = m.info := by
  cases outcome with
  | ok m' => exact kept m' rfl
  | error code => rfl

/-- No call changes what the kernel says of the map. -/
theorem info_answer (call : MapCall) : (answer .none call m).2.info = m.info := by
  cases call with
  | lookup key => rfl
  | next after => rfl
  | update key value => exact m.info_changed fun _ => m.info_update
  | delete key => exact m.info_changed fun _ => m.info_delete

end KernelMap

/-- A hash map of the kernel with room for so many keys. -/
structure KernelHash (room : UInt32) where
  map : KernelMap
  isHash : map.isArray = false
  maxEntries : map.info.maxEntries = room

namespace KernelHash

variable {room : UInt32}

theorem eq_of_map_eq {m m' : KernelHash room} (same : m.map = m'.map) : m = m' := by
  cases m
  cases m'
  cases same
  rfl

/-- What a hash map answers. -/
def answer (call : MapCall) (m : KernelHash room) : call.Answer × KernelHash room :=
  ((m.map.answer .none call).1,
    { map := (m.map.answer .none call).2
      isHash := by
        rw [KernelMap.isArray, m.map.info_answer call]
        exact m.isHash
      maxEntries := by rw [m.map.info_answer call, m.maxEntries] })

/-- The entries of a hash map. -/
def entries (m : KernelHash room) : Entries Bytes Bytes := m.map.entries

section Rules

variable (m : KernelHash room) {key value : Bytes}

theorem lookup_of_present (present : m.entries.get? key = some value) :
    m.map.lookup key = .ok value := by
  have found : m.map.entries.get? key = some value := present
  rw [KernelMap.lookup, found]

theorem lookup_of_absent (absent : m.entries.get? key = none) :
    m.map.lookup key = .error ErrorCode.noEntry := by
  have missing : m.map.entries.get? key = none := absent
  rw [KernelMap.lookup, missing]
  simp [m.isHash]

theorem update_of_fits (fits : m.entries.contains key = true ∨ m.entries.size < room.toNat) :
    m.map.update key value = .ok (m.map.set key value) := by
  rw [KernelMap.update]
  split
  · rfl
  · next absent =>
      have free : m.map.entries.size < m.map.info.maxEntries.toNat := by
        rw [m.maxEntries]
        exact fits.resolve_left absent
      rw [if_neg (by simp [m.isHash]), if_pos free]

theorem update_of_full (absent : m.entries.contains key = false)
    (full : room.toNat ≤ m.entries.size) :
    m.map.update key value = .error ErrorCode.listTooLong := by
  have missing : m.map.entries.contains key = false := absent
  have taken : ¬ m.map.entries.size < m.map.info.maxEntries.toNat := by
    rw [m.maxEntries]
    exact Nat.not_lt.2 full
  rw [KernelMap.update, if_neg (by simp [missing]), if_neg (by simp [m.isHash]), if_neg taken]

theorem delete_of_present (present : m.entries.contains key = true) :
    m.map.delete key = .ok { m.map with entries := m.map.entries.erase key } := by
  rw [KernelMap.delete, if_neg (by simp [m.isHash])]
  exact if_pos present

theorem delete_of_absent (absent : m.entries.contains key = false) :
    m.map.delete key = .error ErrorCode.noEntry := by
  have missing : m.map.entries.contains key = false := absent
  rw [KernelMap.delete, if_neg (by simp [m.isHash]), if_neg (by simp [missing])]

/-- Behind a key that is there for the first time stands the rest. -/
theorem keysBehind_eq {init rest : List Bytes} {last : Bytes} (fresh : last ∉ init) :
    KernelMap.keysBehind (init ++ last :: rest) last = rest := by
  have stops : (init ++ last :: rest).dropWhile (· ≠ last) = last :: rest := by
    rw [List.dropWhile_append_of_pos]
    · rw [List.dropWhile_cons_of_neg (by simp)]
    · intro key mem
      exact decide_eq_true fun same => fresh (same ▸ mem)
  rw [KernelMap.keysBehind, stops]

/-- The keys that a walk has before it when it stands behind the last of some first keys. -/
theorem keysAhead_getLast? {front back : List Bytes} (keys : m.entries.keys = front ++ back) :
    m.map.keysAhead front.getLast? = back := by
  have all : m.map.entries.keys = front ++ back := keys
  rcases List.eq_nil_or_concat' front with rfl | ⟨init, last, rfl⟩
  · exact all
  · have nodup : (init ++ [last] ++ back).Nodup := all ▸ m.map.entries.nodup
    have fresh : last ∉ init := by
      intro mem
      have twice := (List.nodup_append.1 nodup).1
      exact (List.nodup_append.1 twice).2.2 last mem last (List.mem_singleton.2 rfl) rfl
    rw [List.getLast?_concat, KernelMap.keysAhead, all, List.append_assoc]
    exact keysBehind_eq fresh

end Rules

/-- **Hash maps among the maps of the kernel keep to the rules.** -/
theorem followsManual : FollowsManual answer (entries : KernelHash room → _) room.toNat where
  lookup_present m key value present := congrArg (·, m) (m.lookup_of_present present)
  lookup_absent m key absent := congrArg (·, m) (m.lookup_of_absent absent)
  update m key value fits := by
    refine ⟨(answer (.update key value) m).2, Prod.ext ?_ rfl, ?_⟩
    · show (m.map.changed (m.map.update key value)).1 = .ok ()
      rw [m.update_of_fits fits]
      rfl
    · intro k
      show (m.map.changed (m.map.update key value)).2.entries.get? k = _
      rw [m.update_of_fits fits]
      exact Entries.get?_put bytesBefore m.map.entries key value k
  update_full m key value absent full := by
    apply Prod.ext
    · show (m.map.changed (m.map.update key value)).1 = .error ErrorCode.listTooLong
      rw [m.update_of_full absent full]
      rfl
    · apply eq_of_map_eq
      show (m.map.changed (m.map.update key value)).2 = m.map
      rw [m.update_of_full absent full]
      rfl
  delete_present m key present := by
    refine ⟨(answer (.delete key) m).2, Prod.ext ?_ rfl, ?_⟩
    · show (m.map.changed (m.map.delete key)).1 = .ok ()
      rw [m.delete_of_present present]
      rfl
    · intro k
      show (m.map.changed (m.map.delete key)).2.entries.get? k = _
      rw [m.delete_of_present present]
      exact Entries.get?_erase m.map.entries key k
  delete_absent m key absent := by
    apply Prod.ext
    · show (m.map.changed (m.map.delete key)).1 = .error ErrorCode.noEntry
      rw [m.delete_of_absent absent]
      rfl
    · apply eq_of_map_eq
      show (m.map.changed (m.map.delete key)).2 = m.map
      rw [m.delete_of_absent absent]
      rfl
  next m front key back keys := by
    have ahead : m.map.keysAhead front.getLast? = key :: back := m.keysAhead_getLast? keys
    have told : m.map.next front.getLast? = .ok key := by rw [KernelMap.next, ahead]
    exact congrArg (·, m) told
  next_end m := by
    have ahead : m.map.keysAhead m.entries.keys.getLast? = [] :=
      m.keysAhead_getLast? (List.append_nil _).symm
    have told : m.map.next m.entries.keys.getLast? = .error ErrorCode.noEntry := by
      rw [KernelMap.next, ahead]
    exact congrArg (·, m) told

end KernelHash

end SocketAttribution
