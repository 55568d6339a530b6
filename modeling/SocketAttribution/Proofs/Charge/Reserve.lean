import SocketAttribution.Proofs.Charge.Margin
import SocketAttribution.Proofs.Charge.Overshoot

/-!
# The reserve of a table

Limits that pass the check of their margin keep more entries of a statistics table free than
requests may be pending at once. Requests overshoot the limits by no more than their own number, so
they never use up the reserve: whoever is admitted finds a place for the entry of his traffic, and
one more place is left for traffic that nobody has asked to be charged.

## Main statements

* `QuotaLimits.reserve_of_checked`: the margin in whole numbers.
* `Within.length_add_waiting_lt`: the entries that are there and those that may still come.
* `keys_lt_capacity`: no table fills up.
-/

namespace SocketAttribution

variable {Tables : Type} {t : Tagger Tables} {k : Nat} {p q : Pool} {view : CounterView}

/-! ## The margin -/

/-- **Limits that pass keep more than a hundred entries free.** -/
theorem QuotaLimits.reserve_of_checked {perUid total capacity : UInt32} {limits : QuotaLimits}
    (accepted : checked perUid total capacity = .ok limits) :
    limits.total.toNat + 100 < capacity.toNat := by
  obtain ⟨rfl, keeps⟩ := checked_eq_ok_iff.1 accepted
  have reserve := keeps.reserve
  show total.toNat + 100 < capacity.toNat
  omega

/-! ## Places for entries -/

/-- An entry adds at most one row. -/
theorem Entries.size_put_le {K V : Type} [DecidableEq K] (before : K → K → Bool)
    (e : Entries K V) (key : K) (value : V) : (e.put before key value).size ≤ e.size + 1 := by
  rw [size_put]
  split
  · exact Nat.le_succ _
  · exact Nat.le_refl _

/-- A table with a free place takes every entry. -/
theorem Bounded.answer_upsert_of_lt {K V : Type} [DecidableEq K] {table : Bounded K V}
    (room : table.entries.size < table.capacity) (key : K) (value : V) :
    answer (.upsert key value) table = (.ok (), table.set key value) :=
  if_pos (.inr room)

namespace Within

/-- The entries of a table, together with those that may still come, stay below every capacity for
which the limits pass. -/
theorem length_add_waiting_lt (inv : Within t k p) {perUid total capacity : UInt32}
    (accepted : QuotaLimits.checked perUid total capacity = .ok t.limits) (few : k ≤ 100)
    (view : CounterView) :
    (p.desk.keys view).length + p.waiting view .all < capacity.toNat := by
  have reserve := QuotaLimits.reserve_of_checked accepted
  have held : p.desk.tally view .all + p.waiting view .all ≤ t.limits.total.toNat + k :=
    inv.bounded view .all
  rw [Desk.tally_all] at held
  omega

end Within

/-- An admitted request whose traffic has not been counted yet is one that waits. -/
theorem Pool.waiting_pos {f : Flight} {r : TagRequest} (mem : f ∈ p.flights)
    (ended : f.rest = .done (.ok ())) (charges : f.request = .tag r)
    (walked : f.walked = some view) : 0 < p.waiting view .all := by
  refine List.countP_pos_iff.2 ⟨f, mem, ?_⟩
  simp [Flight.waitsFor, Flight.refused, walked, ended, charges, Request.charged?, Meter.counts]

/-! ## The reserve -/

/-- **The reserve is never used up.** Where limits pass for a capacity, at most a hundred requests
are pending at once and the tables are empty at first, no table ever reaches the capacity. A table
of this capacity takes the entry of every admitted request, and even then keeps a place free. -/
theorem keys_lt_capacity {perUid total capacity : UInt32}
    (accepted : QuotaLimits.checked perUid total capacity = .ok t.limits) (few : k ≤ 100)
    (idle : p.flights = []) (clean : ∀ view, p.desk.keys view = []) (run : Reaches t k p q) :
    ∀ view, (q.desk.keys view).length < capacity.toNat ∧
      ∀ f ∈ q.flights, ∀ r, f.request = .tag r → f.walked = some view → f.rest = .done (.ok ()) →
        (q.desk.stats view).table.capacity = capacity.toNat → ∀ key value,
          let table := (q.desk.stats view).table
          Bounded.answer (.upsert key value) table = (.ok (), table.set key value) ∧
            (table.set key value).entries.size < capacity.toNat := by
  intro view
  have inv : Within t k q := (Within.of_empty idle clean).reaches run
  have held := inv.length_add_waiting_lt accepted few view
  refine ⟨by omega, ?_⟩
  intro f mem r charges walked ended capacious key value table
  have waits : 0 < q.waiting view .all := Pool.waiting_pos mem ended charges walked
  have size : table.entries.size = (q.desk.keys view).length := (Entries.length_keys _).symm
  constructor
  · apply Bounded.answer_upsert_of_lt
    show table.entries.size < (q.desk.stats view).table.capacity
    rw [capacious]
    omega
  · have grown : (table.set key value).entries.size ≤ table.entries.size + 1 :=
      Entries.size_put_le _ _ key value
    omega

/-- With the thinnest margin that passes for a thousand entries, an admitted request finds its
place. -/
theorem keys_lt_capacity_thin :
    let t : Tagger Unit := ⟨some (), ⟨1, 899⟩⟩
    let own : TagRequest := ⟨3, 5, 10000, 10000⟩
    let key : StatsKey := ⟨10000, 5, 0, 0⟩
    QuotaLimits.checked 1 899 1000 = .ok t.limits ∧ ∃ p q : Pool, p.flights = [] ∧
      (∀ view, p.desk.keys view = []) ∧ Reaches t 1 p q ∧
      (∃ f ∈ q.flights, f.request = .tag own ∧ f.walked = some .a ∧ f.rest = .done (.ok ())) ∧
      (q.desk.keys .a).length < (1000 : UInt32).toNat ∧
      (Bounded.answer (.upsert key .zero) (q.desk.stats .a).table).1 = .ok () ∧
      ((q.desk.stats .a).table.set key .zero).entries.size < (1000 : UInt32).toNat := by
  intro t own key
  have accepted : QuotaLimits.checked 1 899 1000 = .ok t.limits := by decide
  let wide : Desk := { Desk.small with statsA := .empty 1000, statsB := .empty 1000 }
  let p : Pool := ⟨wide, [], fun view => by cases view <;> decide⟩
  have clean : ∀ view, p.desk.keys view = [] := by
    intro view
    cases view <;> rfl
  obtain ⟨q, run, desk, lone⟩ := Reaches.alone (t := t) (p := p) (.tag own) (Nat.le_refl 1) rfl
  have below := keys_lt_capacity accepted (by decide) rfl clean run .a
  have there : ∃ f ∈ q.flights, f.request = .tag own ∧ f.walked = some .a ∧
      f.rest = .done (.ok ()) := by
    rw [lone]
    exact ⟨_, List.mem_singleton_self _, rfl, rfl, rfl⟩
  obtain ⟨f, mem, charges, walked, ended⟩ := there
  have capacious : (q.desk.stats .a).table.capacity = (1000 : UInt32).toNat := by
    rw [desk]
    rfl
  obtain ⟨taken, left⟩ := below.2 f mem own charges walked ended capacious key .zero
  exact ⟨accepted, p, q, rfl, clean, run, ⟨f, mem, charges, walked, ended⟩, below.1,
    congrArg Prod.fst taken, left⟩

end SocketAttribution
