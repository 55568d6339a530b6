import Mathlib.Algebra.BigOperators.Group.Finset.Basic
import SocketAttribution.Proofs.Charge.Demands
import SocketAttribution.Proofs.Charge.Desk

/-!
# The occupancy is the number of keys of the live table

Two counters go with a walk through the live table: one for all keys and one for those of a user.
What they come to is the number of keys of the table and of that user, in whatever order the walk
met them, because neither counter overflows below `2 ^ 32` keys. Only the live table is asked, so
nothing else has a part in it, and a walk that is cut short comes to nothing but its error.

## Main definitions

* `CounterView.selector`: the value of the cell that selects a table.
* `Occupancy.visit`: the two counters behind one more key.
* `Walk.Covers`: a walk that met each key of a table once.
* `Census`, `CountedThrough`: what counters come to, and how they got there.
* `TellsCensus`: the counts for all users.
* `LiveWalk`, `Desk.Selects`: which table is live, and how it answers a walk.
* `LiveCount`, `DeskCount`, `CountsLive`: what a program tells that counts the keys of the live
  table.

## Main statements

* `Occupancy.foldl_visit`: counting key by key comes to the counts of all keys.
* `Census.of_covers`, `Census.sum_perUid`: the counts of a walk, and the shares of all users.
* `occupancy_countsLive`: **the occupancy and the usage are the counts of the live table**.
-/

namespace SocketAttribution

/-- The value of the selector cell that selects a table. -/
def CounterView.selector : CounterView → UInt32
  | .a => 0
  | .b => 1

@[simp] theorem CounterView.ofSelector?_selector (view : CounterView) :
    ofSelector? view.selector = some view := by
  cases view <;> rfl

/-! ## Counting -/

namespace Occupancy

variable (uid : UInt32)

/-- The counters behind one more key. -/
def visit (counted : Occupancy) (key : StatsKey) : Occupancy :=
  ⟨counted.total + 1, if key.uid = uid then counted.perUid + 1 else counted.perUid⟩

theorem ofKeys_concat (keys : List StatsKey) (key : StatsKey) :
    ofKeys uid (keys ++ [key]) = (ofKeys uid keys).visit uid key := by
  rw [ofKeys, ofKeys, visit, List.length_append, List.length_singleton, List.countP_append,
    List.countP_singleton]
  by_cases own : key.uid = uid
  · simp [own, UInt32.ofNat_add]
  · simp [own, UInt32.ofNat_add]

/-- **Counting key by key comes to the counts of all keys.** -/
theorem foldl_visit (keys : List StatsKey) : keys.foldl (visit uid) ⟨0, 0⟩ = ofKeys uid keys := by
  induction keys using List.reverseRecOn with
  | nil => rfl
  | append_singleton keys key ih => rw [List.foldl_concat, ih, ofKeys_concat]

/-- Keys are counted in any order. -/
theorem ofKeys_perm {first second : List StatsKey} (perm : first.Perm second) :
    ofKeys uid first = ofKeys uid second := by
  rw [ofKeys, ofKeys, perm.length_eq, perm.countP_eq]

end Occupancy

/-- A walk that came to its end and met each of some keys once, and no other. -/
structure Walk.Covers {K : Type} (walk : Walk K) (keys : Finset K) : Prop where
  ended : walk.failure = none
  nodup : walk.visited.Nodup
  mem_iff : ∀ key, key ∈ walk.visited ↔ key ∈ keys

/-- What an occupancy says of the keys of a table: how many there are, and how many of a user. -/
structure Census (uid : UInt32) (keys : Finset StatsKey) (occupancy : Occupancy) : Prop where
  total : occupancy.total.toNat = keys.card
  perUid : occupancy.perUid.toNat = (keys.filter (·.uid = uid)).card
  perUid_le : occupancy.perUid ≤ occupancy.total

/-- An occupancy is what the counters come to along a walk, and neither overflows on the way. -/
structure CountedThrough (uid : UInt32) (visited : List StatsKey) (occupancy : Occupancy) :
    Prop where
  counted : visited.foldl (Occupancy.visit uid) ⟨0, 0⟩ = occupancy
  fits : ∀ front key back, visited = front ++ key :: back →
    (front.foldl (Occupancy.visit uid) ⟨0, 0⟩).total.toNat + 1 < 2 ^ 32 ∧
      (front.foldl (Occupancy.visit uid) ⟨0, 0⟩).perUid.toNat + 1 < 2 ^ 32

theorem CountedThrough.ofKeys {visited : List StatsKey} (uid : UInt32)
    (few : visited.length < 2 ^ 32) : CountedThrough uid visited (.ofKeys uid visited) := by
  refine ⟨Occupancy.foldl_visit uid visited, ?_⟩
  rintro front key back rfl
  rw [List.length_append, List.length_cons] at few
  have before : front.length < 2 ^ 32 := by omega
  have own : front.countP (·.uid = uid) ≤ front.length := List.countP_le_length
  rw [Occupancy.foldl_visit, Occupancy.total_ofKeys uid before, Occupancy.perUid_ofKeys uid before]
  omega

section Census

variable {walk : Walk StatsKey} {keys : Finset StatsKey}

theorem Walk.Covers.toFinset_visited (covers : walk.Covers keys) :
    walk.visited.toFinset = keys := by
  ext key
  rw [List.mem_toFinset, covers.mem_iff]

theorem Walk.Covers.length_visited (covers : walk.Covers keys) :
    walk.visited.length = keys.card := by
  rw [← covers.toFinset_visited, List.toFinset_card_of_nodup covers.nodup]

/-- **The counts of a walk are those of the keys that it covers.** -/
theorem Census.of_covers (covers : walk.Covers keys) (few : keys.card < 2 ^ 32) (uid : UInt32) :
    Census uid keys (.ofKeys uid walk.visited) := by
  have short : walk.visited.length < 2 ^ 32 := by
    rw [covers.length_visited]
    exact few
  refine ⟨?total, ?perUid, ?perUid_le⟩
  case total => rw [Occupancy.total_ofKeys uid short, covers.length_visited]
  case perUid =>
    have own : (walk.visited.filter (·.uid = uid)).toFinset = keys.filter (·.uid = uid) := by
      ext key
      simp [covers.mem_iff]
    rw [Occupancy.perUid_ofKeys uid short, List.countP_eq_length_filter, ← own,
      List.toFinset_card_of_nodup (covers.nodup.filter _)]
  case perUid_le =>
    rw [UInt32.le_iff_toNat_le, Occupancy.total_ofKeys uid short,
      Occupancy.perUid_ofKeys uid short]
    exact List.countP_le_length

/-- **The shares of all users make up the whole.** -/
theorem Census.sum_perUid {counted : UInt32 → Occupancy}
    (census : ∀ uid, Census uid keys (counted uid)) (uid : UInt32) :
    ∑ other ∈ keys.image StatsKey.uid, (counted other).perUid.toNat =
      (counted uid).total.toNat := by
  rw [(census uid).total, Finset.card_eq_sum_card_image StatsKey.uid keys]
  exact Finset.sum_congr rfl fun other _ => (census other).perUid

end Census

/-- What is told of each user is the live view, the number of its keys and that of his own, counted
along a walk, and the shares of all who have one make up the whole. -/
def TellsCensus (told : UInt32 → Except TagError (CounterView × Occupancy)) (view : CounterView)
    (visited : List StatsKey) (keys : Finset StatsKey) : Prop :=
  ∃ counted : UInt32 → Occupancy,
    (∀ uid, told uid = .ok (view, counted uid) ∧ Census uid keys (counted uid) ∧
      CountedThrough uid visited (counted uid)) ∧
    ∀ uid, ∑ other ∈ keys.image StatsKey.uid, (counted other).perUid.toNat =
      (counted uid).total.toNat

/-! ## The live table -/

section LiveWalk

variable {σ : Type}

/-- What a program that counts tells of a user. -/
def tells (count : UInt32 → TagAttempt (CounterView × Occupancy))
    (answer : (call : TagCall) → σ → call.Answer × σ) (state : σ) (uid : UInt32) :
    Except TagError (CounterView × Occupancy) :=
  ((count uid).run.run answer state).value

/-- From this state, a view is selected, and its table answers a walk in a certain way. -/
structure LiveWalk (answer : (call : TagCall) → σ → call.Answer × σ) (state : σ)
    (view : CounterView) (walk : Walk StatsKey) : Prop where
  selected : (answer (.configuration (.get 1)) state).1 = .ok (some view.selector)
  walked : (answer (.stats view .scan) (answer (.configuration (.get 1)) state).2).1 = walk

/-- **What a program tells that counts the keys of the live table.** -/
structure LiveCount (count : UInt32 → TagAttempt (CounterView × Occupancy))
    (answer : (call : TagCall) → σ → call.Answer × σ) (state : σ) (view : CounterView)
    (walk : Walk StatsKey) : Prop where
  /-- It asks which table is live, and walks through that one. -/
  calls : ∀ uid, ((count uid).run.run answer state).calls =
    [.configuration (.get 1), .stats view .scan]
  census : ∀ keys : Finset StatsKey, walk.Covers keys → keys.card < 2 ^ 32 →
    TellsCensus (tells count answer state) view walk.visited keys
  /-- A walk that is cut short comes to its error, however far it got. -/
  cut : ∀ e, walk.failure = some e → ∀ uid, tells count answer state uid = .error (.table e)

variable {answer : (call : TagCall) → σ → call.Answer × σ} {state : σ}
  {view : CounterView} {walk : Walk StatsKey}

/-- **Two calls and what they come to**: the selection, and the walk through what is selected. -/
theorem LiveWalk.run_readOccupancy (live : LiveWalk answer state view walk) (uid : UInt32) :
    ((readOccupancy uid).run.run answer state).value =
        (occupancyOfWalk uid walk).map (view, ·) ∧
      ((readOccupancy uid).run.run answer state).calls =
        [.configuration (.get 1), .stats view .scan] := by
  have muted := Dialogue.run_muted answer (readOccupancy uid).run state
  have selects : ((Attempt.demand (.configuration (.get selectorKey)) selectedView :
      TagAttempt CounterView).run.run answer state).value = .ok view := by
    show selectedView (answer (.configuration (.get 1)) state).1 = .ok view
    rw [live.selected, selectedView, CounterView.ofSelector?_selector]
  rw [← Attempt.run_muted, muted_readOccupancy, Attempt.run_bind_of_ok selects] at muted
  injection muted with value _ calls _
  refine ⟨value.symm.trans ?_, calls.symm⟩
  show (occupancyOfWalk uid (answer (.stats view .scan) _).1).map _ = _
  rw [← live.walked]
  rfl

/-- A walk that came to its end is counted. -/
theorem LiveWalk.counted (live : LiveWalk answer state view walk) (ended : walk.failure = none)
    (uid : UInt32) :
    tells readOccupancy answer state uid = .ok (view, .ofKeys uid walk.visited) := by
  rw [tells, (live.run_readOccupancy uid).1, occupancyOfWalk, Walk.keys, ended]
  rfl

/-- A walk that was cut short is not. -/
theorem LiveWalk.cut (live : LiveWalk answer state view walk) {e : TableError}
    (failed : walk.failure = some e) (uid : UInt32) :
    tells readOccupancy answer state uid = .error (.table e) := by
  rw [tells, (live.run_readOccupancy uid).1, occupancyOfWalk, Walk.keys, failed]
  rfl

/-- **The occupancy is the count of the live table.** -/
theorem LiveWalk.liveCount (live : LiveWalk answer state view walk) :
    LiveCount readOccupancy answer state view walk := by
  refine ⟨fun uid => (live.run_readOccupancy uid).2, ?census, fun e => live.cut⟩
  case census =>
    intro keys covers few
    have short : walk.visited.length < 2 ^ 32 := by
      rw [covers.length_visited]
      exact few
    have census (uid : UInt32) := Census.of_covers covers few uid
    exact ⟨fun uid => .ofKeys uid walk.visited,
      fun uid => ⟨live.counted covers.ended uid, census uid, .ofKeys uid short⟩,
      Census.sum_perUid census⟩

/-- **Only the live view and the walk matter**, and not the order of the walk. -/
theorem LiveWalk.value_eq {σ' : Type} {answer' : (call : TagCall) → σ' → call.Answer × σ'}
    {state' : σ'} {walk' : Walk StatsKey} (live : LiveWalk answer state view walk)
    (live' : LiveWalk answer' state' view walk') (failure : walk.failure = walk'.failure)
    (order : walk.failure = none → walk.visited.Perm walk'.visited) (uid : UInt32) :
    tells readOccupancy answer state uid = tells readOccupancy answer' state' uid := by
  cases failed : walk.failure with
  | none =>
      rw [live.counted failed, live'.counted (failure.symm.trans failed),
        Occupancy.ofKeys_perm uid (order failed)]
  | some e => rw [live.cut failed, live'.cut (failure.symm.trans failed)]

end LiveWalk

/-! ## Desks -/

/-- The cell of the configuration can be read and selects a view. -/
structure Desk.Selects (d : Desk) (view : CounterView) : Prop where
  readable : d.configuration.faults.get = none
  cell : d.configuration.table.entries.get? 1 = some view.selector

/-- **What a program tells that counts the keys of the selected table of a desk.** -/
structure DeskCount (count : UInt32 → TagAttempt (CounterView × Occupancy)) (d : Desk)
    (view : CounterView) : Prop where
  census : (d.stats view).faults.scan = none → (d.keys view).length < 2 ^ 32 →
    TellsCensus (tells count Desk.answer d) view (d.keys view) (d.keys view).toFinset
  cut : ∀ code, (d.stats view).faults.scan = some code →
    ∀ uid, tells count Desk.answer d uid = .error (.table ⟨code⟩)
  /-- The table that is not selected has no part in it, whatever it holds and however it fails. -/
  unselected : ∀ other, other ≠ view → ∀ table uid,
    tells count Desk.answer (d.setStats table other) uid = tells count Desk.answer d uid

namespace Desk

variable {d : Desk} {view : CounterView}

theorem Selects.ask (selects : d.Selects view) :
    d.ask (.configuration (.get 1)) = .ok (some view.selector) := by
  show (FaultyTable.answer (.get 1) d.configuration).1 = _
  rw [FaultyTable.answer, selects.readable]
  exact congrArg Except.ok selects.cell

theorem Selects.setStats (selects : d.Selects view) (table : FaultyTable StatsKey StatsValue)
    (other : CounterView) : (d.setStats table other).Selects view := by
  cases other with
  | a => exact ⟨selects.readable, selects.cell⟩
  | b => exact ⟨selects.readable, selects.cell⟩

/-- **A desk walks through the table that it selects.** -/
theorem Selects.liveWalk (selects : d.Selects view) :
    LiveWalk answer d view (d.ask (.stats view .scan)) := by
  have reads : (TagCall.configuration (.get 1)).Reads := trivial
  have unchanged : (answer (.configuration (.get 1)) d).2 = d := answer_of_reads reads d
  refine ⟨selects.ask, ?_⟩
  rw [unchanged]
  rfl

theorem ask_scan_of_none (sound : (d.stats view).faults.scan = none) :
    d.ask (.stats view .scan) = .complete (d.keys view) := by
  show (FaultyTable.answer .scan (d.stats view)).1 = _
  rw [FaultyTable.answer, sound]
  rfl

theorem ask_scan_of_some {code : ErrorCode} (faulty : (d.stats view).faults.scan = some code) :
    d.ask (.stats view .scan) = ⟨d.keys view, some ⟨code⟩⟩ := by
  show (FaultyTable.answer .scan (d.stats view)).1 = _
  rw [FaultyTable.answer, faulty]
  rfl

/-- **The occupancy is the count of the table that the desk selects.** -/
theorem Selects.deskCount (selects : d.Selects view) : DeskCount readOccupancy d view := by
  have live := selects.liveWalk
  refine ⟨?census, ?cut, ?unselected⟩
  case census =>
    intro sound few
    rw [ask_scan_of_none sound] at live
    have covers : (Walk.complete (d.keys view)).Covers (d.keys view).toFinset :=
      ⟨rfl, d.nodup_keys view, fun key => List.mem_toFinset.symm⟩
    have card : (d.keys view).toFinset.card < 2 ^ 32 := by
      rw [← covers.length_visited]
      exact few
    exact live.liveCount.census _ covers card
  case cut =>
    intro code faulty uid
    rw [ask_scan_of_some faulty] at live
    exact live.cut rfl uid
  case unselected =>
    intro other distinct table uid
    have same : (d.setStats table other).ask (.stats view .scan) = d.ask (.stats view .scan) := by
      show (FaultyTable.answer .scan ((d.setStats table other).stats view)).1 = _
      rw [stats_setStats_other d table distinct.symm]
      rfl
    have changed := (selects.setStats table other).liveWalk
    rw [same] at changed
    exact changed.value_eq live rfl (fun _ => .refl _) uid

end Desk

/-! ## Occupancy and usage -/

/-- **A program counts the keys of the live table**, whoever answers its calls, in whatever order a
walk meets the keys, and whatever else there is. -/
structure CountsLive (count : UInt32 → TagAttempt (CounterView × Occupancy)) : Prop where
  of_walk : ∀ {σ : Type} (answer : (call : TagCall) → σ → call.Answer × σ) (state : σ) view walk,
    LiveWalk answer state view walk → LiveCount count answer state view walk
  /-- Two walks through the same keys come to the same, and so do two with the same error. -/
  any_order : ∀ {σ σ' : Type} (answer : (call : TagCall) → σ → call.Answer × σ)
    (answer' : (call : TagCall) → σ' → call.Answer × σ') (state : σ) (state' : σ') view walk walk',
    LiveWalk answer state view walk → LiveWalk answer' state' view walk' →
    walk.failure = walk'.failure → (walk.failure = none → walk.visited.Perm walk'.visited) →
    ∀ uid, tells count answer state uid = tells count answer' state' uid
  of_desk : ∀ d view, d.Selects view → DeskCount count d view

theorem readOccupancy_countsLive : CountsLive readOccupancy where
  of_walk _ _ _ _ live := live.liveCount
  any_order _ _ _ _ _ _ _ live live' failure order := live.value_eq live' failure order
  of_desk _ _ selects := selects.deskCount

/-- With open tables, the usage is the occupancy. -/
theorem Tagger.usage_of_open {Tables : Type} (tables : Tables) (limits : QuotaLimits) :
    (Tagger.mk (some tables) limits).usage = readOccupancy := rfl

/-- **The occupancy and the usage are the counts of the live table.** -/
theorem occupancy_countsLive {Tables : Type} (tables : Tables) (limits : QuotaLimits) :
    CountsLive readOccupancy ∧ CountsLive (Tagger.mk (some tables) limits).usage :=
  ⟨readOccupancy_countsLive, by rw [Tagger.usage_of_open]; exact readOccupancy_countsLive⟩

/-- Three keys in the selected table, two of them of one user. The other table holds one more, and
cannot be walked through. -/
theorem occupancy_countsLive_three :
    let first : FaultyTable StatsKey StatsValue := .fill (.fill (.empty 8) 1 0 0 0 2) 2 0 0 0 1
    let second : FaultyTable StatsKey StatsValue :=
      { FaultyTable.fill (.empty 8) 1 0 0 0 1 with
        faults := { TableFaults.none with scan := some ErrorCode.badDescriptor } }
    let d : Desk := { Desk.small with statsA := first, statsB := second }
    d.Selects .a ∧ (d.stats .a).faults.scan = none ∧ (d.keys .a).length < 2 ^ 32 ∧
      TellsCensus (tells (Tagger.mk (some ()) .default).usage Desk.answer d) .a (d.keys .a)
        (d.keys .a).toFinset ∧
      tells (Tagger.mk (some ()) .default).usage Desk.answer d 1 = .ok (.a, ⟨3, 2⟩) := by
  intro first second d
  have selects : d.Selects .a := ⟨rfl, by decide⟩
  have few : (d.keys .a).length < 2 ^ 32 := by decide
  have counted := (occupancy_countsLive () .default).2.of_desk d .a selects
  exact ⟨selects, rfl, few, counted.census rfl few, rfl⟩

end SocketAttribution
