import SocketAttribution.Rehearsal.Desk

/-!
# What a desk answers

A question leaves a desk as it is. A change goes to the table that it is addressed to, and there it
either does what it says or, where the table makes it fail or is full, nothing.

## Main definitions

* `TableCall.Reads`, `TagCall.Reads`: calls that only ask.
* `TagCall.OnStats`: calls on a statistics table.
* `Desk.ask`: the answer to a call, the state apart.
* `Desk.keys`: the keys of a statistics table.

## Main statements

* `Desk.answer_of_reads`: a question changes nothing.
* `Desk.keys_of_walk`: a walk that comes to its end has met the keys of the table.
* `Desk.answer_upsert`, `Desk.answer_delete`: a change of the table of cookies, by its answer.
-/

namespace SocketAttribution

/-! ## Questions and changes -/

/-- A call that asks a table and changes nothing. -/
def TableCall.Reads {K V : Type} : TableCall K V → Prop
  | .get _ => True
  | .scan => True
  | .upsert _ _ => False
  | .delete _ => False

namespace TagCall

/-- A call that asks and changes nothing. -/
def Reads : TagCall → Prop
  | .stats _ call => call.Reads
  | .configuration call => call.Reads
  | .permissions call => call.Reads
  | .cookieTags call => call.Reads
  | .socket _ => True

/-- A call on a statistics table. -/
def OnStats : TagCall → Prop
  | .stats _ _ => True
  | _ => False

end TagCall

namespace FaultyTable

variable {K V : Type} [DecidableEq K]

/-- A question leaves a table as it is. -/
theorem answer_of_reads {call : TableCall K V} (reads : call.Reads) (t : FaultyTable K V) :
    (answer call t).2 = t := by
  cases call with
  | get key =>
      rw [answer]
      split <;> rfl
  | scan =>
      rw [answer]
      split <;> rfl
  | upsert key value => exact reads.elim
  | delete key => exact reads.elim

/-- A walk that comes to its end has met the keys of the table. -/
theorem keys_of_walk {t : FaultyTable K V} {keys : List K}
    (h : (answer (.scan : TableCall K V) t).1.keys = .ok keys) : keys = t.table.entries.keys := by
  rw [answer] at h
  split at h
  · cases h
  · cases h
    rfl

/-- A value that was put at a key stands there, and all else is as before; a refused one leaves the
table as it is. -/
theorem answer_upsert (key : K) (value : V) (t : FaultyTable K V) :
    (∃ e, answer (.upsert key value) t = (.error e, t)) ∨
      answer (.upsert key value) t = (.ok (), t.put key (some value)) := by
  rw [answer]
  cases fault : t.faults.upsert with
  | some code => exact .inl ⟨⟨code⟩, rfl⟩
  | none =>
      show (∃ e, t.passOn (t.table.answer (.upsert key value)) = _) ∨ _ = _
      rw [Bounded.answer]
      split
      · exact .inr rfl
      · exact .inl ⟨⟨ErrorCode.listTooLong⟩, rfl⟩

theorem answer_delete (key : K) (t : FaultyTable K V) :
    (∃ e, answer (.delete key) t = (.error e, t)) ∨
      answer (.delete key) t = (.ok (), t.put key none) := by
  rw [answer]
  cases fault : t.faults.delete with
  | some code => exact .inl ⟨⟨code⟩, rfl⟩
  | none => exact .inr rfl

end FaultyTable

namespace Desk

/-- The answer of a desk to a call. -/
def ask (d : Desk) (call : TagCall) : call.Answer := (answer call d).1

/-- The keys of a statistics table. -/
def keys (d : Desk) (view : CounterView) : List StatsKey := (d.stats view).table.entries.keys

theorem nodup_keys (d : Desk) (view : CounterView) : (d.keys view).Nodup :=
  (d.stats view).table.entries.nodup

@[simp] theorem stats_setStats_same (d : Desk) (table : FaultyTable StatsKey StatsValue)
    (view : CounterView) : (d.setStats table view).stats view = table := by
  cases view <;> rfl

theorem stats_setStats_other (d : Desk) (table : FaultyTable StatsKey StatsValue)
    {view other : CounterView} (h : other ≠ view) :
    (d.setStats table view).stats other = d.stats other := by
  cases view <;> cases other <;> first | rfl | exact absurd rfl h

@[simp] theorem setStats_stats (d : Desk) (view : CounterView) :
    d.setStats (d.stats view) view = d := by
  cases view <;> rfl

/-- **A question leaves a desk as it is.** -/
theorem answer_of_reads {call : TagCall} (reads : call.Reads) (d : Desk) :
    (answer call d).2 = d := by
  cases call with
  | stats view call =>
      show d.setStats (FaultyTable.answer call (d.stats view)).2 view = d
      rw [FaultyTable.answer_of_reads reads, setStats_stats]
  | configuration call =>
      show { d with configuration := (FaultyTable.answer call d.configuration).2 } = d
      rw [FaultyTable.answer_of_reads reads]
  | permissions call =>
      show { d with permissions := (FaultyTable.answer call d.permissions).2 } = d
      rw [FaultyTable.answer_of_reads reads]
  | cookieTags call =>
      show { d with cookieTags := (FaultyTable.answer call d.cookieTags).2 } = d
      rw [FaultyTable.answer_of_reads reads]
  | socket query => rfl

/-- Only a change of a statistics table changes one. -/
theorem stats_answer {call : TagCall} (spares : call.OnStats → call.Reads) (d : Desk)
    (view : CounterView) : (answer call d).2.stats view = d.stats view := by
  cases call with
  | stats other call => rw [answer_of_reads (spares trivial)]
  | configuration call => cases view <;> rfl
  | permissions call => cases view <;> rfl
  | cookieTags call => cases view <;> rfl
  | socket query => rfl

/-- **A charge that is written** stands under its cookie; a refused one leaves the desk as it is. -/
theorem answer_upsert (cookie : UInt64) (charge : Charge) (d : Desk) :
    (∃ e, answer (.cookieTags (.upsert cookie charge)) d = (.error e, d)) ∨
      answer (.cookieTags (.upsert cookie charge)) d =
        (.ok (), { d with cookieTags := d.cookieTags.put cookie (some charge) }) := by
  rw [answer]
  rcases FaultyTable.answer_upsert cookie charge d.cookieTags with ⟨e, refused⟩ | written
  · left
    exact ⟨e, by rw [refused]⟩
  · right
    rw [written]

/-- **A charge that is removed** is gone; a removal that is refused leaves the desk as it is. -/
theorem answer_delete (cookie : UInt64) (d : Desk) :
    (∃ e, answer (.cookieTags (.delete cookie)) d = (.error e, d)) ∨
      answer (.cookieTags (.delete cookie)) d =
        (.ok (), { d with cookieTags := d.cookieTags.put cookie none }) := by
  rw [answer]
  rcases FaultyTable.answer_delete cookie d.cookieTags with ⟨e, refused⟩ | removed
  · left
    exact ⟨e, by rw [refused]⟩
  · right
    rw [removed]

/-- **A walk that comes to its end has met the keys of the table.** -/
theorem keys_of_walk {d : Desk} {view : CounterView} {keys : List StatsKey}
    (h : (d.ask (.stats view .scan)).keys = .ok keys) : keys = d.keys view :=
  FaultyTable.keys_of_walk h

/-- A desk with one socket, which can be charged, and two empty statistics tables. -/
def small : Desk :=
  { empty 8 [(3, ⟨.ok familyInet, .ok protocolTcp, .ok 7⟩)] with
    configuration := .put (.empty 8) selectorKey (some 0) }

end Desk

end SocketAttribution
