import SocketAttribution.Proofs.Charge.Demands
import SocketAttribution.Proofs.Charge.Desk

/-!
# The gate of a request

A request looks at the statistics tables once: it walks through one of them, and unless the limits
admit what the walk found it makes no further call. This module says so of programs in general, by
recursion over what they may ask, and proves it of the requests.

## Main definitions

* `TagProgram`, `KeepsOff`: a program of the tagger, and one that leaves the statistics tables
  alone.
* `Gated`: a program that walks through at most one of them, once, and is over unless the walk
  passes.
* `Request.Passes`: the walks that a request takes.

## Main statements

* `Gated.after`, `Gated.before`: a gated part makes the whole gated.
* `Request.gated_work`: every request is gated by its limits.
-/

namespace SocketAttribution

variable {α β : Type}

/-! ## Programs that leave the statistics tables alone -/

/-- A program of the tagger that may be refused, as the tree of its calls. -/
abbrev TagProgram (α : Type) : Type := Dialogue TagCall TagCall.Answer (Except TagError α)

/-- A program that leaves the statistics tables alone. -/
abbrev KeepsOff (d : Dialogue TagCall TagCall.Answer α) : Prop :=
  d.Asks fun call => ¬ call.OnStats

/-! ## Gated programs -/

/-- A program that walks through at most one statistics table, once, and is over unless the walk
passes. -/
inductive Gated (passes : List StatsKey → Prop) : TagProgram α → Prop where
  | done (result : Except TagError α) : Gated passes (.done result)
  | log {line : LogLine} {rest : TagProgram α} (later : Gated passes rest) :
      Gated passes (.log line rest)
  | ask {call : TagCall} {resume : call.Answer → TagProgram α} (off : ¬ call.OnStats)
      (later : ∀ answer, Gated passes (resume answer)) : Gated passes (.ask call resume)
  | walk {view : CounterView} {resume : Walk StatsKey → TagProgram α}
      (gate : ∀ walk, (∃ e, resume walk = .done (.error e)) ∨
        ∃ keys, walk.keys = .ok keys ∧ passes keys)
      (off : ∀ walk, KeepsOff (resume walk)) : Gated passes (.ask (.stats view .scan) resume)

namespace Gated

variable {passes : List StatsKey → Prop}

/-- What leaves the statistics tables alone passes every gate. -/
theorem of_keepsOff {d : TagProgram α} (off : KeepsOff d) : Gated passes d := by
  induction d with
  | done result => exact .done result
  | log line rest ih => exact .log (ih off)
  | ask call resume ih => exact .ask off.1 fun answer => ih answer (off.2 answer)

/-- A part in front that leaves the statistics tables alone. -/
theorem after {attempt : TagAttempt α} {next : α → TagAttempt β} (first : KeepsOff attempt.run)
    (second : ∀ value, Gated passes (next value).run) : Gated passes (attempt >>= next).run := by
  rw [Attempt.run_bind]
  generalize attempt.run = d at first
  induction d with
  | done result =>
      cases result with
      | ok value => exact second value
      | error e => exact .done (.error e)
  | log line rest ih => exact .log (ih first)
  | ask call resume ih => exact .ask first.1 fun answer => ih answer (first.2 answer)

/-- A part behind that leaves the statistics tables alone. -/
theorem before {attempt : TagAttempt α} {next : α → TagAttempt β}
    (first : Gated passes attempt.run) (second : ∀ value, KeepsOff (next value).run) :
    Gated passes (attempt >>= next).run := by
  rw [Attempt.run_bind]
  generalize attempt.run = d at first
  -- What follows is only reached behind the gate, except where the first part ends without a walk.
  induction first with
  | done result => exact of_keepsOff (Attempt.asks_onward second result)
  | log later ih => exact .log ih
  | ask off later ih => exact .ask off ih
  | walk gate off =>
      refine .walk (fun walk => ?_) fun walk =>
        Dialogue.Asks.bind (off walk) (Attempt.asks_onward second)
      rcases gate walk with ⟨e, refused⟩ | admitted
      · left
        exact ⟨e, by rw [refused]; rfl⟩
      · exact .inr admitted

/-- A gated program changes no statistics table. -/
theorem spares {d : TagProgram α} (gated : Gated passes d) :
    d.Asks fun call => call.OnStats → call.Reads := by
  induction gated with
  | done result => exact Dialogue.asks_done _ result
  | log later ih => exact ih
  | ask off later ih => exact ⟨fun on => absurd on off, ih⟩
  | walk gate off =>
      exact ⟨fun _ => trivial, fun walk => (off walk).mono fun _ off on => absurd on off⟩

end Gated

/-! ## Requests are gated -/

/-- A walk that the limits admit passes. -/
theorem judgeWalk_ok {limits : QuotaLimits} {uid : UInt32} {walk : Walk StatsKey}
    (h : judgeWalk limits uid walk = .ok ()) :
    ∃ keys, walk.keys = .ok keys ∧ limits.Admits (.ofKeys uid keys) := by
  unfold judgeWalk occupancyOfWalk at h
  cases found : walk.keys with
  | error e =>
      rw [found] at h
      cases h
  | ok keys =>
      rw [found] at h
      refine ⟨keys, rfl, ?_⟩
      by_cases room : limits.Admits (.ofKeys uid keys)
      · exact room
      · simp [room] at h

namespace Request

/-- The walks that a request takes: those that the limits admit. A removal takes none. -/
def Passes (limits : QuotaLimits) : Request → List StatsKey → Prop
  | .tag r, keys => limits.Admits (.ofKeys r.chargeUid keys)
  | .untag _, _ => False

end Request

theorem TagRequest.gated_checkQuota (limits : QuotaLimits) (r : TagRequest) :
    Gated (Request.Passes limits (.tag r)) (r.checkQuota limits).muted.run := by
  rw [muted_checkQuota]
  refine .after (Attempt.asks_demand id) fun view => .walk (fun walk => ?_) fun walk => trivial
  cases judged : judgeWalk limits r.chargeUid walk with
  | error e => exact .inl ⟨e, congrArg Dialogue.done judged⟩
  | ok => exact .inr (judgeWalk_ok judged)

namespace Tagger

variable {Tables : Type} (t : Tagger Tables)

/-- Whether the tables are open is asked of nobody. -/
theorem asks_requireTables {P : TagCall → Prop} : t.requireTables.muted.run.Asks P := by
  rw [muted_requireTables]
  exact Attempt.asks_ofExcept _

theorem gated_tagSocket (r : TagRequest) :
    Gated (Request.Passes t.limits (.tag r)) (t.tagSocket r).muted.run := by
  rw [muted_tagSocket, r.muted_refuseClat, r.muted_checkFamily, r.muted_checkProtocol]
  refine .after t.asks_requireTables fun _ => .after ?_ fun _ => ?_
  · rw [r.muted_authorise]
    split
    · exact Dialogue.asks_done _ _
    · exact Attempt.asks_demand id
  refine .after (Attempt.asks_ofExcept _) fun _ => .after (Attempt.asks_demand id) fun _ => ?_
  refine .after (Attempt.asks_demand id) fun _ => .after (Attempt.asks_demand id) fun cookie => ?_
  refine .before (r.gated_checkQuota t.limits) fun _ => ?_
  rw [r.muted_record]
  exact Attempt.asks_demand id

theorem keepsOff_untagSocket (socket : Descriptor) :
    KeepsOff (t.untagSocket socket).muted.run := by
  rw [muted_untagSocket]
  refine Attempt.asks_bind (Attempt.asks_demand id) fun cookie => ?_
  exact Attempt.asks_bind t.asks_requireTables fun _ => Attempt.asks_demand id

end Tagger

/-- **Every request is gated by the limits of the tagger.** -/
theorem Request.gated_work {Tables : Type} (t : Tagger Tables) (request : Request) :
    Gated (request.Passes t.limits) (request.work t).run.muted := by
  cases request with
  | tag r => exact t.gated_tagSocket r
  | untag socket => exact .of_keepsOff (t.keepsOff_untagSocket socket)

/-- No request changes a statistics table. -/
theorem Request.spares_work {Tables : Type} (t : Tagger Tables) (request : Request) :
    (request.work t).run.Asks fun call => call.OnStats → call.Reads :=
  Dialogue.asks_muted.1 (request.gated_work t).spares

end SocketAttribution
