import SocketAttribution.Proofs.Charge.Checklist

/-!
# Precedence of refusals

A request to charge a socket may fail for many reasons at once. Which of them the caller is told is
settled by the order of the checklist, and so is what was asked before he was.

## Main statements

* `Tagger.tagSocket_decidedBy_checklist`: the first check that fails decides, and nothing behind it
  runs.
-/

namespace SocketAttribution

open Check ChargeRefusal

/-! ## The calls of the checklist -/

section Calls

variable {Tables : Type} {t : Tagger Tables} {r : TagRequest} {d : Desk}

/-- All calls of the checklist but the last. -/
def questions (r : TagRequest) (d : Desk) : List TagCall :=
  (if r.chargeUid = r.callerUid then [] else [.permissions (.get (r.callerUid % 100000))]) ++
    [.socket (.family r.socket), .socket (.protocol r.socket), .socket (.cookie r.socket),
      .configuration (.get 1)] ++ d.selected?.toList.map fun view => .stats view .scan

/-- The last call of the checklist: it writes the charge. -/
def writing (r : TagRequest) (d : Desk) : List TagCall :=
  (d.cookie? r.socket).toList.map fun cookie => .cookieTags (.upsert cookie ⟨r.chargeUid, r.tag⟩)

open Checklist in
theorem flatMap_calls_checklist :
    (checklist t r d).flatMap Check.calls = questions r d ++ writing r d := by
  have asked : (delegation r d).calls =
      if r.chargeUid = r.callerUid then [] else [.permissions (.get (r.callerUid % 100000))] := by
    rw [delegation]
    split <;> rfl
  have scanned : (liveScan d).calls = d.selected?.toList.map fun view => .stats view .scan := by
    rw [liveScan]
    cases d.selected? <;> rfl
  have counted : (quota t r d).calls = [] := by
    rw [quota]
    cases d.selected? <;> rfl
  have written : (upsert r d).calls = writing r d := by
    rw [upsert, writing]
    cases d.cookie? r.socket <;> rfl
  simp only [checklist, List.flatMap_cons, List.flatMap_nil, asked, scanned, counted, written]
  simp [questions, tablesOpen, notClat, familyRead, familySupported, protocolRead,
    protocolSupported, cookieRead, selectorRead, selectorPresent, selectorKnown]

theorem nodup_questions : (questions r d).Nodup := by
  rw [questions]
  cases d.selected? with
  | none => split <;> simp
  | some view => split <;> simp

theorem not_mem_questions (call : TableCall UInt64 Charge) : .cookieTags call ∉ questions r d := by
  rw [questions]
  cases d.selected? with
  | none => split <;> simp
  | some view => split <;> simp

/-- The checklist asks no question twice, and writes once at most, behind all questions. -/
theorem nodup_calls : (questions r d ++ writing r d).Nodup := by
  rw [List.nodup_append, writing]
  refine ⟨nodup_questions, ?_, ?_⟩
  · cases d.cookie? r.socket <;> simp
  · intro question asked last mem same
    subst same
    obtain ⟨cookie, -, rfl⟩ := List.mem_map.1 mem
    exact not_mem_questions _ asked

/-- Only the selected table is walked through. -/
theorem eq_scan_of_mem {view : CounterView} {call : TableCall StatsKey StatsValue}
    (mem : .stats view call ∈ questions r d ++ writing r d) :
    call = .scan ∧ d.selected? = some view := by
  rw [questions, writing] at mem
  cases selected : d.selected? with
  | none => split at mem <;> simp [selected] at mem
  | some live => split at mem <;> simp_all

open Checklist in
/-- Permissions are read if and only if somebody else is charged and the tables are open. -/
theorem permissions_mem_iff :
    (∃ call, .permissions call ∈ callsOf (checklist t r d)) ↔
      t.tables.isSome = true ∧ r.chargeUid ≠ r.callerUid := by
  constructor
  · rintro ⟨call, mem⟩
    constructor
    · by_contra closed
      have fails : (tablesOpen t).refusal = some ⟨.permissionDenied, 1, rfl⟩ := if_neg closed
      rw [checklist, callsOf_cons, fails] at mem
      cases mem
    · intro own
      have asked := (callsOf_isPrefix _).subset mem
      rw [flatMap_calls_checklist, questions, writing, if_pos own] at asked
      cases d.selected? <;> simp at asked
  · rintro ⟨opened, other⟩
    refine ⟨.get (r.callerUid % 100000), ?_⟩
    have passes : (tablesOpen t).refusal = none := refuseUnless_eq_none_iff.2 opened
    rw [checklist, callsOf_cons, passes, callsOf_cons, delegation, if_neg other]
    simp [tablesOpen]

/-- A front part of the checklist's calls that reaches the last one is all of them. -/
theorem eq_of_writes {calls : List TagCall} {call : TableCall UInt64 Charge}
    (front : calls <+: questions r d ++ writing r d) (mem : .cookieTags call ∈ calls) :
    calls = questions r d ++ [.cookieTags call] ∧
      ∃ cookie, d.cookie? r.socket = some cookie ∧
        call = .upsert cookie ⟨r.chargeUid, r.tag⟩ := by
  rw [writing] at front
  cases known : d.cookie? r.socket with
  | none =>
      rw [known] at front
      have asked : TagCall.cookieTags call ∈ questions r d := by simpa using front.subset mem
      exact absurd asked (not_mem_questions call)
  | some cookie =>
      rw [known] at front
      -- What stops before the last call has not written anything.
      rcases List.prefix_concat_iff.1 front with whole | shorter
      · rw [whole] at mem
        have same : call = .upsert cookie ⟨r.chargeUid, r.tag⟩ := by
          simpa [not_mem_questions] using mem
        exact ⟨by rw [whole, same], cookie, rfl, same⟩
      · exact absurd (shorter.subset mem) (not_mem_questions call)

end Calls

/-- **The first check that fails decides, and nothing behind it runs.** -/
theorem Tagger.tagSocket_decidedBy_checklist {Tables : Type} (t : Tagger Tables) (r : TagRequest)
    (d : Desk) :
    let run := (t.tagSocket r).run.run Desk.answer d
    DecidedBy (checklist t r d) run ∧ run.calls.Nodup ∧
      ((∃ call, .permissions call ∈ run.calls) ↔
        t.tables.isSome = true ∧ r.chargeUid ≠ r.callerUid) ∧
      (∀ view call, .stats view call ∈ run.calls → call = .scan ∧ d.selected? = some view) ∧
      ∀ call, .cookieTags call ∈ run.calls →
        (∃ before, run.calls = before ++ [.cookieTags call] ∧
          ∀ other, .cookieTags other ∉ before) ∧
        ∃ cookie, d.cookie? r.socket = some cookie ∧
          call = .upsert cookie ⟨r.chargeUid, r.tag⟩ := by
  intro run
  have performs := t.performs_tagSocket d r
  have front : run.calls <+: questions r d ++ writing r d := by
    rw [← flatMap_calls_checklist, performs.calls]
    exact callsOf_isPrefix _
  refine ⟨performs.decidedBy, nodup_calls.sublist front.sublist, ?_, ?_, ?_⟩
  · rw [performs.calls]
    exact permissions_mem_iff
  · intro view call mem
    exact eq_scan_of_mem (front.subset mem)
  · intro call mem
    obtain ⟨whole, written⟩ := eq_of_writes front mem
    exact ⟨⟨questions r d, whole, not_mem_questions⟩, written⟩

end SocketAttribution
