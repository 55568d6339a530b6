import SocketAttribution.Hook.Attachment
import SocketAttribution.Proofs.Dialogue.Exchange

/-!
# What is said while a plan is carried out

A step that is carried out in full leaves exchanges of one form, and one that fails leaves those of
a few others. The exchanges of a plan are those of its steps, one after another, up to the first
that fails. Whatever a program host answers, a run has exchanges of this form, so any single
exchange can be traced back to the step that it belongs to.

## Main definitions

* `PlanStep.Done`, `PlanStep.Fails`: the exchanges of one step.
* `Execution`: the exchanges of a plan and how they end.
* `HostCall.Denied`: a call that fails, or a question at a hook without programs.

## Main statements

* `executePlan_yields`, `Execution.yields`: the exchanges of every run form an execution, and every
  execution is a run.
* `Execution.split`: the step that an exchange belongs to.
* `Execution.of_attach`, `Execution.of_query`: where attachments and questions come from.
* `Execution.attached`: a complete execution attaches the hooks of its plan.
* `Execution.of_unverified`: what the failure to verify a hook means.
* `Execution.denied_last`: **only the last call of a run can be denied**, and it is so if the run
  fails.
-/

namespace SocketAttribution

variable {Prog Dir : Type}

/-- A call to a program host and its answer. -/
abbrev HostExchange (Prog Dir : Type) : Type := Exchange (HostCall Prog Dir) HostCall.Answer

/-- The host did what it was asked. -/
def HostCall.Succeeds : (call : HostCall Prog Dir) → call.Answer → Prop
  | .retrieve _, answer => ∃ program, answer = .ok program
  | .attach _ _ _, answer => answer = .ok ()
  | .query _ _, answer => ∃ count, answer = .ok count

/-- The hook at which a call attaches a program, if it does. -/
def HostCall.attachedHook? : HostCall Prog Dir → Option HookPoint
  | .attach hook _ _ => some hook
  | _ => none

/-- An answer that does not confirm any program. -/
def Unconfirmed (answer : Except SystemError UInt32) : Prop :=
  ∀ count, answer = .ok count → count = 0

/-! ## One step -/

section Steps

variable (layout : Layout) (directory : Dir)

/-- The exchanges of a step that is carried out in full. -/
inductive PlanStep.Done : PlanStep → List (HostExchange Prog Dir) → Prop where
  | checkAccessible (program : Program) (handle : Prog) :
    PlanStep.Done (.checkAccessible program)
      [⟨.retrieve (layout.programPath program), .ok handle⟩]
  | attach (program : Program) (hook : HookPoint) (handle : Prog) :
    PlanStep.Done (.attach program hook)
      [⟨.retrieve (layout.programPath program), .ok handle⟩,
        ⟨.attach hook handle directory, .ok ()⟩]
  | verify (hook : HookPoint) (count : UInt32) (positive : 0 < count) :
    PlanStep.Done (.verify hook) [⟨.query hook directory, .ok count⟩]

/-- The exchanges of a step that fails, and its failure. -/
inductive PlanStep.Fails : PlanStep → List (HostExchange Prog Dir) → HookError → Prop where
  | unchecked (program : Program) (source : SystemError) :
    PlanStep.Fails (.checkAccessible program)
      [⟨.retrieve (layout.programPath program), .error source⟩]
      (.unavailable (layout.programPath program) source)
  | unopened (program : Program) (hook : HookPoint) (source : SystemError) :
    PlanStep.Fails (.attach program hook)
      [⟨.retrieve (layout.programPath program), .error source⟩]
      (.unavailable (layout.programPath program) source)
  | rejected (program : Program) (hook : HookPoint) (handle : Prog) (source : SystemError) :
    PlanStep.Fails (.attach program hook)
      [⟨.retrieve (layout.programPath program), .ok handle⟩,
        ⟨.attach hook handle directory, .error source⟩]
      (.rejected (layout.programPath program) hook source)
  | unverified (hook : HookPoint) (answer : Except SystemError UInt32)
    (unconfirmed : Unconfirmed answer) :
    PlanStep.Fails (.verify hook) [⟨.query hook directory, answer⟩] (.unverified hook)

variable {layout : Layout} {directory : Dir} {step : PlanStep} {hook : HookPoint} {handle : Prog}
  {d : Dir} {before said after : List (HostExchange Prog Dir)} {e : HookError}

theorem openProgram_yields {path : Path} {outcome : Except HookError Prog}
    (yields : (openProgram path : HostAttempt Prog Dir Prog).run.Yields said outcome) :
    (∃ handle, said = [⟨.retrieve path, .ok handle⟩] ∧ outcome = .ok handle) ∨
      ∃ source, said = [⟨.retrieve path, .error source⟩] ∧
        outcome = .error (.unavailable path source) := by
  obtain ⟨source | handle, rfl, rfl⟩ := Attempt.demand_of_yields yields
  · exact .inr ⟨source, rfl, rfl⟩
  · exact .inl ⟨handle, rfl, rfl⟩

theorem ensureAttached_yields {outcome : Except HookError UInt32}
    (yields :
      (ensureAttached hook directory : HostAttempt Prog Dir UInt32).run.Yields said outcome) :
    (∃ count, 0 < count ∧ said = [⟨.query hook directory, .ok count⟩] ∧ outcome = .ok count) ∨
      ∃ answer, Unconfirmed answer ∧ said = [⟨.query hook directory, answer⟩] ∧
        outcome = .error (.unverified hook) := by
  obtain ⟨source | count, rfl, rfl⟩ := Attempt.demand_of_yields yields
  · refine .inr ⟨.error source, ?_, rfl, rfl⟩
    intro count same
    cases same
  · rw [confirmedCount]
    split
    · next positive => exact .inl ⟨count, positive, rfl, rfl⟩
    · next positive =>
        refine .inr ⟨.ok count, ?_, rfl, rfl⟩
        intro other same
        cases same
        rw [UInt32.lt_iff_toNat_lt] at positive
        exact UInt32.toNat_inj.1 (Nat.eq_zero_of_not_pos positive)

/-- **Whatever is answered, a step is carried out in full or fails.** -/
theorem PlanStep.execute_yields {outcome : Except HookError Unit}
    (yields : (step.execute layout directory).run.Yields said outcome) :
    (outcome = .ok () ∧ step.Done layout directory said) ∨
      ∃ e, outcome = .error e ∧ step.Fails layout directory said e := by
  cases step with
  | checkAccessible program =>
      obtain ⟨e, failed, rfl⟩ | ⟨handle, _, _, rfl, opened, rfl, rfl⟩ :=
        Attempt.bind_of_yields yields
      · obtain ⟨_, -, same⟩ | ⟨source, rfl, same⟩ := openProgram_yields failed
        · cases same
        · cases same
          exact .inr ⟨_, rfl, .unchecked program source⟩
      · obtain ⟨_, rfl, same⟩ | ⟨_, -, same⟩ := openProgram_yields opened
        · cases same
          exact .inl ⟨rfl, .checkAccessible program handle⟩
        · cases same
  | attach program hook =>
      obtain ⟨e, failed, rfl⟩ | ⟨handle, _, _, rfl, opened, behind⟩ :=
        Attempt.bind_of_yields yields
      · obtain ⟨_, -, same⟩ | ⟨source, rfl, same⟩ := openProgram_yields failed
        · cases same
        · cases same
          exact .inr ⟨_, rfl, .unopened program hook source⟩
      obtain ⟨_, rfl, same⟩ | ⟨_, -, same⟩ := openProgram_yields opened
      · cases same
        obtain ⟨e, failed, rfl⟩ | ⟨_, _, _, rfl, attached, rfl, rfl⟩ :=
          Attempt.bind_of_yields behind
        · obtain ⟨source | _, rfl, same⟩ := Attempt.demand_of_yields failed
          · cases same
            exact .inr ⟨_, rfl, .rejected program hook handle source⟩
          · cases same
        · obtain ⟨_ | _, rfl, same⟩ := Attempt.demand_of_yields attached
          · cases same
          · exact .inl ⟨rfl, .attach program hook handle⟩
      · cases same
  | verify hook =>
      obtain ⟨e, failed, rfl⟩ | ⟨count, _, _, rfl, confirmed, rfl, rfl⟩ :=
        Attempt.bind_of_yields yields
      · obtain ⟨_, -, -, same⟩ | ⟨answer, unconfirmed, rfl, same⟩ := ensureAttached_yields failed
        · cases same
        · cases same
          exact .inr ⟨_, rfl, .unverified hook answer unconfirmed⟩
      · obtain ⟨_, positive, rfl, same⟩ | ⟨_, -, -, same⟩ := ensureAttached_yields confirmed
        · exact .inl ⟨rfl, .verify hook _ positive⟩
        · cases same

/-- What may be answered to the opening of a program, and what it comes to. -/
theorem yields_openProgram (path : Path) (answer : Except SystemError Prog) :
    (openProgram path : HostAttempt Prog Dir Prog).run.Yields [⟨.retrieve path, answer⟩]
      (answer.mapError (.unavailable path)) := ⟨answer, [], rfl, rfl, rfl⟩

/-- A step can be carried out in full as it is to be. -/
theorem PlanStep.Done.yields (done : step.Done layout directory said) :
    (step.execute layout directory).run.Yields said (.ok ()) := by
  cases done with
  | checkAccessible program handle =>
      exact Attempt.yields_bind_of_ok (yields_openProgram _ (.ok handle)) ⟨rfl, rfl⟩
  | attach program hook handle =>
      exact Attempt.yields_bind_of_ok (yields_openProgram _ (.ok handle))
        ⟨.ok (), [], rfl, rfl, rfl⟩
  | verify hook count positive =>
      have confirmed : (ensureAttached hook directory : HostAttempt Prog Dir UInt32).run.Yields
          [⟨.query hook directory, .ok count⟩] (.ok count) :=
        ⟨.ok count, [], rfl, rfl, (if_pos positive).symm⟩
      exact Attempt.yields_bind_of_ok confirmed ⟨rfl, rfl⟩

/-- A step can fail in each of the ways in which it may. -/
theorem PlanStep.Fails.yields (fails : step.Fails layout directory said e) :
    (step.execute layout directory).run.Yields said (.error e) := by
  cases fails with
  | unchecked program source =>
      exact Attempt.yields_bind_of_error (yields_openProgram _ (.error source))
  | unopened program hook source =>
      exact Attempt.yields_bind_of_error (yields_openProgram _ (.error source))
  | rejected program hook handle source =>
      exact Attempt.yields_bind_of_ok (yields_openProgram _ (.ok handle))
        ⟨.error source, [], rfl, rfl, rfl⟩
  | unverified hook answer unconfirmed =>
      have denied : .error (.unverified hook) = confirmedCount hook answer := by
        cases answer with
        | error source => rfl
        | ok count =>
            cases unconfirmed count rfl
            rfl
      have asked : (ensureAttached hook directory : HostAttempt Prog Dir UInt32).run.Yields
          [⟨.query hook directory, answer⟩] (.error (.unverified hook)) :=
        ⟨answer, [], rfl, rfl, denied⟩
      exact Attempt.yields_bind_of_error asked

/-- A step in full is said without a refusal. -/
theorem PlanStep.Done.succeeds (done : step.Done layout directory said) :
    ∀ exchange ∈ said, exchange.1.Succeeds exchange.2 := by
  intro exchange mem
  cases done with
  | checkAccessible program handle =>
      cases List.mem_singleton.1 mem
      exact ⟨handle, rfl⟩
  | attach program hook handle =>
      rcases List.mem_cons.1 mem with rfl | mem
      · exact ⟨handle, rfl⟩
      · cases List.mem_singleton.1 mem
        rfl
  | verify hook count positive =>
      cases List.mem_singleton.1 mem
      exact ⟨count, rfl⟩

/-- A step in full attaches the hook that it is to attach and no other. -/
theorem PlanStep.Done.attached (done : step.Done layout directory said) :
    said.filterMap (·.1.attachedHook?) = step.attachedHook?.toList := by
  cases done <;> rfl

/-- In a step in full, an attachment stands right behind the opening of the program. -/
theorem PlanStep.Done.of_attach {answer : Except SystemError Unit}
    (done : step.Done layout directory (before ++ ⟨.attach hook handle d, answer⟩ :: after)) :
    ∃ program, step = .attach program hook ∧ d = directory ∧ answer = .ok () ∧ after = [] ∧
      before = [⟨.retrieve (layout.programPath program), .ok handle⟩] := by
  generalize same : before ++ ⟨.attach hook handle d, answer⟩ :: after = said at done
  cases done with
  | checkAccessible program opened => simp [List.append_eq_cons_iff] at same
  | attach program other opened =>
      obtain ⟨-, head⟩ | ⟨_, rfl, tail⟩ := List.append_eq_cons_iff.1 same
      · cases head
      obtain ⟨rfl, last⟩ | ⟨_, -, none⟩ := List.append_eq_cons_iff.1 tail.symm
      · cases last
        exact ⟨program, rfl, rfl, rfl, rfl, rfl⟩
      · simp at none
  | verify other count positive => simp [List.append_eq_cons_iff] at same

theorem PlanStep.Fails.of_attach {answer : Except SystemError Unit}
    (fails : step.Fails layout directory said e) (mem : ⟨.attach hook handle d, answer⟩ ∈ said) :
    ∃ program, step = .attach program hook := by
  cases fails with
  | unchecked program source => cases List.mem_singleton.1 mem
  | unopened program other source => cases List.mem_singleton.1 mem
  | rejected program other opened source =>
      rcases List.mem_cons.1 mem with same | last
      · cases same
      · cases List.mem_singleton.1 last
        exact ⟨program, rfl⟩
  | unverified other given unconfirmed => cases List.mem_singleton.1 mem

/-- Only what is verified is asked about, and the answer decides. -/
theorem PlanStep.Done.of_query {answer : Except SystemError UInt32}
    (done : step.Done layout directory said) (mem : ⟨.query hook d, answer⟩ ∈ said) :
    step = .verify hook ∧ ∃ count, answer = .ok count ∧ 0 < count := by
  cases done with
  | checkAccessible program opened => cases List.mem_singleton.1 mem
  | attach program other opened =>
      rcases List.mem_cons.1 mem with same | last
      · cases same
      · cases List.mem_singleton.1 last
  | verify other count positive =>
      cases List.mem_singleton.1 mem
      exact ⟨rfl, count, rfl, positive⟩

theorem PlanStep.Fails.of_query {answer : Except SystemError UInt32}
    (fails : step.Fails layout directory said e) (mem : ⟨.query hook d, answer⟩ ∈ said) :
    step = .verify hook ∧ e = .unverified hook := by
  cases fails with
  | unchecked program source => cases List.mem_singleton.1 mem
  | unopened program other source => cases List.mem_singleton.1 mem
  | rejected program other opened source =>
      rcases List.mem_cons.1 mem with same | last
      · cases same
      · cases List.mem_singleton.1 last
  | unverified other given unconfirmed =>
      cases List.mem_singleton.1 mem
      exact ⟨rfl, rfl⟩

end Steps

/-! ## A whole plan -/

section Plans

variable (layout : Layout) (directory : Dir)

/-- The exchanges of a plan, and how it ends: each step is carried out in full, or one fails and
nothing is said behind it. -/
inductive Execution :
    List PlanStep → List (HostExchange Prog Dir) → Except HookError Unit → Prop where
  | nil : Execution [] [] (.ok ())
  | done {step : PlanStep} {rest : List PlanStep} {said talk : List (HostExchange Prog Dir)}
    {outcome : Except HookError Unit} (full : step.Done layout directory said)
    (behind : Execution rest talk outcome) : Execution (step :: rest) (said ++ talk) outcome
  | failed {step : PlanStep} {rest : List PlanStep} {said : List (HostExchange Prog Dir)}
    {e : HookError} (fails : step.Fails layout directory said e) :
    Execution (step :: rest) said (.error e)

variable {layout : Layout} {directory : Dir} {steps : List PlanStep} {step : PlanStep}
  {talk front back : List (HostExchange Prog Dir)} {outcome : Except HookError Unit}
  {hook : HookPoint}

theorem executeSteps_yields
    (yields : (executeSteps layout directory steps).run.Yields talk outcome) :
    Execution layout directory steps talk outcome := by
  induction steps generalizing talk with
  | nil =>
      obtain ⟨rfl, rfl⟩ := yields
      exact .nil
  | cons step rest ih =>
      obtain ⟨e, failed, rfl⟩ | ⟨_, said, later, rfl, full, behind⟩ :=
        Attempt.bind_of_yields yields
      · obtain ⟨same, -⟩ | ⟨_, same, fails⟩ := PlanStep.execute_yields failed
        · cases same
        · cases same
          exact .failed fails
      · obtain ⟨-, done⟩ | ⟨_, same, -⟩ := PlanStep.execute_yields full
        · exact .done done (ih behind)
        · cases same

/-- **The exchanges of every run form an execution of the plan.** -/
theorem executePlan_yields (yields : (executePlan layout directory steps).run.Yields talk outcome) :
    Execution layout directory steps talk outcome := by
  obtain ⟨e, failed, rfl⟩ | ⟨_, said, later, rfl, full, behind⟩ := Attempt.bind_of_yields yields
  · exact executeSteps_yields failed
  · obtain ⟨rfl, rfl⟩ := Attempt.note_of_yields behind
    rw [List.append_nil]
    exact executeSteps_yields full

/-- **Every execution of the plan is a run.** -/
theorem Execution.yields (run : Execution layout directory steps talk outcome) :
    (executePlan layout directory steps).run.Yields talk outcome := by
  have taken : (executeSteps layout directory steps).run.Yields talk outcome := by
    induction run with
    | nil => exact ⟨rfl, rfl⟩
    | done full behind ih => exact Attempt.yields_bind_of_ok full.yields ih
    | failed fails => exact Attempt.yields_bind_of_error fails.yields
  cases outcome with
  | error e => exact Attempt.yields_bind_of_error taken
  | ok _ =>
      rw [← List.append_nil talk]
      exact Attempt.yields_bind_of_ok taken ⟨rfl, rfl⟩

namespace Execution

/-- **An exchange belongs to a step**: the steps before it are complete, and it stands within what
is said of its own, which is complete as well or the last. -/
theorem split {exchange : HostExchange Prog Dir}
    (run : Execution layout directory steps (front ++ exchange :: back) outcome) :
    ∃ before step after earlier inner outer later,
      steps = before ++ step :: after ∧ front = earlier ++ inner ∧ back = outer ++ later ∧
      Execution layout directory before earlier (.ok ()) ∧
      ((step.Done layout directory (inner ++ exchange :: outer) ∧
          Execution layout directory after later outcome) ∨
        ∃ e, step.Fails layout directory (inner ++ exchange :: outer) e ∧ outcome = .error e) := by
  generalize whole : front ++ exchange :: back = talk at run
  -- The exchange is one of the first step, or it stands behind what that step said.
  induction run generalizing front with
  | nil => simp at whole
  | @done step rest said talk outcome full behind ih =>
      obtain ⟨outer, rfl, rfl⟩ | ⟨front', rfl, there⟩ := eq_append_cons_cases whole.symm
      · exact ⟨[], step, rest, [], front, outer, talk, rfl, rfl, rfl, .nil, .inl ⟨full, behind⟩⟩
      · obtain ⟨before, own, after, earlier, inner, outer, later, rfl, rfl, rfl, first, within⟩ :=
          ih there.symm
        exact ⟨step :: before, own, after, said ++ earlier, inner, outer, later, rfl,
          (List.append_assoc ..).symm, rfl, .done full first, within⟩
  | @failed step rest said e fails =>
      refine ⟨[], step, rest, [], front, back, [], rfl, rfl, (List.append_nil _).symm, .nil,
        .inr ⟨e, ?_, rfl⟩⟩
      rw [whole]
      exact fails

/-- What a step of a complete execution said is part of it. -/
theorem said_of_mem (run : Execution layout directory steps talk (.ok ())) (mem : step ∈ steps) :
    ∃ said, step.Done layout directory said ∧ ∀ exchange ∈ said, exchange ∈ talk := by
  generalize ends : Except.ok () = outcome at run
  induction run with
  | nil => cases mem
  | @done own rest said talk outcome full behind ih =>
      rcases List.mem_cons.1 mem with rfl | there
      · exact ⟨said, full, fun _ => List.mem_append_left _⟩
      · obtain ⟨later, done, within⟩ := ih there ends
        exact ⟨later, done, fun _ mem => List.mem_append_right _ (within _ mem)⟩
  | failed fails => cases ends

/-- **Nothing is refused in a complete execution.** -/
theorem succeeds (run : Execution layout directory steps talk (.ok ())) :
    ∀ exchange ∈ talk, exchange.1.Succeeds exchange.2 := by
  generalize ends : Except.ok () = outcome at run
  induction run with
  | nil => exact fun _ mem => nomatch mem
  | done full behind ih =>
      intro exchange mem
      rcases List.mem_append.1 mem with mem | mem
      · exact full.succeeds exchange mem
      · exact ih ends exchange mem
  | failed fails => cases ends

/-- **A complete execution attaches the hooks of its plan, each once and in its order.** -/
theorem attached (run : Execution layout directory steps talk (.ok ())) :
    talk.filterMap (·.1.attachedHook?) = attachedHooks steps := by
  generalize ends : Except.ok () = outcome at run
  induction run with
  | nil => rfl
  | @done step rest said talk outcome full behind ih =>
      rw [List.filterMap_append, full.attached, ih ends]
      cases step <;> rfl
  | failed fails => cases ends

/-- **An attachment** belongs to a step of the plan, and every step before that one is complete. If
the plan is carried out to its end, the program was opened right before, the attachment was allowed,
and the steps that follow are complete as well. -/
theorem of_attach {handle : Prog} {d : Dir} {answer : Except SystemError Unit}
    (run : Execution layout directory steps (front ++ ⟨.attach hook handle d, answer⟩ :: back)
      outcome) :
    ∃ before program after earlier inner,
      steps = before ++ .attach program hook :: after ∧ front = earlier ++ inner ∧
      Execution layout directory before earlier (.ok ()) ∧
      (outcome = .ok () → answer = .ok () ∧ d = directory ∧
        inner = [⟨.retrieve (layout.programPath program), .ok handle⟩] ∧
        Execution layout directory after back (.ok ())) := by
  obtain ⟨before, step, after, earlier, inner, outer, later, rfl, rfl, rfl, first,
    ⟨full, behind⟩ | ⟨e, fails, rfl⟩⟩ := run.split
  · obtain ⟨program, rfl, rfl, rfl, rfl, rfl⟩ := full.of_attach
    refine ⟨before, program, after, earlier, _, rfl, rfl, first, ?_⟩
    rintro rfl
    exact ⟨rfl, rfl, rfl, behind⟩
  · obtain ⟨program, rfl⟩ := fails.of_attach List.mem_append_cons_self
    exact ⟨before, program, after, earlier, inner, rfl, rfl, first, fun same => nomatch same⟩

/-- **A question about a hook**: the plan verifies the hook, and it ends here with the failure to do
so unless the answer confirms a program. -/
theorem of_query {d : Dir} {answer : Except SystemError UInt32}
    (run : Execution layout directory steps (front ++ ⟨.query hook d, answer⟩ :: back) outcome) :
    .verify hook ∈ steps ∧
      ((∃ count, answer = .ok count ∧ 0 < count) ∨ outcome = .error (.unverified hook)) := by
  obtain ⟨before, step, after, earlier, inner, outer, later, rfl, rfl, rfl, first,
    ⟨full, behind⟩ | ⟨e, fails, rfl⟩⟩ := run.split
  · obtain ⟨rfl, confirmed⟩ := full.of_query List.mem_append_cons_self
    exact ⟨List.mem_append_right _ List.mem_cons_self, .inl confirmed⟩
  · obtain ⟨rfl, rfl⟩ := fails.of_query List.mem_append_cons_self
    exact ⟨List.mem_append_right _ List.mem_cons_self, .inr rfl⟩

/-- **A hook that could not be verified** was asked about last, and all that was to be done before
is complete. -/
theorem of_unverified (run : Execution layout directory steps talk (.error (.unverified hook))) :
    ∃ before after front answer, steps = before ++ .verify hook :: after ∧
      talk = front ++ [⟨.query hook directory, answer⟩] ∧ Unconfirmed answer ∧
      Execution layout directory before front (.ok ()) := by
  generalize ends : Except.error (HookError.unverified hook) = outcome at run
  induction run with
  | nil => cases ends
  | @done step rest said talk outcome full behind ih =>
      obtain ⟨before, after, front, answer, rfl, rfl, unconfirmed, first⟩ := ih ends
      exact ⟨step :: before, after, said ++ front, answer, rfl, (List.append_assoc ..).symm,
        unconfirmed, .done full first⟩
  | @failed step rest said e fails =>
      cases ends
      cases fails with
      | unverified hook answer unconfirmed =>
          exact ⟨[], rest, [], answer, rfl, rfl, unconfirmed, .nil⟩

end Execution

end Plans

/-! ## What is denied -/

/-- A call that fails, or a question at a hook where no program is attached. -/
def HostCall.Denied : (call : HostCall Prog Dir) → call.Answer → Prop
  | .retrieve _, answer => ∃ source, answer = .error source
  | .attach _ _ _, answer => ∃ source, answer = .error source
  | .query _ _, answer => (∃ source, answer = .error source) ∨ answer = .ok 0

section Denied

variable {layout : Layout} {directory : Dir} {step : PlanStep} {steps : List PlanStep}
  {said talk : List (HostExchange Prog Dir)} {e : HookError} {outcome : Except HookError Unit}

/-- A step in full is said without a denial. -/
theorem PlanStep.Done.not_denied (done : step.Done layout directory said) :
    ∀ exchange ∈ said, ¬ exchange.1.Denied exchange.2 := by
  intro exchange mem denied
  cases done with
  | checkAccessible program handle =>
      cases List.mem_singleton.1 mem
      obtain ⟨source, same⟩ := denied
      cases same
  | attach program hook handle =>
      rcases List.mem_cons.1 mem with rfl | mem
      · obtain ⟨source, same⟩ := denied
        cases same
      · cases List.mem_singleton.1 mem
        obtain ⟨source, same⟩ := denied
        cases same
  | verify hook count positive =>
      cases List.mem_singleton.1 mem
      obtain ⟨source, same⟩ | same := denied
      · cases same
      · cases same
        exact absurd positive (by decide)

/-- A step that fails does so at the last of what it says, and only there. -/
theorem PlanStep.Fails.denied_last (fails : step.Fails layout directory said e) :
    ∃ front last, said = front ++ [last] ∧
      (∀ exchange ∈ front, ¬ exchange.1.Denied exchange.2) ∧ last.1.Denied last.2 := by
  cases fails with
  | unchecked program source => exact ⟨[], _, rfl, fun _ mem => (nomatch mem), source, rfl⟩
  | unopened program hook source => exact ⟨[], _, rfl, fun _ mem => (nomatch mem), source, rfl⟩
  | rejected program hook handle source =>
      have opened : (PlanStep.checkAccessible program).Done layout directory
          [⟨.retrieve (layout.programPath program), .ok handle⟩] := .checkAccessible program handle
      exact ⟨[_], _, rfl, opened.not_denied, source, rfl⟩
  | unverified hook answer unconfirmed =>
      refine ⟨[], _, rfl, fun _ mem => (nomatch mem), ?_⟩
      cases answer with
      | error source => exact .inl ⟨source, rfl⟩
      | ok count => exact .inr (congrArg _ (unconfirmed count rfl))

/-- **Only the last call of a run can be denied**, and it is if and only if the run fails. -/
theorem Execution.denied_last (run : Execution layout directory steps talk outcome) :
    (outcome = .ok () ∧ ∀ exchange ∈ talk, ¬ exchange.1.Denied exchange.2) ∨
      ∃ e front last, outcome = .error e ∧ talk = front ++ [last] ∧
        (∀ exchange ∈ front, ¬ exchange.1.Denied exchange.2) ∧ last.1.Denied last.2 := by
  induction run with
  | nil => exact .inl ⟨rfl, fun _ mem => nomatch mem⟩
  | @done step rest said talk outcome full behind ih =>
      obtain ⟨ends, met⟩ | ⟨e, front, last, ends, rfl, met, denied⟩ := ih
      · refine .inl ⟨ends, fun exchange mem => ?_⟩
        exact (List.mem_append.1 mem).elim (full.not_denied exchange) (met exchange)
      · refine .inr ⟨e, said ++ front, last, ends, (List.append_assoc ..).symm, ?_, denied⟩
        intro exchange mem
        exact (List.mem_append.1 mem).elim (full.not_denied exchange) (met exchange)
  | failed fails =>
      obtain ⟨front, last, split, met, denied⟩ := fails.denied_last
      exact .inr ⟨_, front, last, rfl, split, met, denied⟩

/-- A run ends well if and only if nothing is denied in it. -/
theorem Execution.ok_iff_met (run : Execution layout directory steps talk outcome) :
    outcome = .ok () ↔ ∀ exchange ∈ talk, ¬ exchange.1.Denied exchange.2 := by
  obtain ⟨rfl, met⟩ | ⟨e, front, last, rfl, rfl, -, denied⟩ := run.denied_last
  · exact ⟨fun _ => met, fun _ => rfl⟩
  · constructor
    · intro same
      cases same
    · intro met
      exact absurd denied (met last List.mem_append_cons_self)

/-- **Behind what is denied nothing is said.** -/
theorem Execution.stops (run : Execution layout directory steps talk outcome)
    {front back : List (HostExchange Prog Dir)} {exchange : HostExchange Prog Dir}
    (here : talk = front ++ exchange :: back) (denied : exchange.1.Denied exchange.2) :
    back = [] := by
  obtain ⟨-, met⟩ | ⟨e, first, last, -, split, met, -⟩ := run.denied_last
  · rw [here] at met
    exact absurd denied (met exchange List.mem_append_cons_self)
  · -- The denied exchange is the last, or it stands among those that were not denied.
    obtain ⟨later, rfl, -⟩ | ⟨earlier, -, ends⟩ := eq_append_cons_cases (split.symm.trans here)
    · exact absurd denied (met exchange List.mem_append_cons_self)
    · have lengths := congrArg List.length ends
      simp only [List.length_append, List.length_cons, List.length_nil] at lengths
      exact List.eq_nil_of_length_eq_zero (by omega)

end Denied

end SocketAttribution
