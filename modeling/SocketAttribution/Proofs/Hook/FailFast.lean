import SocketAttribution.Proofs.Dialogue.Muted
import SocketAttribution.Proofs.Startup.Steps

/-!
# Plans are carried out exactly, and no further than they succeed

Whatever the steps are and whatever a program host does with the calls, carrying them out makes the
calls of the steps in their order, and ends with the first that the host denies. Two plans one after
the other are carried out like their concatenation: behind the first the host is in the same state,
and the second is begun only if the first is complete.

## Main definitions

* `planRun`, `planTalk`: the run of a plan, and what is said in it.
* `FailFast`: what a run says, how it ends and where it stops.
* `RunsInParts`: a run of a plan in two parts.

## Main statements

* `executeSteps_append`, `muted_executePlan_append`: plans one after another.
* `executePlan_failFast`: every run of every plan is exact, fails fast, and runs in parts.
-/

namespace SocketAttribution

variable {Prog Dir σ : Type}

/-! ## Plans one after another -/

section Parts

variable (layout : Layout) (directory : Dir)

/-- **The steps of two plans are those of the first and, if they succeed, those of the second.** -/
theorem executeSteps_append (front back : List PlanStep) :
    (executeSteps layout directory (front ++ back) : HostAttempt Prog Dir Unit) =
      executeSteps layout directory front >>= fun _ => executeSteps layout directory back := by
  induction front with
  | nil => rw [List.nil_append, executeSteps_nil, pure_bind]
  | cons step rest ih =>
      show (step.execute layout directory >>= fun _ => executeSteps layout directory (rest ++ back))
        = (step.execute layout directory >>= fun _ => executeSteps layout directory rest) >>= _
      rw [ih, bind_assoc]

/-- Apart from the line that it leaves, a plan that is carried out is its steps. -/
theorem muted_executePlan (steps : List PlanStep) :
    (executePlan layout directory steps : HostAttempt Prog Dir Unit).muted =
      (executeSteps layout directory steps).muted := by
  rw [executePlan, Attempt.muted_bind]
  exact bind_pure_unit

/-- **A plan in two parts** is the first part and, if it succeeds, the second, apart from the lines
that they leave. -/
theorem muted_executePlan_append (front back : List PlanStep) :
    (executePlan layout directory (front ++ back) : HostAttempt Prog Dir Unit).muted =
      (executePlan layout directory front >>= fun _ =>
        executePlan layout directory back).muted := by
  rw [muted_executePlan, executeSteps_append, Attempt.muted_bind, Attempt.muted_bind,
    muted_executePlan, muted_executePlan]

end Parts

/-! ## Runs -/

section Runs

variable (answer : (call : HostCall Prog Dir) → σ → call.Answer × σ) (layout : Layout)
  (directory : Dir)

/-- The run of a plan against a host, from one of its states. -/
def planRun (steps : List PlanStep) (state : σ) :
    Transcript (HostCall Prog Dir) σ (Except HookError Unit) :=
  (executePlan layout directory steps).run.run answer state

/-- What is said in the run of a plan. -/
def planTalk (steps : List PlanStep) (state : σ) : List (HostExchange Prog Dir) :=
  (executePlan layout directory steps).run.exchanges answer state

/-- **A run of a plan is exact and fails fast.** -/
structure FailFast (steps : List PlanStep) (state : σ) : Prop where
  /-- The calls of the run are those that are spoken of below, and no others. -/
  calls : (planRun answer layout directory steps state).calls =
    (planTalk answer layout directory steps state).map Sigma.fst
  /-- The answers are those of the host, which goes through its states meanwhile. -/
  answered : Dialogue.Answered answer state (planTalk answer layout directory steps state)
    (planRun answer layout directory steps state).state
  /-- If it ends well, every step was carried out in full and nothing else was said. -/
  ok_iff : (planRun answer layout directory steps state).value = .ok () ↔
    ∃ parts, planTalk answer layout directory steps state = parts.flatten ∧
      List.Forall₂ (PlanStep.Done layout directory) steps parts
  /-- If it fails, it is with the error of the first step that does, and with its last call. -/
  error_iff : ∀ e, (planRun answer layout directory steps state).value = .error e ↔
    ∃ before step after parts said, steps = before ++ step :: after ∧
      planTalk answer layout directory steps state = parts.flatten ++ said ∧
      List.Forall₂ (PlanStep.Done layout directory) before parts ∧
      step.Fails layout directory said e
  /-- It ends well if and only if nothing is denied. -/
  ok_iff_met : (planRun answer layout directory steps state).value = .ok () ↔
    ∀ exchange ∈ planTalk answer layout directory steps state, ¬ exchange.1.Denied exchange.2
  /-- Nothing is said behind what is denied. -/
  stops : ∀ front exchange back,
    planTalk answer layout directory steps state = front ++ exchange :: back →
    exchange.1.Denied exchange.2 → back = []

/-- **A run of a plan in two parts** is that of the first part and, only if this succeeds, that of
the second from the state where the first has ended. -/
structure RunsInParts (front back : List PlanStep) (state : σ) : Prop where
  of_error : ∀ e, (planRun answer layout directory front state).value = .error e →
    (planRun answer layout directory (front ++ back) state).value = .error e ∧
      (planRun answer layout directory (front ++ back) state).state =
        (planRun answer layout directory front state).state ∧
      (planRun answer layout directory (front ++ back) state).calls =
        (planRun answer layout directory front state).calls
  of_ok : ∀ middle, (planRun answer layout directory front state).value = .ok () →
    (planRun answer layout directory front state).state = middle →
    (planRun answer layout directory (front ++ back) state).value =
        (planRun answer layout directory back middle).value ∧
      (planRun answer layout directory (front ++ back) state).state =
        (planRun answer layout directory back middle).state ∧
      (planRun answer layout directory (front ++ back) state).calls =
        (planRun answer layout directory front state).calls ++
          (planRun answer layout directory back middle).calls

variable {steps front back : List PlanStep} {state : σ}

/-- **How a run ends is settled by the execution that it is.** -/
theorem planRun_value_iff {outcome : Except HookError Unit} :
    (planRun answer layout directory steps state).value = outcome ↔
      Execution layout directory steps (planTalk answer layout directory steps state) outcome := by
  have yields : (executePlan layout directory steps).run.Yields
      (planTalk answer layout directory steps state)
      (planRun answer layout directory steps state).value :=
    Dialogue.yields_exchanges answer _ state
  constructor
  · rintro rfl
    exact executePlan_yields yields
  · intro run
    exact yields.unique run.yields

/-- **Every run of a plan is exact and fails fast.** -/
theorem planRun_failFast (steps : List PlanStep) (state : σ) :
    FailFast answer layout directory steps state where
  calls := (Dialogue.map_fst_exchanges answer _ state).symm
  answered := Dialogue.answered_exchanges answer _ state
  ok_iff := by rw [planRun_value_iff, execution_iff_course, Course.ok_iff]
  error_iff e := by rw [planRun_value_iff, execution_iff_course, Course.error_iff]
  ok_iff_met := ((planRun_value_iff answer layout directory).1 rfl).ok_iff_met
  stops front exchange back here denied :=
    ((planRun_value_iff answer layout directory).1 rfl).stops here denied

/-- A run of a plan in two parts, apart from what it logs. -/
theorem planRun_append (front back : List PlanStep) (state : σ) :
    ({ planRun answer layout directory (front ++ back) state with log := [] } :
        Transcript (HostCall Prog Dir) σ (Except HookError Unit)) =
      { (executePlan layout directory front >>= fun _ => executePlan layout directory back).run.run
          answer state with log := [] } :=
  Attempt.run_eq_of_muted (muted_executePlan_append layout directory front back) answer state

/-- **Every run of a plan runs in parts**, wherever it is divided. -/
theorem planRun_runsInParts (front back : List PlanStep) (state : σ) :
    RunsInParts answer layout directory front back state := by
  have whole := planRun_append answer layout directory front back state
  refine ⟨?of_error, ?of_ok⟩
  case of_error =>
    intro e failed
    rw [Attempt.run_bind_of_error failed] at whole
    injection whole with value state calls _
    exact ⟨value, state, calls⟩
  case of_ok =>
    rintro _ succeeded rfl
    rw [Attempt.run_bind_of_ok succeeded] at whole
    injection whole with value state calls _
    exact ⟨value, state, calls⟩

/-- **Plans are carried out exactly, fail fast and run in parts**, whatever their steps are and
whatever the host answers. -/
theorem executePlan_failFast :
    (∀ steps state, FailFast answer layout directory steps state) ∧
      ∀ front back state, RunsInParts answer layout directory front back state :=
  ⟨planRun_failFast answer layout directory, planRun_runsInParts answer layout directory⟩

end Runs

end SocketAttribution
