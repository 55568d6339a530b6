import SocketAttribution.Proofs.Startup.Negotiation
import SocketAttribution.Proofs.Startup.Tables

/-!
# Startup, step by step

All that startup does is a row of steps: the loader is waited for, the platform is admitted, the
directory to attach to is named and opened, the steps of the plan are carried out, and the maps of
the five slots are opened. What is said in a run is said by these steps in this order, and the first
that fails ends it.

## Main definitions

* `StartupStep`, `startupSteps`: the steps.
* `StartupStep.Done`, `StartupStep.Fails`: what a step says, and how it fails.

## Main statements

* `Negotiation.course`, `initPrograms_yields_of_course`: the course of a negotiation.
* `openTables_yields`, `exists_openTables_yields`: the course of the slots, one after another.
* `initialise_yields`: every run of startup takes the course of its steps.
* `exists_initialise_yields`: every course of the steps is taken by a run.
-/

namespace SocketAttribution

variable {Prog Dir Handle : Type}

/-- A step of startup. -/
inductive StartupStep where
  | awaitLoader
  | negotiate
  | nameDirectory
  | openDirectory
  | carryOut (step : PlanStep)
  | openMap (slot : Slot)
  deriving DecidableEq, Repr

/-- The steps by which the hooks of a platform are negotiated. -/
def programSteps (facts : PlatformFacts) : List StartupStep :=
  .negotiate :: .nameDirectory :: .openDirectory :: (attachPlan facts.kernel.version).map .carryOut

/-- The steps of startup on a platform. -/
def startupSteps (facts : PlatformFacts) : List StartupStep :=
  .awaitLoader :: (programSteps facts ++ Slot.all.map .openMap)

section Steps

variable (facts : PlatformFacts) (options : InitOptions) (directory : Option Dir)

/-- What is said in a step that is done. The plan is carried out in the directory that was opened.
-/
inductive StartupStep.Done : StartupStep → List (StartupExchange Prog Dir Handle) → Prop where
  | awaitLoader (looks : List Sighting)
    (wait : LoaderWait options.layout.marker options.loaderTimeout
      (patienceFor options.loaderTimeout) looks (.ok ())) :
    StartupStep.Done .awaitLoader (looks.map (Sighting.exchange options.layout.marker))
  | negotiate (plan : List PlanStep) (verdict : evaluate facts = .supported plan) :
    StartupStep.Done .negotiate []
  | nameDirectory (path : Path) (named : facts.cgroupPath = some path) :
    StartupStep.Done .nameDirectory []
  | openDirectory (path : Path) (named : facts.cgroupPath = some path) (opened : Dir)
    (kept : directory = some opened) :
    StartupStep.Done .openDirectory [⟨.openDirectory path, .ok opened⟩]
  | carryOut (step : PlanStep) (opened : Dir) (kept : directory = some opened)
    (said : List (HostExchange Prog Dir)) (done : step.Done options.layout opened said) :
    StartupStep.Done (.carryOut step) (said.map HostExchange.atStartup)
  | openMap (slot : Slot) (said : List (StartupExchange Prog Dir Handle)) (opened : Opened Handle)
    (opening : SlotOpening options.layout slot said (.ok opened)) :
    StartupStep.Done (.openMap slot) said

/-- What is said in a step that fails, and its error. -/
inductive StartupStep.Fails :
    StartupStep → List (StartupExchange Prog Dir Handle) → InitError → Prop where
  | awaitLoader (looks : List Sighting) (e : InitError)
    (wait : LoaderWait options.layout.marker options.loaderTimeout
      (patienceFor options.loaderTimeout) looks (.error e)) :
    StartupStep.Fails .awaitLoader (looks.map (Sighting.exchange options.layout.marker)) e
  | negotiate (refusal : Refusal) (verdict : evaluate facts = .unsupported refusal) :
    StartupStep.Fails .negotiate [] (.platformUnsupported refusal.reason)
  | nameDirectory (unnamed : facts.cgroupPath = none) :
    StartupStep.Fails .nameDirectory [] (.configuration .noCgroupPath)
  | openDirectory (path : Path) (named : facts.cgroupPath = some path) (source : SystemError) :
    StartupStep.Fails .openDirectory [⟨.openDirectory path, .error source⟩]
      (.configuration (.cgroupUnopenable path source))
  | carryOut (step : PlanStep) (opened : Dir) (kept : directory = some opened)
    (said : List (HostExchange Prog Dir)) (e : HookError)
    (fails : step.Fails options.layout opened said e) :
    StartupStep.Fails (.carryOut step) (said.map HostExchange.atStartup) (.hook e)
  | openMap (slot : Slot) (said : List (StartupExchange Prog Dir Handle)) (e : InitError)
    (opening : SlotOpening options.layout slot said (.error e)) :
    StartupStep.Fails (.openMap slot) said e

/-- The course of steps of startup. -/
abbrev StartupCourse :
    List StartupStep → List (StartupExchange Prog Dir Handle) → Except InitError Unit → Prop :=
  Course (StartupStep.Done facts options directory) (StartupStep.Fails facts options directory)

end Steps

section Runs

variable {facts : PlatformFacts} {options : InitOptions} {directory : Option Dir}
  {talk : List (StartupExchange Prog Dir Handle)}

/-! ## The stages as courses -/

/-- The execution of a plan is the course of its steps. -/
theorem execution_iff_course {layout : Layout} {opened : Dir} {steps : List PlanStep}
    {said : List (HostExchange Prog Dir)} {outcome : Except HookError Unit} :
    Execution layout opened steps said outcome ↔
      Course (PlanStep.Done layout opened) (PlanStep.Fails layout opened) steps said outcome := by
  constructor
  · intro run
    induction run with
    | nil => exact .nil
    | done full behind ih => exact .done full ih
    | failed fails => exact .failed fails
  · intro run
    induction run with
    | nil => exact .nil
    | done full behind ih => exact .done full ih
    | failed fails => exact .failed fails

/-- **A negotiation takes the course of its steps.** -/
theorem Negotiation.course {outcome : Except InitError Unit}
    (run : Negotiation options.layout facts talk outcome) :
    ∃ directory : Option Dir, StartupCourse facts options directory (programSteps facts) talk
      outcome := by
  have admitted {plan : List PlanStep} (verdict : evaluate facts = .supported plan)
      (directory : Option Dir) :
      StartupStep.Done facts options directory .negotiate
        ([] : List (StartupExchange Prog Dir Handle)) := .negotiate plan verdict
  have nameable {path : Path} (named : facts.cgroupPath = some path) (directory : Option Dir) :
      StartupStep.Done facts options directory .nameDirectory
        ([] : List (StartupExchange Prog Dir Handle)) := .nameDirectory path named
  rw [programSteps]
  cases run with
  | refused refusal verdict => exact ⟨none, .failed (.negotiate refusal verdict)⟩
  | unnamed plan verdict unnamed =>
      exact ⟨none, .done (admitted verdict none) (.failed (.nameDirectory unnamed))⟩
  | unopened plan verdict path named source =>
      exact ⟨none, .done (admitted verdict none)
        (.done (nameable named none) (.failed (.openDirectory path named source)))⟩
  | carriedOut plan verdict path named opened said outcome execution =>
      cases evaluate_supported verdict
      have carried : StartupCourse facts options (some opened)
          ((attachPlan facts.kernel.version).map .carryOut)
          (said.map HostExchange.atStartup : List (StartupExchange Prog Dir Handle))
          (outcome.mapError .hook) :=
        (execution_iff_course.1 execution).map (fun step said => .carryOut step opened rfl said)
          (fun step said e => .carryOut step opened rfl said e)
      exact ⟨some opened, .done (admitted verdict _) (.done (nameable named _)
        (.done (.openDirectory path named opened rfl) carried))⟩

/-- The course of a plan is taken by work with the host. -/
theorem hostWork_yields_of_course {opened : Dir} {steps : List PlanStep}
    {outcome : Except InitError Unit}
    (run : StartupCourse facts options (some opened) (steps.map .carryOut) talk outcome) :
    (hostWork (executePlan options.layout opened steps)).run.Yields talk outcome := by
  have full (step : PlanStep) (said : List (StartupExchange Prog Dir Handle))
      (done : StartupStep.Done facts options (some opened) (.carryOut step) said) :
      ∃ own, said = own.map HostExchange.atStartup ∧ step.Done options.layout opened own := by
    cases done with
    | carryOut _ _ kept own done =>
        cases kept
        exact ⟨own, rfl, done⟩
  have fails (step : PlanStep) (said : List (StartupExchange Prog Dir Handle)) (e : InitError)
      (fails : StartupStep.Fails facts options (some opened) (.carryOut step) said e) :
      ∃ own source, said = own.map HostExchange.atStartup ∧ e = .hook source ∧
        step.Fails options.layout opened own source := by
    cases fails with
    | carryOut _ _ kept own source fails =>
        cases kept
        exact ⟨own, source, rfl, rfl, fails⟩
  obtain ⟨said, result, rfl, rfl, own⟩ := run.of_map full fails
  refine Attempt.yields_mapError _ (Dialogue.yields_through_iff.2 ⟨said, rfl, ?_⟩)
  rw [List.map_id']
  exact (execution_iff_course.2 own).yields

/-- **The course of a negotiation is taken by a run.** -/
theorem initPrograms_yields_of_course {outcome : Except InitError Unit}
    (run : StartupCourse facts options directory (programSteps facts) talk outcome) :
    (initPrograms options.layout facts).run.Yields talk outcome := by
  have taken : ∃ result, (initPrograms options.layout facts).run.Yields talk result ∧
      ending result = outcome := by
    refine Course.exists_bind (P := fun plan => plan = attachPlan facts.kernel.version) ?_ ?_ ?_ run
    · intro said done
      cases done with
      | negotiate plan verdict =>
          have agreed : negotiate facts = .ok plan := by rw [negotiate, verdict]
          exact ⟨plan, evaluate_supported verdict, rfl, agreed.symm⟩
    · intro said e fails
      cases fails with
      | negotiate refusal verdict =>
          have refused : negotiate facts = .error (.platformUnsupported refusal.reason) := by
            rw [negotiate, verdict]
          exact ⟨rfl, refused.symm⟩
    rintro _ back rfl run
    refine Course.exists_bind (P := fun path => facts.cgroupPath = some path) ?_ ?_ ?_ run
    · intro said done
      cases done with
      | nameDirectory path named =>
          have found : cgroupPathOf facts = .ok path := by rw [cgroupPathOf, named]
          exact ⟨path, named, rfl, found.symm⟩
    · intro said e fails
      cases fails with
      | nameDirectory unnamed =>
          have missing : cgroupPathOf facts = .error (.configuration .noCgroupPath) := by
            rw [cgroupPathOf, unnamed]
          exact ⟨rfl, missing.symm⟩
    intro path back named run
    refine Course.exists_bind (P := fun opened => directory = some opened) ?_ ?_ ?_ run
    · intro said done
      cases done with
      | openDirectory path' named' opened kept =>
          cases named.symm.trans named'
          exact ⟨opened, kept, .ok opened, [], rfl, rfl, rfl⟩
    · intro said e fails
      cases fails with
      | openDirectory path' named' source =>
          cases named.symm.trans named'
          exact ⟨.error source, [], rfl, rfl, rfl⟩
    rintro opened back rfl run
    exact ⟨outcome, hostWork_yields_of_course run, ending_unit outcome⟩
  obtain ⟨result, yields, same⟩ := taken
  rw [← same, ending_unit]
  exact yields

/-- The openings of slots are steps of startup. -/
theorem slotCourse_iff {slots : List Slot} {ends : Except InitError Unit} :
    SlotCourse options.layout slots talk ends ↔
      StartupCourse facts options directory (slots.map .openMap) talk ends := by
  constructor
  · intro run
    induction run with
    | nil => exact .nil
    | done full behind ih =>
        obtain ⟨opened, opening⟩ := full
        exact .done (.openMap _ _ opened opening) ih
    | failed fails => exact .failed (.openMap _ _ _ fails)
  · intro run
    induction slots generalizing talk with
    | nil =>
        cases run
        exact .nil
    | cons slot slots ih =>
        cases run with
        | done full behind =>
            cases full with
            | openMap _ _ opened opening => exact .done ⟨opened, opening⟩ (ih behind)
        | failed fails =>
            cases fails with
            | openMap _ _ _ opening => exact .failed opening

/-- **The openings of the tables take the course of the slots.** -/
theorem openTables_yields {outcome : Except InitError (Tables Handle)}
    (yields : (openTables options.layout).run.Yields talk outcome) :
    StartupCourse facts options directory (Slot.all.map .openMap) talk (ending outcome) :=
  slotCourse_iff.1 (slotCourse_of_yields yields)

/-- **The course of the slots is taken by a run.** -/
theorem exists_openTables_yields {ends : Except InitError Unit}
    (run : StartupCourse facts options directory (Slot.all.map .openMap) talk ends) :
    ∃ outcome, (openTables options.layout).run.Yields talk outcome ∧ ending outcome = ends :=
  exists_yields_of_slotCourse (slotCourse_iff.2 run)

/-! ## Startup as a course -/

/-- **Every run of startup takes the course of its steps.** -/
theorem initialise_yields {outcome : Except InitError (Tagger (Tables Handle))}
    (yields : (initialise facts options).run.Yields talk outcome) :
    ∃ directory : Option Dir,
      StartupCourse facts options directory (startupSteps facts) talk (ending outcome) := by
  rw [startupSteps]
  obtain ⟨e, failed, rfl⟩ | ⟨_, _, _, rfl, waited, afterWait⟩ := Attempt.bind_of_yields yields
  · obtain ⟨looks, rfl, wait⟩ := awaitMarker_yields_iff.1 failed
    exact ⟨none, .failed (.awaitLoader looks e wait)⟩
  obtain ⟨looks, rfl, wait⟩ := awaitMarker_yields_iff.1 waited
  obtain ⟨e, failed, rfl⟩ | ⟨_, _, _, rfl, negotiated, afterPrograms⟩ :=
    Attempt.bind_of_yields afterWait
  · obtain ⟨directory, course⟩ := (initPrograms_yields failed).course
    exact ⟨directory, .done (.awaitLoader looks wait) (course.append_of_error _)⟩
  obtain ⟨directory, course⟩ := (initPrograms_yields negotiated).course
  refine ⟨directory, .done (.awaitLoader looks wait) (course.append ?_)⟩
  obtain ⟨e, failed, rfl⟩ | ⟨tables, _, _, rfl, opened, rfl, rfl⟩ :=
    Attempt.bind_of_yields afterPrograms
  · exact openTables_yields failed
  · rw [List.append_nil]
    exact openTables_yields opened

/-- **Every course of the steps is taken by a run.** -/
theorem exists_initialise_yields {ends : Except InitError Unit}
    (run : StartupCourse facts options directory (startupSteps facts) talk ends) :
    ∃ outcome, (initialise facts options).run.Yields talk outcome ∧ ending outcome = ends := by
  refine Course.exists_bind (P := fun _ => True) ?_ ?_ ?_ run
  · intro said done
    cases done with
    | awaitLoader looks wait =>
        exact ⟨(), trivial, awaitMarker_yields_iff.2 ⟨looks, rfl, wait⟩⟩
  · intro said e fails
    cases fails with
    | awaitLoader looks e wait => exact awaitMarker_yields_iff.2 ⟨looks, rfl, wait⟩
  intro _ back _ run
  obtain ⟨e, rfl, failed⟩ | ⟨front, last, rfl, negotiated, opening⟩ := run.append_cases
  · exact ⟨.error e, Attempt.yields_bind_of_error (initPrograms_yields_of_course failed), rfl⟩
  obtain ⟨outcome, opened, same⟩ := exists_openTables_yields opening
  have programs := initPrograms_yields_of_course negotiated
  cases outcome with
  | error e =>
      exact ⟨.error e, Attempt.yields_bind_of_ok programs (Attempt.yields_bind_of_error opened),
        same⟩
  | ok tables =>
      rw [← List.append_nil last]
      exact ⟨.ok _, Attempt.yields_bind_of_ok programs
        (Attempt.yields_bind_of_ok opened ⟨rfl, rfl⟩), same⟩

end Runs

end SocketAttribution
