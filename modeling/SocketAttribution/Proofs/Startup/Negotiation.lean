import SocketAttribution.Proofs.Hook.Attachment
import SocketAttribution.Proofs.Platform.Admission
import SocketAttribution.Proofs.Startup.Loader
import SocketAttribution.Rehearsal.Host
import SocketAttribution.Startup.Sequence

/-!
# Negotiation of hooks

From the facts about a platform to hooks in a cgroup there are four ends: the platform is refused,
no directory is named, the directory cannot be opened, or the plan for the kernel version is carried
out. Only at the last one anything is asked of the program host. What the host may be left with
follows from what plans may contain and from what is said while they are carried out.

## Main definitions

* `Negotiation`: the exchanges of a negotiation and how they end.
* `SoundNegotiation`: what they amount to for the cgroup.
* `loadedSurroundings`: surroundings in which startup succeeds.

## Main statements

* `initPrograms_yields`: the exchanges of every run form a negotiation.
* `Negotiation.ok_iff`: a negotiation fails only where there is a reason.
* `initPrograms_sound`: **every run is sound, whatever the facts, the layout and the host**.
-/

namespace SocketAttribution

variable {Prog Dir Handle σ : Type}

/-- An exchange with a program host, as one of startup. -/
def HostExchange.atStartup (exchange : HostExchange Prog Dir) : StartupExchange Prog Dir Handle :=
  ⟨.host exchange.1, exchange.2⟩

/-- The hook at which a call of startup attaches a program, if it does. -/
def StartupCall.attachedHook? : StartupCall Prog Dir Handle → Option HookPoint
  | .host call => call.attachedHook?
  | _ => none

theorem StartupCall.attachedHook?_eq_some {call : StartupCall Prog Dir Handle} {hook : HookPoint}
    (attaches : call.attachedHook? = some hook) :
    ∃ program directory, call = .host (.attach hook program directory) := by
  cases call with
  | poll marker => cases attaches
  | openDirectory path => cases attaches
  | pin call => cases attaches
  | host call =>
      cases call with
      | retrieve path => cases attaches
      | query hook directory => cases attaches
      | attach hook program directory =>
          cases attaches
          exact ⟨program, directory, rfl⟩

/-- The exchanges of a negotiation, and how it ends. -/
inductive Negotiation (layout : Layout) (facts : PlatformFacts) :
    List (StartupExchange Prog Dir Handle) → Except InitError Unit → Prop where
  | refused (refusal : Refusal) (verdict : evaluate facts = .unsupported refusal) :
    Negotiation layout facts [] (.error (.platformUnsupported refusal.reason))
  | unnamed (plan : List PlanStep) (verdict : evaluate facts = .supported plan)
    (none : facts.cgroupPath = none) :
    Negotiation layout facts [] (.error (.configuration .noCgroupPath))
  | unopened (plan : List PlanStep) (verdict : evaluate facts = .supported plan)
    (path : Path) (named : facts.cgroupPath = some path) (source : SystemError) :
    Negotiation layout facts [⟨.openDirectory path, .error source⟩]
      (.error (.configuration (.cgroupUnopenable path source)))
  | carriedOut (plan : List PlanStep) (verdict : evaluate facts = .supported plan)
    (path : Path) (named : facts.cgroupPath = some path) (directory : Dir)
    (talk : List (HostExchange Prog Dir)) (outcome : Except HookError Unit)
    (execution : Execution layout directory plan talk outcome) :
    Negotiation layout facts
      (⟨.openDirectory path, .ok directory⟩ :: talk.map HostExchange.atStartup)
      (outcome.mapError .hook)

/-! ## Every run is a negotiation -/

section Runs

variable {layout : Layout} {facts : PlatformFacts} {plan : List PlanStep}
  {talk front back : List (StartupExchange Prog Dir Handle)} {outcome : Except InitError Unit}

theorem negotiate_eq_ok (agreed : negotiate facts = .ok plan) :
    evaluate facts = .supported plan := by
  rw [negotiate] at agreed
  split at agreed
  · next verdict =>
      cases agreed
      exact verdict
  · cases agreed

theorem negotiate_eq_error {e : InitError} (failed : negotiate facts = .error e) :
    ∃ refusal, evaluate facts = .unsupported refusal ∧ e = .platformUnsupported refusal.reason := by
  rw [negotiate] at failed
  split at failed
  · cases failed
  · next refusal verdict =>
      cases failed
      exact ⟨refusal, verdict, rfl⟩

theorem cgroupPathOf_eq_ok {path : Path} (named : cgroupPathOf facts = .ok path) :
    facts.cgroupPath = some path := by
  rw [cgroupPathOf] at named
  split at named
  · next present =>
      cases named
      exact present
  · cases named

theorem cgroupPathOf_eq_error {e : InitError} (failed : cgroupPathOf facts = .error e) :
    facts.cgroupPath = none ∧ e = .configuration .noCgroupPath := by
  rw [cgroupPathOf] at failed
  split at failed
  · cases failed
  · next absent =>
      cases failed
      exact ⟨absent, rfl⟩

theorem hostWork_yields {work : HostAttempt Prog Dir Unit}
    (yields : (hostWork work).run.Yields talk outcome) :
    ∃ said result, talk = said.map HostExchange.atStartup ∧ work.run.Yields said result ∧
      outcome = result.mapError .hook := by
  obtain ⟨result, inner, rfl⟩ := Attempt.mapError_of_yields yields
  obtain ⟨said, rfl, within⟩ := Dialogue.yields_through_iff.1 inner
  refine ⟨said, result, rfl, ?_, rfl⟩
  rw [List.map_id'] at within
  exact within

/-- **The exchanges of every run form a negotiation.** -/
theorem initPrograms_yields (yields : (initPrograms layout facts).run.Yields talk outcome) :
    Negotiation layout facts talk outcome := by
  -- One part of the program after the other: where one fails, the negotiation has come to its end.
  obtain ⟨e, failed, rfl⟩ | ⟨plan, _, _, rfl, agreed, afterPlan⟩ := Attempt.bind_of_yields yields
  · obtain ⟨rfl, refused⟩ := Attempt.ofExcept_of_yields failed
    obtain ⟨refusal, verdict, rfl⟩ := negotiate_eq_error refused.symm
    exact .refused refusal verdict
  obtain ⟨rfl, supported⟩ := Attempt.ofExcept_of_yields agreed
  have verdict : evaluate facts = .supported plan := negotiate_eq_ok supported.symm
  obtain ⟨e, failed, rfl⟩ | ⟨path, _, _, rfl, named, afterPath⟩ :=
    Attempt.bind_of_yields afterPlan
  · obtain ⟨rfl, unnamed⟩ := Attempt.ofExcept_of_yields failed
    obtain ⟨absent, rfl⟩ := cgroupPathOf_eq_error unnamed.symm
    exact .unnamed plan verdict absent
  obtain ⟨rfl, found⟩ := Attempt.ofExcept_of_yields named
  have present : facts.cgroupPath = some path := cgroupPathOf_eq_ok found.symm
  obtain ⟨e, failed, rfl⟩ | ⟨directory, _, _, rfl, opened, work⟩ :=
    Attempt.bind_of_yields afterPath
  · obtain ⟨source | _, rfl, same⟩ := Attempt.demand_of_yields failed
    · cases same
      exact .unopened plan verdict path present source
    · cases same
  obtain ⟨_ | _, rfl, same⟩ := Attempt.demand_of_yields opened
  · cases same
  · cases same
    obtain ⟨said, result, rfl, carriedOut, rfl⟩ := hostWork_yields work
    exact .carriedOut plan verdict path present directory said result
      (executePlan_yields carriedOut)

/-- **Whoever asks the host has a plan and an open directory.** -/
theorem Negotiation.of_host {call : HostCall Prog Dir} {answer : call.Answer}
    (run : Negotiation layout facts (front ++ ⟨.host call, answer⟩ :: back) outcome) :
    ∃ path directory before after result,
      evaluate facts = .supported (attachPlan facts.kernel.version) ∧
      facts.cgroupPath = some path ∧
      front = ⟨.openDirectory path, .ok directory⟩ :: before.map HostExchange.atStartup ∧
      back = after.map HostExchange.atStartup ∧ outcome = result.mapError .hook ∧
      Execution layout directory (attachPlan facts.kernel.version)
        (before ++ ⟨call, answer⟩ :: after) result := by
  generalize whole : front ++ ⟨.host call, answer⟩ :: back = talk at run
  cases run with
  | refused refusal verdict => simp at whole
  | unnamed plan verdict absent => simp at whole
  | unopened plan verdict path named source => simp [List.append_eq_cons_iff] at whole
  | carriedOut plan verdict path named directory said result execution =>
      cases evaluate_supported verdict
      obtain ⟨-, head⟩ | ⟨before, rfl, tail⟩ := List.append_eq_cons_iff.1 whole
      · cases head
      obtain ⟨early, late, rfl, rfl, there⟩ := List.map_eq_append_iff.1 tail
      obtain ⟨exchange, after, rfl, same, rfl⟩ := List.map_eq_cons_iff.1 there
      cases same
      exact ⟨path, directory, early, after, result, verdict, named, rfl, rfl, rfl, execution⟩

end Runs

/-! ## What a negotiation amounts to -/

/-- What the exchanges of a negotiation amount to for the cgroup. -/
structure SoundNegotiation (layout : Layout) (facts : PlatformFacts)
    (talk : List (StartupExchange Prog Dir Handle)) (outcome : Except InitError Unit) : Prop where
  /-- It succeeds if and only if the platform is admitted, a directory is named, and no call is
  denied. -/
  ok_iff : outcome = .ok () ↔
    (∃ plan, evaluate facts = .supported plan) ∧ (∃ path, facts.cgroupPath = some path) ∧
      (∀ path source, ⟨.openDirectory path, .error source⟩ ∉ talk) ∧
      ∀ call answer, ⟨.host call, answer⟩ ∈ talk → ¬ call.Denied answer
  /-- Without an admitted platform and an open directory the host is not asked for anything. -/
  silent :
    (∀ plan, evaluate facts ≠ .supported plan) ∨
      (¬ ∃ path ∈ facts.cgroupPath, ∃ directory, ⟨.openDirectory path, .ok directory⟩ ∈ talk) →
    ∀ exchange ∈ talk, ∀ call, exchange.1 ≠ .host call
  /-- Before anything is attached, all four socket filters have been opened. -/
  prepared : ∀ front hook program directory answer back,
    talk = front ++ ⟨.host (.attach hook program directory), answer⟩ :: back →
    ∀ filter ∈ [Program.allowlistFilter, .denylistFilter, .egressFilter, .ingressFilter],
      ∃ handle, ⟨.host (.retrieve (layout.programPath filter)), .ok handle⟩ ∈ front
  /-- On success the enabled hooks have been attached, each once and in order, and no others. -/
  complete : outcome = .ok () →
    talk.filterMap (·.1.attachedHook?) = (evaluate facts).enabledHooks ∧
      (evaluate facts).enabledHooks.Nodup
  /-- On success every attachment was accepted and is one of the program that was just opened from
  the hook's own path, and from 4.19.0 on its hook was found to have a program later. -/
  attached : outcome = .ok () → ∀ front hook program directory answer back,
    talk = front ++ ⟨.host (.attach hook program directory), answer⟩ :: back →
    answer = .ok () ∧
      (∃ earlier, front =
        earlier ++ [⟨.host (.retrieve (layout.programPath hook.program)), .ok program⟩]) ∧
      ((⟨4, 19, 0⟩ : Version) ≤ facts.kernel.version →
        ∃ count, 0 < count ∧ ⟨.host (.query hook directory), .ok count⟩ ∈ back)
  /-- Below 4.19.0 the host is not asked about any hook. -/
  unasked : facts.kernel.version < (⟨4, 19, 0⟩ : Version) →
    ∀ exchange ∈ talk, ∀ hook directory, exchange.1 ≠ .host (.query hook directory)
  /-- The process must stop at once if and only if the host, having refused nothing, does not
  confirm a hook that it let a program be attached at. -/
  fatal_iff : (∃ e, outcome = .error e ∧ e.isFatal = true) ↔
    ∃ front hook directory answer back,
      talk = front ++ ⟨.host (.query hook directory), answer⟩ :: back ∧
      (∀ call answer, ⟨.host call, answer⟩ ∈ front → call.Succeeds answer) ∧
      (∃ program, ⟨.host (.attach hook program directory), .ok ()⟩ ∈ front) ∧
      ∀ count, answer = .ok count → count = 0

namespace Negotiation

variable {layout : Layout} {facts : PlatformFacts}
  {talk front back : List (StartupExchange Prog Dir Handle)} {outcome : Except InitError Unit}
  {hook : HookPoint} {program : Prog} {directory : Dir}

theorem mem_atStartup {said : List (HostExchange Prog Dir)} {call : HostCall Prog Dir}
    {answer : call.Answer} :
    (⟨.host call, answer⟩ : StartupExchange Prog Dir Handle) ∈ said.map HostExchange.atStartup ↔
      ⟨call, answer⟩ ∈ said := by
  rw [List.mem_map]
  constructor
  · rintro ⟨exchange, mem, same⟩
    cases same
    exact mem
  · intro mem
    exact ⟨_, mem, rfl⟩

/-- **A negotiation fails only where there is a reason**: a platform that is not admitted, no
directory, or a call that is denied. -/
theorem ok_iff (run : Negotiation layout facts talk outcome) : outcome = .ok () ↔
    (∃ plan, evaluate facts = .supported plan) ∧ (∃ path, facts.cgroupPath = some path) ∧
      (∀ path source, ⟨.openDirectory path, .error source⟩ ∉ talk) ∧
      ∀ call answer, ⟨.host call, answer⟩ ∈ talk → ¬ call.Denied answer := by
  cases run with
  | refused refusal verdict =>
      refine iff_of_false nofun ?_
      rintro ⟨⟨plan, supported⟩, -⟩
      cases verdict.symm.trans supported
  | unnamed plan verdict absent =>
      refine iff_of_false nofun ?_
      rintro ⟨-, ⟨path, named⟩, -⟩
      cases absent.symm.trans named
  | unopened plan verdict path named source =>
      refine iff_of_false nofun ?_
      rintro ⟨-, -, opened, -⟩
      exact opened path source List.mem_cons_self
  | carriedOut plan verdict path named directory said result execution =>
      have ends : result.mapError InitError.hook = .ok () ↔ result = .ok () := by
        cases result <;> simp [Except.mapError]
      rw [ends, execution.ok_iff_met]
      constructor
      · intro met
        refine ⟨⟨plan, verdict⟩, ⟨path, named⟩, fun path' source mem => ?_,
          fun call answer mem => ?_⟩
        · rcases List.mem_cons.1 mem with same | mem
          · cases same
          · obtain ⟨own, -, same⟩ := List.mem_map.1 mem
            cases same
        · rcases List.mem_cons.1 mem with same | mem
          · cases same
          · exact met _ (mem_atStartup.1 mem)
      · rintro ⟨-, -, -, met⟩ ⟨call, answer⟩ mem
        exact met call answer (List.mem_cons_of_mem _ (mem_atStartup.2 mem))

theorem silent (run : Negotiation layout facts talk outcome)
    (unfit : (∀ plan, evaluate facts ≠ .supported plan) ∨
      ¬ ∃ path ∈ facts.cgroupPath, ∃ directory, ⟨.openDirectory path, .ok directory⟩ ∈ talk) :
    ∀ exchange ∈ talk, ∀ call, exchange.1 ≠ .host call := by
  rintro ⟨_, answer⟩ mem call rfl
  obtain ⟨front, back, rfl⟩ := List.append_of_mem mem
  obtain ⟨path, directory, before, after, result, verdict, named, rfl, -⟩ := run.of_host
  rcases unfit with refused | unopened
  · exact refused _ verdict
  · exact unopened ⟨path, named, directory, List.mem_append_left _ List.mem_cons_self⟩

theorem prepared {answer : Except SystemError Unit}
    (run : Negotiation layout facts
      (front ++ ⟨.host (.attach hook program directory), answer⟩ :: back) outcome) :
    ∀ filter ∈ socketFilters,
      ∃ handle, ⟨.host (.retrieve (layout.programPath filter)), .ok handle⟩ ∈ front := by
  intro filter mem
  obtain ⟨path, opened, before, after, result, -, -, rfl, -, -, execution⟩ := run.of_host
  obtain ⟨steps, pinned, rest, earlier, inner, here, rfl, first, -⟩ := execution.of_attach
  obtain ⟨said, done, within⟩ := first.said_of_mem (attachPlan_checks_first here filter mem)
  cases done with
  | checkAccessible filter handle =>
      have there : ⟨.retrieve (layout.programPath filter), .ok handle⟩ ∈ earlier ++ inner :=
        List.mem_append_left _ (within _ List.mem_cons_self)
      exact ⟨handle, List.mem_cons_of_mem _ (mem_atStartup.2 there)⟩

/-- A negotiation that succeeds has carried out its plan. -/
theorem of_ok (run : Negotiation layout facts talk (.ok ())) :
    ∃ path directory said,
      talk = ⟨.openDirectory path, .ok directory⟩ :: said.map HostExchange.atStartup ∧
      evaluate facts = .supported (attachPlan facts.kernel.version) ∧
      Execution layout directory (attachPlan facts.kernel.version) said (.ok ()) := by
  generalize ends : Except.ok () = outcome at run
  cases run with
  | refused refusal verdict => cases ends
  | unnamed plan verdict absent => cases ends
  | unopened plan verdict path named source => cases ends
  | carriedOut plan verdict path named directory said result execution =>
      cases evaluate_supported verdict
      cases result with
      | error e => cases ends
      | ok _ => exact ⟨path, directory, said, rfl, verdict, execution⟩

theorem complete (run : Negotiation layout facts talk (.ok ())) :
    talk.filterMap (·.1.attachedHook?) = (evaluate facts).enabledHooks ∧
      (evaluate facts).enabledHooks.Nodup := by
  obtain ⟨path, directory, said, rfl, verdict, execution⟩ := run.of_ok
  have enabled :
      (evaluate facts).enabledHooks = attachedHooks (attachPlan facts.kernel.version) := by
    rw [verdict]
    rfl
  rw [enabled]
  constructor
  · rw [List.filterMap_cons_none rfl, List.filterMap_map]
    exact execution.attached
  · exact nodup_attachedHooks_attachPlan _

theorem attached {answer : Except SystemError Unit}
    (run : Negotiation layout facts
      (front ++ ⟨.host (.attach hook program directory), answer⟩ :: back) (.ok ())) :
    answer = .ok () ∧
      (∃ earlier, front =
        earlier ++ [⟨.host (.retrieve (layout.programPath hook.program)), .ok program⟩]) ∧
      ((⟨4, 19, 0⟩ : Version) ≤ facts.kernel.version →
        ∃ count, 0 < count ∧ ⟨.host (.query hook directory), .ok count⟩ ∈ back) := by
  obtain ⟨path, opened, before, after, result, -, -, rfl, rfl, ends, execution⟩ := run.of_host
  cases result with
  | error e => cases ends
  | ok _ =>
      obtain ⟨steps, pinned, rest, earlier, inner, here, rfl, -, full⟩ := execution.of_attach
      obtain ⟨rfl, rfl, rfl, behind⟩ := full rfl
      have there : .attach pinned hook ∈ attachPlan facts.kernel.version := by
        rw [here]
        exact List.mem_append_cons_self
      obtain rfl : pinned = hook.program := attachPlan_own_program there
      refine ⟨rfl, ⟨⟨.openDirectory path, .ok directory⟩ :: earlier.map HostExchange.atStartup, ?_⟩,
        ?_⟩
      · rw [List.map_append]
        rfl
      · intro recent
        obtain ⟨said, done, within⟩ := behind.said_of_mem (attachPlan_verify_of_attach recent here)
        cases done with
        | verify hook count positive =>
            exact ⟨count, positive, mem_atStartup.2 (within _ List.mem_cons_self)⟩

theorem unasked (run : Negotiation layout facts talk outcome)
    (older : facts.kernel.version < (⟨4, 19, 0⟩ : Version)) :
    ∀ exchange ∈ talk, ∀ hook directory, exchange.1 ≠ .host (.query hook directory) := by
  rintro ⟨_, answer⟩ mem hook directory rfl
  obtain ⟨front, back, rfl⟩ := List.append_of_mem mem
  obtain ⟨path, opened, before, after, result, -, -, -, -, -, execution⟩ := run.of_host
  exact attachPlan_recent_of_verify execution.of_query.1 older

/-- A fatal end is the failure to verify a hook. -/
theorem unconfirmed_of_fatal {e : InitError} (run : Negotiation layout facts talk (.error e))
    (fatal : e.isFatal = true) :
    ∃ front hook directory answer, talk = front ++ [⟨.host (.query hook directory), answer⟩] ∧
      (∀ call answer, ⟨.host call, answer⟩ ∈ front → call.Succeeds answer) ∧
      (∃ program, ⟨.host (.attach hook program directory), .ok ()⟩ ∈ front) ∧
      Unconfirmed answer := by
  generalize ends : Except.error e = outcome at run
  cases run with
  | refused refusal verdict =>
      cases ends
      cases fatal
  | unnamed plan verdict absent =>
      cases ends
      cases fatal
  | unopened plan verdict path named source =>
      cases ends
      cases fatal
  | carriedOut plan verdict path named directory said result execution =>
      cases evaluate_supported verdict
      cases result with
      | ok _ => cases ends
      | error failure =>
          cases ends
          -- The question about the hook was the last thing said. The plan attaches what it
          -- verifies, so the attachment is among what was complete by then.
          obtain ⟨hook, rfl⟩ := HookError.isInconsistent_eq_true_iff.1 fatal
          obtain ⟨steps, rest, front, answer, here, rfl, unconfirmed, first⟩ :=
            execution.of_unverified
          obtain ⟨pinned, earlier⟩ := attachPlan_attached_of_verify here
          obtain ⟨exchanges, done, within⟩ := first.said_of_mem earlier
          cases done with
          | attach pinned hook program =>
              have there : ⟨.attach hook program directory, .ok ()⟩ ∈ front :=
                within _ (List.mem_cons_of_mem _ List.mem_cons_self)
              refine ⟨⟨.openDirectory path, .ok directory⟩ :: front.map HostExchange.atStartup,
                hook, directory, answer, ?_, ?_, ⟨program, ?_⟩, unconfirmed⟩
              · rw [List.map_append]
                rfl
              · intro call answer mem
                rcases List.mem_cons.1 mem with same | mem
                · cases same
                · exact first.succeeds _ (mem_atStartup.1 mem)
              · exact List.mem_cons_of_mem _ (mem_atStartup.2 there)

/-- Where the host does not confirm a hook, the process must stop. -/
theorem fatal_of_unconfirmed {answer : Except SystemError UInt32}
    (run : Negotiation layout facts (front ++ ⟨.host (.query hook directory), answer⟩ :: back)
      outcome) (unconfirmed : Unconfirmed answer) : ∃ e, outcome = .error e ∧ e.isFatal = true := by
  obtain ⟨path, opened, before, after, result, -, -, -, -, rfl, execution⟩ := run.of_host
  obtain ⟨-, ⟨count, rfl, positive⟩ | rfl⟩ := execution.of_query
  · cases unconfirmed count rfl
    exact absurd positive (by decide)
  · exact ⟨.hook (.unverified hook), rfl, rfl⟩

end Negotiation

/-! ## Every run is sound -/

/-- Surroundings in which the loader has pinned everything, around a host in memory. The marker is
there from the third look on, and the clock moves by an interval between looks. Programs and maps
are known by the paths of their pins. -/
def loadedSurroundings (layout : Layout) : (c : StartupCall Path Unit Path) → ℕ × Host →
    c.Answer × (ℕ × Host)
  | .poll _, (looks, host) => (⟨2 ≤ looks, .ofMillis (100 * looks)⟩, (looks + 1, host))
  | .openDirectory _, s => (.ok (), s)
  | .host call, (looks, host) =>
    let outcome := Host.answer call host
    (outcome.1, (looks, outcome.2))
  | .pin (.obtain path), s => (.ok path, s)
  | .pin (.describe path), s =>
    (match Slot.all.find? fun slot => layout.mapPath slot = path with
      | some slot => .ok slot.loaderInfo
      | none => .error (.os ErrorCode.invalidArgument), s)

/-- **Whatever the facts, the layout and the host, hooks are negotiated soundly**: nothing fails
without a reason, nothing is asked of the host in vain, nothing is attached before the socket
filters are known to be there, success means that exactly the enabled hooks are attached and, where
the kernel can be asked, found, and the process is told to stop at once exactly if the kernel denies
an attachment that it accepted. -/
theorem initPrograms_sound (answer : (c : StartupCall Prog Dir Handle) → σ → c.Answer × σ)
    (state : σ) (layout : Layout) (facts : PlatformFacts) :
    SoundNegotiation layout facts
      ((initPrograms layout facts).run.exchanges answer state)
      ((initPrograms layout facts).run.run answer state).value := by
  have run : Negotiation layout facts
      ((initPrograms layout facts).run.exchanges answer state)
      ((initPrograms layout facts).run.run answer state).value :=
    initPrograms_yields (Dialogue.yields_exchanges answer _ state)
  -- From here on only the exchanges matter, and no longer who answered and out of what state.
  generalize (initPrograms layout facts).run.exchanges answer state = talk at run ⊢
  generalize ((initPrograms layout facts).run.run answer state).value = outcome at run ⊢
  refine ⟨run.ok_iff, run.silent, ?_, ?_, ?_, run.unasked, ?_⟩
  · rintro front hook program directory answer back rfl
    exact run.prepared
  · rintro rfl
    exact run.complete
  · rintro rfl front hook program directory answer back rfl
    exact run.attached
  · constructor
    · rintro ⟨e, rfl, fatal⟩
      obtain ⟨front, hook, directory, answer, rfl, unrefused, attached, unconfirmed⟩ :=
        run.unconfirmed_of_fatal fatal
      exact ⟨front, hook, directory, answer, [], rfl, unrefused, attached, unconfirmed⟩
    · rintro ⟨front, hook, directory, answer, back, rfl, -, -, unconfirmed⟩
      exact run.fatal_of_unconfirmed unconfirmed

/-- On a recent kernel all six hooks are attached, and the host confirms each of them. -/
theorem initPrograms_sound_verified :
    let facts : PlatformFacts :=
      ⟨.v, ⟨⟨5, 10, 0⟩, false, false⟩, some (.ofString "/sys/fs/cgroup")⟩
    let hooks : List HookPoint :=
      [.inetEgress, .inetIngress, .inetSockCreate, .inet4Bind, .inet6Bind, .setSockOpt]
    let work : StartupAttempt Path Unit Path Unit := initPrograms .default facts
    let talk := work.run.exchanges (loadedSurroundings .default) (0, .empty)
    (work.run.run (loadedSurroundings .default) (0, .empty)).value = .ok () ∧
      talk.filterMap (·.1.attachedHook?) = hooks ∧
      ∀ hook ∈ hooks, ∃ program directory count,
        ⟨.host (.attach hook program directory), .ok ()⟩ ∈ talk ∧
          0 < count ∧ ⟨.host (.query hook directory), .ok count⟩ ∈ talk := by
  intro facts hooks work talk
  have succeeds : (work.run.run (loadedSurroundings .default) (0, .empty)).value = .ok () := by
    decide +kernel
  have enabled : (evaluate facts).enabledHooks = hooks := by decide +kernel
  have sound := initPrograms_sound (loadedSurroundings .default) (0, .empty) .default facts
  have attached : talk.filterMap (·.1.attachedHook?) = hooks :=
    (sound.complete succeeds).1.trans enabled
  refine ⟨succeeds, attached, fun hook mem => ?_⟩
  rw [← attached] at mem
  obtain ⟨⟨call, answer⟩, there, attaches⟩ := List.mem_filterMap.1 mem
  obtain ⟨program, directory, rfl⟩ := StartupCall.attachedHook?_eq_some attaches
  obtain ⟨front, back, split⟩ := List.append_of_mem there
  obtain ⟨rfl, -, found⟩ := sound.attached succeeds front hook program directory answer back split
  obtain ⟨count, positive, later⟩ := found (by decide)
  refine ⟨program, directory, count, there, positive, ?_⟩
  rw [split]
  exact List.mem_append_right _ (List.mem_cons_of_mem _ later)

end SocketAttribution
