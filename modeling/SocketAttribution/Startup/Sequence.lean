import SocketAttribution.Charge.Tagging
import SocketAttribution.Platform.Verdict
import SocketAttribution.Startup.Loader
import SocketAttribution.Startup.Tables

/-!
# Startup

From nothing to a tagger that serves requests: wait for the loader, attach the hooks that the
platform allows, open the tables. A stage begins only once the one before it is complete.

## Main definitions

* `initPrograms`: negotiates the hooks and attaches them.
* `initialise`: all stages.
-/

namespace SocketAttribution

variable {Prog Dir Handle : Type}

/-- What startup is told. -/
structure InitOptions where
  layout : Layout
  limits : QuotaLimits
  /-- How long to wait for the loader; without end if nothing is said. -/
  loaderTimeout : Option Duration

/-- The plan for a platform, if it is admitted. -/
def negotiate (facts : PlatformFacts) : Except InitError (List PlanStep) :=
  match evaluate facts with
  | .supported plan => .ok plan
  | .unsupported refusal => .error (.platformUnsupported refusal.reason)

/-- The directory that hooks attach to. -/
def cgroupPathOf (facts : PlatformFacts) : Except InitError Path :=
  match facts.cgroupPath with
  | some path => .ok path
  | none => .error (.configuration .noCgroupPath)

/-- Opens the directory that hooks attach to. -/
def openCgroup (path : Path) : StartupAttempt Prog Dir Handle Dir :=
  Attempt.demand (.openDirectory path) fun answer =>
    answer.mapError fun source => .configuration (.cgroupUnopenable path source)

/-- Host work as a part of startup. -/
def hostWork {α : Type} (work : HostAttempt Prog Dir α) : StartupAttempt Prog Dir Handle α :=
  Attempt.mapError InitError.hook (Attempt.through StartupCall.host (fun _ answer => answer) work)

/-- Negotiates the hooks of a platform and attaches them. -/
def initPrograms (layout : Layout) (facts : PlatformFacts) :
    StartupAttempt Prog Dir Handle Unit := do
  let plan ← Attempt.ofExcept (negotiate facts)
  let path ← Attempt.ofExcept (cgroupPathOf facts)
  let directory ← openCgroup path
  hostWork (executePlan layout directory plan)

/-- All of startup: only the tagger that it ends with serves requests. -/
def initialise (facts : PlatformFacts) (options : InitOptions) :
    StartupAttempt Prog Dir Handle (Tagger (Tables Handle)) := do
  awaitLoader options.layout options.loaderTimeout
  initPrograms options.layout facts
  let tables ← openTables options.layout
  pure ((Tagger.closed options.limits).withTables tables)

end SocketAttribution
