import SocketAttribution.CommandLine.Call
import SocketAttribution.CommandLine.LogFilter
import SocketAttribution.CommandLine.Parse
import SocketAttribution.Json
import SocketAttribution.Platform.Report

/-!
# Running a command line

## Main definitions

* `usageReport`: the report on the live table.
* `execute`: the work of what a command line asks for; it ends with what is printed.
* `Ending`, `Exit`: how the process ends, what it prints and what it complains of.
* `run`: from arguments to the end of the process.
* `errorText`: what a process leaves on its error stream.
-/

namespace SocketAttribution

/-! ## Reports on the live table -/

def QuotaLimits.json (limits : QuotaLimits) : Json :=
  .record [("per_uid", .number limits.perUid.toNat), ("total", .number limits.total.toNat)]

def Occupancy.json (occupancy : Occupancy) : Json :=
  .record [("total", .number occupancy.total.toNat), ("per_uid", .number occupancy.perUid.toNat)]

/-- The report on the live table: which it is, how full it is and how full it may be. -/
def usageReport (view : CounterView) (occupancy : Occupancy) (limits : QuotaLimits) : Json :=
  .record [("map", .text view.letter), ("occupancy", occupancy.json), ("limits", limits.json)]

namespace CommandLine

variable {Prog Dir Handle : Type}

/-! ## Commands -/

/-- The limits that settings ask for. -/
def limitsOf (settings : Settings) : Except Failure QuotaLimits :=
  (QuotaLimits.checked ((settings.get? .perUidLimit).getD QuotaLimits.default.perUid)
    ((settings.get? .totalLimit).getD QuotaLimits.default.total)
    ((settings.get? .mapCapacity).getD statsCapacity)).mapError fun fault =>
      .reported "invalid quota limits" [fault.message]

/-- A tagger over the tables of a layout. -/
def openTagger (layout : Layout) (limits : QuotaLimits) :
    AgentAttempt Prog Dir Handle (Tables Handle × Tagger (Tables Handle)) := do
  let tables ← startupWork (fun e => .reported "failed to open attribution maps" e.chain)
    (openTables layout)
  pure (tables, (Tagger.closed limits).withTables tables)

/-- The failure of startup. -/
def startupFailure (e : InitError) : Failure :=
  if e.isFatal then .aborting e.message else .reported "initialization failed" e.chain

/-- Startup on the running kernel. -/
def runInit (layout : Layout) (settings : Settings) : AgentAttempt Prog Dir Handle String := do
  let kernel ← systemWork (fun e => .ofChain e.chain) runningFacts
  let kernel := { kernel with version := (settings.get? .kernelVersion).getD kernel.version }
  let tier := (settings.get? .platformTier).getD .s
  let facts : PlatformFacts :=
    ⟨tier, kernel, some ((settings.get? .cgroupPath).getD canonicalCgroupPath)⟩
  let limits ← Attempt.ofExcept (limitsOf settings)
  let timeout := (settings.get? .loaderTimeout).map fun seconds => .ofSeconds seconds.toNat
  Attempt.note .command .info
    s!"initializing on {facts.tier.letter} platform, kernel {facts.kernel.version.text}"
  let _ ← startupWork startupFailure (initialise facts ⟨layout, limits, timeout⟩)
  Attempt.note .command .info "initialization complete"
  pure ""

/-- The facts that settings state. -/
def statedFacts (settings : Settings) : PlatformFacts :=
  ⟨(settings.get? .platformTier).getD .s,
    ⟨(settings.get? .kernelVersion).getD ⟨0, 0, 0⟩, settings.has .kernel32,
      settings.has .userspace32⟩,
    settings.get? .cgroupPath⟩

/-- The report on stated facts. -/
def runPlan (settings : Settings) : AgentAttempt Prog Dir Handle String :=
  match platformReport? (statedFacts settings) with
  | some report => pure (report.pretty ++ "\n")
  | none => throw (.bare unreportablePath)

/-- The report on the live table. -/
def runUsage (layout : Layout) (settings : Settings) : AgentAttempt Prog Dir Handle String := do
  let (tables, tagger) ← openTagger layout .default
  let (view, occupancy) ←
    taggerWork tables (fun e => .bare s!"failed to read stats map usage: {e.message}")
      (tagger.usage ((settings.get? .uid).getD 0))
  pure ((usageReport view occupancy tagger.limits).pretty ++ "\n")

/-- Charges an inherited socket. -/
def runTag (layout : Layout) (settings : Settings) : AgentAttempt Prog Dir Handle String := do
  let fd := (settings.get? .fd).getD 0
  let tag := (settings.get? .tag).getD 0
  let limits ← Attempt.ofExcept (limitsOf settings)
  let (tables, tagger) ← openTagger layout limits
  let caller ← systemWork (fun e : Empty => e.elim) (Attempt.demand .user .ok)
  let socket ← Attempt.ofExcept ((inheritedDescriptor fd).mapError Failure.bare)
  let charged := (settings.get? .uid).getD caller
  taggerWork tables (fun e => .reported s!"failed to tag fd {fd}" [e.message])
    (tagger.tagSocket ⟨socket, tag, charged, caller⟩)
  Attempt.note .command .info s!"fd {fd} charged to uid {charged} tag {tagText tag}"
  pure ""

/-- Removes the charge of an inherited socket. -/
def runUntag (layout : Layout) (settings : Settings) : AgentAttempt Prog Dir Handle String := do
  let fd := (settings.get? .fd).getD 0
  let (tables, tagger) ← openTagger layout .default
  let socket ← Attempt.ofExcept ((inheritedDescriptor fd).mapError Failure.bare)
  taggerWork tables (fun e => .reported s!"failed to untag fd {fd}" [e.message])
    (tagger.untagSocket socket)
  pure ""

/-- The layout that settings ask for; what stands behind the command wins. -/
def layoutOf (front behind : Settings) : Layout :=
  ⟨((behind.get? .pinRoot).or (front.get? .pinRoot)).getD Layout.default.pinRoot⟩

/-- The work of what a command line asks for. -/
def execute (invocation : Invocation) : AgentAttempt Prog Dir Handle String :=
  match invocation.command with
  | none => pure (Topic.text (.scope none) ++ "\n")
  | some (name, settings) =>
    let layout := layoutOf invocation.front settings
    match name with
    | .init => runInit layout settings
    | .plan => runPlan settings
    | .usage => runUsage layout settings
    | .tag => runTag layout settings
    | .untag => runUntag layout settings

/-! ## The process -/

/-- How a process ends. -/
inductive Ending where
  | exited (code : UInt8)
  | aborted
  deriving DecidableEq, Repr

/-- How a process ends, what it has printed, and what it has to say about a command line that it
could not read. -/
structure Exit where
  ending : Ending
  printed : String
  complaint : String
  deriving DecidableEq, Repr

/-- The end of a process whose work is done or has failed; a failure goes to the log. -/
def conclude : Except Failure String → Dialogue (AgentCall Prog Dir Handle) AgentCall.Answer Exit
  | .ok printed => .done ⟨.exited 0, printed, ""⟩
  | .error (.aborting message) => .log ⟨.command, .error, message⟩ (.done ⟨.aborted, "", ""⟩)
  | .error (.reported headline causes) =>
    .log ⟨.command, .error, "traffic-tagger error: " ++ Failure.text headline causes⟩
      (.done ⟨.exited 1, "", ""⟩)

/-- From arguments to the end of the process. -/
def run (args : List String) : Dialogue (AgentCall Prog Dir Handle) AgentCall.Answer Exit :=
  match parse args with
  | .error (.help topic) => .done ⟨.exited 0, topic.text, ""⟩
  | .error (.refused e) => .done ⟨.exited 2, "", e.message⟩
  | .ok invocation => (execute invocation).run.bind conclude

/-! ## The error stream

The stream leads to no terminal, so control sequences are left out of each thing that is said on it.
Warnings about the log's filter alone are left as they are. -/

/-- A warning about the filter of the log. -/
def warning (complaint : String) : String := s!"warning: {complaint}, ignoring it\n"

/-- What is visible of a text. -/
def shownText (text : String) : String := String.ofList (Text.visible text.toList)

/-- A log line on the stream; lines behind its first are indented. -/
def shownLine (line : LogLine) : String :=
  shownText ("\n    ".intercalate (line.render.splitOn "\n") ++ "\n")

/-- What a process leaves on the stream, where it may be told a filter for its log. -/
def errorText (setting : Option String) (log : List LogLine) (left : Exit) : String :=
  let (filter, complaints) := LogFilter.ofSetting setting
  String.join (complaints.map warning) ++
    String.join ((log.filter fun line => filter.Admits line).map shownLine) ++
    shownText left.complaint

end CommandLine

end SocketAttribution
