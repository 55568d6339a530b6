import SocketAttribution.Json
import SocketAttribution.Platform.Verdict

/-!
# Reports on a platform

The JSON form of platform facts, plans and verdicts.

## Design notes

JSON holds text alone, so facts whose directory is no text have no JSON form.
-/

namespace SocketAttribution

def Version.json (v : Version) : Json :=
  .record [("major", .number v.major.toNat), ("minor", .number v.minor.toNat),
    ("sub", .number v.sub.toNat)]

def KernelFacts.json (facts : KernelFacts) : Json :=
  .record [("version", facts.version.json), ("kernel_32bit", .bool facts.kernel32),
    ("userspace_32bit", .bool facts.userspace32)]

/-- What is said when a report cannot be made of a path. -/
def unreportablePath : String := "path contains invalid UTF-8 characters"

/-- The JSON form of a path that may be missing, unless it is there and is no text. -/
def cgroupPathJson? : Option Path → Option Json
  | none => some .null
  | some p => p.text?.map .text

/-- The JSON form of platform facts, unless their directory is no text. -/
def PlatformFacts.json? (facts : PlatformFacts) : Option Json :=
  (cgroupPathJson? facts.cgroupPath).map fun path =>
    .record [("tier", .text facts.tier.letter), ("kernel", facts.kernel.json),
      ("cgroup_path", path)]

def PlanStep.json : PlanStep → Json
  | .checkAccessible program => .record [("check_accessible", .text program.name)]
  | .attach program hook =>
    .record [("attach", .record [("program", .text program.name), ("hook", .text hook.name)])]
  | .verify hook => .record [("verify", .text hook.name)]

def planJson (plan : List PlanStep) : Json := .array (plan.map PlanStep.json)

def Verdict.json : Verdict → Json
  | .supported plan => .record [("verdict", .text "supported"), ("plan", planJson plan)]
  | .unsupported refusal =>
    .record [("verdict", .text "unsupported"), ("reason", .text refusal.reason)]

/-- The JSON form of a list of hooks. -/
def hooksJson (hooks : List HookPoint) : Json := .array (hooks.map fun hook => .text hook.name)

/-- The report on a platform: its facts, the verdict and the hooks that are attached. -/
def platformReport? (facts : PlatformFacts) : Option Json :=
  facts.json?.map fun shown =>
    .record [("facts", shown), ("result", (evaluate facts).json),
      ("enabled_hooks", hooksJson (evaluate facts).enabledHooks)]

end SocketAttribution
