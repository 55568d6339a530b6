import SocketAttribution.CommandLine.Option

/-!
# Commands

What the agent can be told to do, and which options each command takes.

## Main definitions

* `CommandName`: the commands.
* `Scope`: the command line itself, or a command on it.
* `Topic`, `Topic.text`: what help can be asked for, and the help on it.
-/

namespace SocketAttribution.CommandLine

/-- A command of the agent. -/
inductive CommandName where
  | init
  | plan
  | usage
  | tag
  | untag
  deriving DecidableEq, Repr

namespace CommandName

/-- The word that names the command. -/
def word : CommandName → String
  | .init => "init"
  | .plan => "plan"
  | .usage => "usage"
  | .tag => "tag"
  | .untag => "untag"

/-- What the command does. -/
def about : CommandName → String
  | .init => "Negotiate and attach cgroup hooks, then open the attribution maps"
  | .plan => "Print the hook plan for the given platform facts without touching the kernel"
  | .usage => "Print how full the live stats map is"
  | .tag => "Charge a socket inherited on a file descriptor to a uid and tag"
  | .untag => "Remove a socket's charge"

/-- All commands in the order of the help. -/
def all : List CommandName := [.init, .plan, .usage, .tag, .untag]

/-- The command that a word names. -/
def ofWord? (word : String) : Option CommandName := all.find? fun name => name.word == word

/-- The options of the command itself. -/
def options : CommandName → List OptionName
  | .init => [.cgroupPath, .platformTier, .kernelVersion, .loaderTimeout, .perUidLimit, .totalLimit,
      .mapCapacity]
  | .plan => [.cgroupPath, .platformTier, .kernelVersion, .kernel32, .userspace32]
  | .usage => [.uid]
  | .tag => [.fd, .tag, .uid, .perUidLimit, .totalLimit, .mapCapacity]
  | .untag => [.fd]

/-- The options that the command cannot do without. -/
def required : CommandName → List OptionName
  | .init => [.platformTier]
  | .plan => [.platformTier, .kernelVersion]
  | .usage => [.uid]
  | .tag => [.fd, .tag]
  | .untag => [.fd]

end CommandName

/-- Where an argument stands: in front of any command, or behind one. -/
abbrev Scope := Option CommandName

namespace Scope

/-- The options that can stand in a scope. The pin root can stand anywhere. -/
def options : Scope → List OptionName
  | none => [.pinRoot]
  | some command => command.options ++ [.pinRoot]

/-- The options that must stand in a scope. -/
def required : Scope → List OptionName
  | none => []
  | some command => command.required

/-- The option of a scope that a word names. -/
def option? (scope : Scope) (word : String) : Option OptionName :=
  scope.options.find? fun name => name.word == word

end Scope

/-! ## Help -/

/-- The name of the program. -/
def programName : String := "traffic-tagger"

/-- What an option is for; nothing where its name says it. -/
def optionAbout (scope : Scope) : OptionName → String
  | .pinRoot => "bpffs directory holding the loader's pinned programs and maps"
  | .cgroupPath => if scope = some .init then "cgroup v2 mount the hooks attach to" else ""
  | .kernelVersion =>
    if scope = some .init then "Override the running kernel version (e.g. 5.10.0)" else ""
  | .loaderTimeout => "Seconds to wait for the loader; waits forever when omitted"
  | .perUidLimit => "Stats entries one uid may hold before tagging is refused"
  | .totalLimit => "Stats entries across all uids before tagging is refused"
  | .mapCapacity => "Capacity of each stats map"
  | .uid =>
    if scope = some .tag then "Uid the traffic is charged to; defaults to the caller's"
    else "Uid whose entries are counted separately"
  | .fd => if scope = some .tag then "Inherited socket descriptor" else ""
  | _ => ""

/-- The value that an option has when it is not given, as text. -/
def optionDefault (scope : Scope) : OptionName → Option String
  | .pinRoot => some Layout.default.pinRoot.text
  | .cgroupPath => if scope = some .init then some canonicalCgroupPath.text else none
  | .perUidLimit => some (toString QuotaLimits.default.perUid)
  | .totalLimit => some (toString QuotaLimits.default.total)
  | .mapCapacity => some (toString statsCapacity)
  | _ => none

/-- The help on an option. -/
def optionHelp (scope : Scope) (name : OptionName) : String :=
  let default := (optionDefault scope name).toList.map fun value => s!"[default: {value}]"
  let about := [optionAbout scope name].filter fun text => !text.isEmpty
  let choices := [UsageError.choicesText id name].filter fun text => !text.isEmpty
  " ".intercalate (about ++ default ++ choices)

/-- A text with blanks behind it up to a width. -/
def padTo (width : Nat) (text : String) : String :=
  String.ofList (text.toList ++ List.replicate (width - text.length) ' ')

/-- The options of a scope in the order of the help. The pin root shares the first place with the
first option of the command, and of the two the one whose word comes first stands in front. -/
def shownOptions (scope : Scope) : List OptionName :=
  match scope.bind fun command => command.options.head? with
  | none => scope.options
  | some first =>
    let others := scope.options.filter fun name => name ≠ first ∧ name ≠ .pinRoot
    if first.word < OptionName.pinRoot.word then first :: .pinRoot :: others
    else .pinRoot :: first :: others

/-- The rows of a scope's options: how each is shown and the help on it. -/
def optionRows (scope : Scope) : List (String × String) :=
  (shownOptions scope).map (fun name => ("    " ++ name.shown, optionHelp scope name)) ++
    [("-h, --help", "Print help")]

/-- The width of the widest first column. -/
def widest (rows : List (String × String)) : Nat :=
  rows.foldl (fun width row => max width row.1.length) 0

/-- The rows as lines, each with its help beside the column of the first parts. -/
def renderRows (rows : List (String × String)) : List String :=
  rows.map fun row => "  " ++ padTo (widest rows) row.1 ++ "  " ++ row.2

/-- How a scope is used. -/
def usageLine : Scope → String
  | none => s!"Usage: {programName} [OPTIONS] [COMMAND]"
  | some command =>
    " ".intercalate
      ([s!"Usage: {programName}", command.word, "[OPTIONS]"] ++
        command.required.map OptionName.shown)

/-- What asking for help by its own word does. -/
def helpAbout : String := "Print this message or the help of the given subcommand(s)"

/-- The rows of the commands. -/
def commandRows : List (String × String) :=
  CommandName.all.map (fun name => (name.word, name.about)) ++ [("help", helpAbout)]

/-- What help can be asked for. -/
inductive Topic where
  /-- The command line itself, or a command. -/
  | scope (scope : Scope)
  /-- Asking for help. -/
  | help
  deriving DecidableEq, Repr

namespace Topic

/-- The lines of the help on a topic. -/
def lines : Topic → List String
  | .scope none =>
    ["Socket traffic attribution agent", "", usageLine none, "", "Commands:"] ++
      renderRows commandRows ++ ["", "Options:"] ++ renderRows (optionRows none)
  | .scope (some command) =>
    [command.about, "", usageLine (some command), "", "Options:"] ++
      renderRows (optionRows (some command))
  | .help =>
    [helpAbout, "", s!"Usage: {programName} help [COMMAND]...", "", "Arguments:"] ++
      renderRows [("[COMMAND]...", "Print help for the subcommand(s)")]

/-- The help on a topic. -/
def text (topic : Topic) : String := "\n".intercalate topic.lines ++ "\n"

end Topic

end SocketAttribution.CommandLine
