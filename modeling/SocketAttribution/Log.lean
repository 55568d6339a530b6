/-!
# Log lines

What the agent says about its work, each line with its weight and the part of the agent that says
it.

## Main definitions

* `Level`, `Origin`, `LogLine`: a line, its weight and where it comes from.
* `Level.rank`: the order of weights, by which a filter lets lines through.
* `LogLine.render`: a line as it is shown.
-/

namespace SocketAttribution

/-- The weight of a log line, heaviest first. -/
inductive Level where
  | error
  | warn
  | info
  | debug
  deriving DecidableEq, Repr

namespace Level

/-- The name that a line starts with. -/
def name : Level → String
  | .error => "ERROR"
  | .warn => "WARN"
  | .info => "INFO"
  | .debug => "DEBUG"

/-- The place in the order, heaviest first. -/
def rank : Level → Nat
  | .error => 1
  | .warn => 2
  | .info => 3
  | .debug => 4

end Level

/-- The part of the agent that a log line comes from. -/
inductive Origin where
  /-- The command that runs. -/
  | command
  /-- Startup, apart from its hooks. -/
  | startup
  | hooks
  | tagger
  | delegation
  deriving DecidableEq, Repr

/-- The name by which a filter speaks of a part. The command's name begins all others. -/
def Origin.target : Origin → String
  | .command => "traffic_tagger"
  | .startup => "traffic_tagger::init"
  | .hooks => "traffic_tagger::hooks"
  | .tagger => "traffic_tagger::tagger"
  | .delegation => "traffic_tagger::delegation"

/-- A line of the log. -/
structure LogLine where
  origin : Origin
  level : Level
  text : String
  deriving DecidableEq, Repr

/-- A line with the name of its weight in front. -/
def LogLine.render (line : LogLine) : String := line.level.name ++ " " ++ line.text

end SocketAttribution
