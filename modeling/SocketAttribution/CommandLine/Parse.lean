import SocketAttribution.CommandLine.Grammar

/-!
# Reading a command line

## Main definitions

* `Invocation`: what a command line asks for.
* `Stop`: what ends the reading early, a call for help or an error.
* `parse`: reads a command line.

## Design notes

An option keeps the argument behind it as its value and looks at it only when the next option
begins or the arguments end, so an argument that is nothing at all is told before a value that
makes no sense. What looks like an option is never a value. Behind two dashes alone nothing is an
option or a command.
-/

namespace SocketAttribution.CommandLine

/-- What a command line asks for: the settings in front of the command, and the command with those
behind it. -/
structure Invocation where
  front : Settings
  command : Option (CommandName × Settings)

/-- What ends the reading early. -/
inductive Stop where
  | help (topic : Topic)
  | refused (e : UsageError)

/-- An option whose value has not been looked at. -/
structure Pending where
  name : OptionName
  value : Option String

/-- How far the reading has come. -/
structure Progress where
  settings : Settings
  pending : Option Pending

namespace Progress

/-- Nothing has been read. -/
def start : Progress := ⟨[], none⟩

/-- Adds an option with the text of its value. -/
def settle (settings : Settings) (name : OptionName) (text : String) :
    Except UsageError Settings := do
  if settings.has name then throw (.repeated name)
  let value ← name.read text
  pure (settings ++ [⟨name, value⟩])

/-- Looks at the value that was put off. -/
def resolve (p : Progress) : Except UsageError Settings :=
  match p.pending with
  | none => .ok p.settings
  | some ⟨name, none⟩ => .error (.missingValue name)
  | some ⟨name, some text⟩ => settle p.settings name text

/-- An option begins that takes the next argument as its value. -/
def await (p : Progress) (name : OptionName) : Except UsageError Progress := do
  pure ⟨← p.resolve, some ⟨name, none⟩⟩

/-- An option with its value in one argument, or a flag. -/
def give (p : Progress) (name : OptionName) (text : String) : Except UsageError Progress := do
  pure ⟨← settle (← p.resolve) name text, none⟩

/-- Whether the next argument is a value. -/
def isAwaiting (p : Progress) : Bool :=
  match p.pending with
  | some ⟨_, none⟩ => true
  | _ => false

/-- The next argument as the value that is waited for. -/
def accept (p : Progress) (text : String) : Progress :=
  { p with pending := p.pending.map fun pending => { pending with value := some text } }

/-- A call for help; a value that was put off is looked at first. -/
def askHelp (p : Progress) (scope : Scope) : Stop :=
  match p.resolve with
  | .ok _ => .help (.scope scope)
  | .error e => .refused e

end Progress

/-- The word and the value of an argument that starts with two dashes. -/
def splitValue (s : List Char) : String × Option String :=
  match s.dropWhile (· ≠ '=') with
  | [] => (String.ofList s, none)
  | _ :: value => (String.ofList (s.takeWhile (· ≠ '=')), some (String.ofList value))

/-- Reads an option given by its word. -/
def readLong (scope : Scope) (p : Progress) (s : List Char) : Except Stop Progress :=
  let (word, value?) := splitValue s
  match scope.option? word, value? with
  | some name, value? =>
    if name.valueName?.isSome then
      match value? with
      | some value => (p.give name value).mapError .refused
      | none => (p.await name).mapError .refused
    else
      match value? with
      | some value => .error (.refused (.valueForFlag name.shown value))
      | none => (p.give name "").mapError .refused
  | none, none =>
    if word == "help" then .error (p.askHelp scope)
    else .error (.refused (.unexpectedArgument s!"--{word}"))
  | none, some value =>
    if word == "help" then .error (.refused (.valueForFlag "--help" value))
    else .error (.refused (.unexpectedArgument s!"--{word}"))

/-- Reads an option given by a letter. There is one letter only, and it asks for help. -/
def readShort (scope : Scope) (p : Progress) (letter : Char) : Except Stop Progress :=
  if letter = 'h' then .error (p.askHelp scope)
  else .error (.refused (.unexpectedArgument (String.ofList ['-', letter])))

/-- The error of an argument that stands alone. In front of all commands it would have to be one;
behind two dashes it can be none. -/
def strayArgument (scope : Scope) (trailing : Bool) (text : String) : UsageError :=
  let namesCommand := (CommandName.ofWord? text).isSome || text == "help"
  if scope = none ∧ ¬ (trailing ∧ namesCommand) then .unrecognisedCommand text
  else .unexpectedArgument text

/-- Reads the arguments behind a command. -/
def parseBehind (command : CommandName) : (trailing : Bool) → Progress → List String →
    Except Stop Settings
  | _, p, [] => p.resolve.mapError .refused
  | true, _, text :: _ => .error (.refused (strayArgument (some command) true text))
  | false, p, text :: rest =>
    match text.toList with
    | ['-', '-'] => parseBehind command true p rest
    | '-' :: '-' :: s => do parseBehind command false (← readLong (some command) p s) rest
    | '-' :: letter :: _ => do parseBehind command false (← readShort (some command) p letter) rest
    | _ =>
      if p.isAwaiting then parseBehind command false (p.accept text) rest
      else .error (.refused (strayArgument (some command) false text))

/-- The settings of a scope, if all that it needs are there. -/
def requireAll (scope : Scope) (settings : Settings) : Except Stop Settings :=
  match scope.required.filter fun name => !settings.has name with
  | [] => .ok settings
  | missing => .error (.refused (.missingOptions missing))

/-- Reads a command and what stands behind it, and then looks at what was put off in front. -/
def parseCommand (front : Progress) (command : CommandName) (rest : List String) :
    Except Stop Invocation := do
  let settings ← requireAll (some command) (← parseBehind command false .start rest)
  pure ⟨← front.resolve.mapError .refused, some (command, settings)⟩

/-- What a word behind a call for help asks about. -/
def topic? (word : String) : Option Topic :=
  if word == "help" then some .help
  else (CommandName.ofWord? word).map fun command => .scope (some command)

/-- Reads the words behind a call for help. -/
def parseHelp : List String → Stop
  | [] => .help (.scope none)
  | word :: rest =>
    match topic? word, rest with
    | some topic, [] => .help topic
    | some _, stray :: _ => .refused (.unrecognisedCommand stray)
    | none, _ => .refused (.unrecognisedCommand word)

/-- Reads the arguments in front of the commands. -/
def parseFront : (trailing : Bool) → Progress → List String → Except Stop Invocation
  | _, p, [] => do pure ⟨← p.resolve.mapError .refused, none⟩
  | true, _, text :: _ => .error (.refused (strayArgument none true text))
  | false, p, text :: rest =>
    match text.toList with
    | ['-', '-'] => parseFront true p rest
    | '-' :: '-' :: s => do parseFront false (← readLong none p s) rest
    | '-' :: letter :: _ => do parseFront false (← readShort none p letter) rest
    | _ =>
      if p.isAwaiting then parseFront false (p.accept text) rest
      else if text == "help" then .error (parseHelp rest)
      else
        match CommandName.ofWord? text with
        | some command => parseCommand p command rest
        | none => .error (.refused (strayArgument none false text))

/-- Reads a command line, given without the name of the program. -/
def parse (args : List String) : Except Stop Invocation := parseFront false .start args

end SocketAttribution.CommandLine
