import SocketAttribution.Text.Numeral

/-!
# JSON

The values that reports are made of, and their text. Numbers are whole and not negative, because a
report holds no others.

## Main definitions

* `Json`: a value.
* `Json.record`: an object whose members stand in the order of their names.
* `Json.pretty`: a value as text on several lines.

## Design notes

Every member and every item stands on a line of its own, two blanks further in than what holds it.
An empty array or object stays on one line. Characters beyond ASCII are written as they are.
-/

namespace SocketAttribution

/-- A JSON value. -/
inductive Json where
  | null
  | bool (value : Bool)
  | number (value : Nat)
  | text (value : String)
  | array (items : List Json)
  | object (members : List (String × Json))

namespace Json

/-- Puts a member in front of the first one with a name that is not smaller. -/
def insertMember (name : String) (value : Json) :
    List (String × Json) → List (String × Json)
  | [] => [(name, value)]
  | member :: rest =>
    if member.1 < name then member :: insertMember name value rest
    else (name, value) :: member :: rest

/-- An object whose members stand in the order of their names, whatever order they are given in. -/
def record (members : List (String × Json)) : Json :=
  .object (members.foldr (fun m sorted => insertMember m.1 m.2 sorted) [])

/-- A text, or null where there is none. -/
def textOrNull : Option String → Json
  | none => .null
  | some value => .text value

/-! ## Text on several lines -/

/-- The escape of one character inside a quoted text. -/
def escapeChar (c : Char) : List Char :=
  if c = '"' then ['\\', '"']
  else if c = '\\' then ['\\', '\\']
  else if c = '\n' then ['\\', 'n']
  else if c = '\r' then ['\\', 'r']
  else if c = '\t' then ['\\', 't']
  else if c = Char.ofNat 8 then ['\\', 'b']
  else if c = Char.ofNat 12 then ['\\', 'f']
  else if c.toNat < 32 then
    ['\\', 'u', '0', '0', Text.digitChar (c.toNat / 16), Text.digitChar (c.toNat % 16)]
  else [c]

/-- A text between quotes. -/
def quote (s : String) : String :=
  String.ofList ('"' :: (s.toList.flatMap escapeChar ++ ['"']))

/-- A line break and the blanks of a depth. -/
def newline (depth : Nat) : String :=
  String.ofList ('\n' :: List.replicate (2 * depth) ' ')

mutual

/-- A value whose lines after the first stand at `depth`. -/
def prettyAt (depth : Nat) : Json → String
  | .null => "null"
  | .bool true => "true"
  | .bool false => "false"
  | .number value => Text.decimalText value
  | .text value => quote value
  | .array [] => "[]"
  | .array (item :: items) =>
    "[" ++ newline (depth + 1) ++ prettyAt (depth + 1) item ++ prettyItems depth items
  | .object [] => "\x7b\x7d"
  | .object ((name, value) :: members) =>
    "\x7b" ++ newline (depth + 1) ++ quote name ++ ": " ++ prettyAt (depth + 1) value ++
      prettyMembers depth members

/-- The items that follow the first, and the closing bracket. -/
def prettyItems (depth : Nat) : List Json → String
  | [] => newline depth ++ "]"
  | item :: items =>
    "," ++ newline (depth + 1) ++ prettyAt (depth + 1) item ++ prettyItems depth items

/-- The members that follow the first, and the closing brace. -/
def prettyMembers (depth : Nat) : List (String × Json) → String
  | [] => newline depth ++ "\x7d"
  | (name, value) :: members =>
    "," ++ newline (depth + 1) ++ quote name ++ ": " ++ prettyAt (depth + 1) value ++
      prettyMembers depth members

end

/-- A value on several lines. -/
def pretty (value : Json) : String := prettyAt 0 value

end Json

end SocketAttribution
