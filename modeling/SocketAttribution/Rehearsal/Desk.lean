import SocketAttribution.Charge.Call
import SocketAttribution.Table.Bounded
import SocketAttribution.Table.Slot

/-!
# A desk in memory

The five tables and the sockets that a tagger works on, held in memory, with calls that can be made
to fail.

## Main definitions

* `FaultyTable`: a bounded table and the failures of its calls.
* `SocketAnswers`, `SocketAnswers.fresh`: what a socket answers, and one that was only just made.
* `SocketSheet`: what sockets answer.
* `Desk`, `Desk.answer`: all of it, and its answers to the tagger.
* `TagCall.line`: a call of the tagger as a line, so that what a run did can be read.
-/

namespace SocketAttribution

/-- The failures of a table's calls. -/
structure TableFaults where
  get : Option ErrorCode
  scan : Option ErrorCode
  upsert : Option ErrorCode
  delete : Option ErrorCode
  deriving DecidableEq, Repr

/-- No call fails. -/
def TableFaults.none : TableFaults := ⟨.none, .none, .none, .none⟩

/-- A bounded table whose calls can be made to fail. -/
structure FaultyTable (K V : Type) where
  table : Bounded K V
  faults : TableFaults

namespace FaultyTable

variable {K V : Type} [DecidableEq K]

/-- A table without entries whose calls do not fail. -/
def empty (capacity : Nat) : FaultyTable K V := ⟨.empty capacity, .none⟩

/-- The table with a value at a key, or without the key, whether there is room or not. -/
def put (t : FaultyTable K V) (key : K) : Option V → FaultyTable K V
  | some value => { t with table := t.table.set key value }
  | none => { t with table := t.table.erase key }

/-- The table with other room. -/
def resize (t : FaultyTable K V) (capacity : Nat) : FaultyTable K V :=
  { t with table := { t.table with capacity := capacity } }

/-- The outcome of a call on the table behind the failures. -/
def passOn {α : Type} (t : FaultyTable K V) (outcome : α × Bounded K V) : α × FaultyTable K V :=
  (outcome.1, { t with table := outcome.2 })

/-- The answers to table calls. A call that fails changes nothing; a walk that fails has met all
keys before. -/
def answer : (call : TableCall K V) → FaultyTable K V → call.Answer × FaultyTable K V
  | .get key, t =>
    match t.faults.get with
    | some code => (.error ⟨code⟩, t)
    | none => t.passOn (t.table.answer (.get key))
  | .scan, t =>
    match t.faults.scan with
    | some code => (⟨t.table.entries.keys, some ⟨code⟩⟩, t)
    | none => t.passOn (t.table.answer .scan)
  | .upsert key value, t =>
    match t.faults.upsert with
    | some code => (.error ⟨code⟩, t)
    | none => t.passOn (t.table.answer (.upsert key value))
  | .delete key, t =>
    match t.faults.delete with
    | some code => (.error ⟨code⟩, t)
    | none => t.passOn (t.table.answer (.delete key))

end FaultyTable

/-- A statistics table with entries of one user without counts: as many as said, with tags that
follow one another. -/
def FaultyTable.fill (t : FaultyTable StatsKey StatsValue) (uid first counterSet interface : UInt32)
    (count : Nat) : FaultyTable StatsKey StatsValue :=
  (List.range count).foldl
    (fun t i => t.put ⟨uid, first + UInt32.ofNat i, counterSet, interface⟩ (some .zero)) t

/-- A statistics table without the entries of a user, or without entries. -/
def FaultyTable.clear (t : FaultyTable StatsKey StatsValue) (uid : Option UInt32) :
    FaultyTable StatsKey StatsValue :=
  let stays (row : StatsKey × StatsValue) : Bool := uid.any fun gone => gone ≠ row.1.uid
  { t with table := { t.table with entries := t.table.entries.filter stays } }

/-- What one socket answers. -/
structure SocketAnswers where
  family : Except SystemError Int32
  protocol : Except SystemError Int32
  cookie : Except SystemError UInt64

namespace SocketAnswers

/-- What every descriptor answers that holds no socket, by the code of the refusal. -/
def refusal (code : ErrorCode) : SocketAnswers :=
  ⟨.error (.os code), .error (.os code), .error (.os code)⟩

/-- The family of sockets to the kernel itself. -/
def familyNetlink : Int32 := 16

/-- The kind of a socket without the flags that it was made with. -/
def kindOf (kind : Int32) : Int32 := kind &&& 15

/-- The protocol that a stream or a datagram of the internet families has if none was named. -/
def usualProtocol (kind : Int32) : Int32 :=
  if kindOf kind = 1 then protocolTcp else if kindOf kind = 2 then protocolUdp else 0

/-- The protocol that a socket tells. Only the internet families and that of the kernel keep one;
the others have none to tell, whatever was named. -/
def protocolOf (family kind protocol : Int32) : Int32 :=
  if isSupportedFamily family then if protocol = 0 then usualProtocol kind else protocol
  else if family = familyNetlink then protocol
  else 0

/-- What a socket answers that was just made. Its cookie is some number. -/
def fresh (family kind protocol : Int32) : SocketAnswers :=
  ⟨.ok family, .ok (protocolOf family kind protocol), .ok 1⟩

end SocketAnswers

/-- What sockets answer, by their descriptors. A descriptor that is not listed is a bad one. -/
abbrev SocketSheet := List (Descriptor × SocketAnswers)

namespace SocketSheet

/-- What the socket of a descriptor answers. -/
def find (sheet : SocketSheet) (socket : Descriptor) : SocketAnswers :=
  (sheet.lookup socket).getD
    ⟨.error (.os ErrorCode.badDescriptor), .error (.os ErrorCode.badDescriptor),
      .error (.os ErrorCode.badDescriptor)⟩

/-- The answers to questions about sockets. -/
def answer (sheet : SocketSheet) : (query : SocketQuery) → query.Answer
  | .family socket => (sheet.find socket).family
  | .protocol socket => (sheet.find socket).protocol
  | .cookie socket => (sheet.find socket).cookie

end SocketSheet

/-- The tables and sockets that a tagger works on. -/
structure Desk where
  statsA : FaultyTable StatsKey StatsValue
  statsB : FaultyTable StatsKey StatsValue
  configuration : FaultyTable UInt32 UInt32
  permissions : FaultyTable UInt32 UInt8
  cookieTags : FaultyTable UInt64 Charge
  sockets : SocketSheet

namespace Desk

/-- A desk of empty tables, each with room for so many entries. -/
def empty (capacity : Nat) (sockets : SocketSheet) : Desk :=
  ⟨.empty capacity, .empty capacity, .empty capacity, .empty capacity, .empty capacity, sockets⟩

/-- The statistics table of a view. -/
def stats (d : Desk) : CounterView → FaultyTable StatsKey StatsValue
  | .a => d.statsA
  | .b => d.statsB

/-- The desk with another statistics table for a view. -/
def setStats (d : Desk) (table : FaultyTable StatsKey StatsValue) : CounterView → Desk
  | .a => { d with statsA := table }
  | .b => { d with statsB := table }

/-- The desk with other failures for the table of a slot. -/
def setFaults (d : Desk) (change : TableFaults → TableFaults) : Slot → Desk
  | .statsA => { d with statsA := { d.statsA with faults := change d.statsA.faults } }
  | .statsB => { d with statsB := { d.statsB with faults := change d.statsB.faults } }
  | .configuration =>
    { d with configuration := { d.configuration with faults := change d.configuration.faults } }
  | .permissions =>
    { d with permissions := { d.permissions with faults := change d.permissions.faults } }
  | .cookieTags =>
    { d with cookieTags := { d.cookieTags with faults := change d.cookieTags.faults } }

/-- The answers to calls of the tagger. -/
def answer : (call : TagCall) → Desk → call.Answer × Desk
  | .stats view call, d =>
    let outcome := FaultyTable.answer call (d.stats view)
    (outcome.1, d.setStats outcome.2 view)
  | .configuration call, d =>
    let outcome := FaultyTable.answer call d.configuration
    (outcome.1, { d with configuration := outcome.2 })
  | .permissions call, d =>
    let outcome := FaultyTable.answer call d.permissions
    (outcome.1, { d with permissions := outcome.2 })
  | .cookieTags call, d =>
    let outcome := FaultyTable.answer call d.cookieTags
    (outcome.1, { d with cookieTags := outcome.2 })
  | .socket query, d => (d.sockets.answer query, d)

end Desk

/-! ## Calls as lines -/

/-- A call on a table as a line, given how a key is written. -/
def TableCall.line {K V : Type} (table : String) (render : K → String) : TableCall K V → String
  | .get key => s!"{table}.get {render key}"
  | .scan => s!"{table}.scan"
  | .upsert key _ => s!"{table}.upsert {render key}"
  | .delete key => s!"{table}.delete {render key}"

/-- A question about a socket as a line. -/
def SocketQuery.line : SocketQuery → String
  | .family socket => s!"family {socket}"
  | .protocol socket => s!"protocol {socket}"
  | .cookie socket => s!"cookie {socket}"

/-- The key of a statistics entry as text. -/
def StatsKey.text (key : StatsKey) : String :=
  s!"{key.uid} {key.tag} {key.counterSet} {key.interface}"

/-- A call of the tagger as a line. -/
def TagCall.line : TagCall → String
  | .stats .a call => call.line "stats_a" StatsKey.text
  | .stats .b call => call.line "stats_b" StatsKey.text
  | .configuration call => call.line "configuration" toString
  | .permissions call => call.line "permissions" toString
  | .cookieTags call => call.line "cookie_tags" toString
  | .socket query => query.line

end SocketAttribution
