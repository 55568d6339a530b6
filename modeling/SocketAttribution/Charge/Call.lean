import SocketAttribution.Charge.Records
import SocketAttribution.Charge.Error
import SocketAttribution.Dialogue
import SocketAttribution.Socket.Query
import SocketAttribution.Table.Call

/-!
# Calls of the tagger

The tagger works on five tables and asks sockets about themselves. This module holds its
vocabulary.

## Main definitions

* `TagCall`, `TagCall.Answer`: a call of a table or a question about a socket.
* `TagAttempt`: work in this vocabulary that may be refused.
-/

namespace SocketAttribution

/-- A call of the tagger. -/
inductive TagCall where
  /-- The statistics table of a view. -/
  | stats (view : CounterView) (call : TableCall StatsKey StatsValue)
  /-- The cells of the configuration, among them the one that selects the live view. -/
  | configuration (call : TableCall UInt32 UInt32)
  /-- The permission bits of apps. -/
  | permissions (call : TableCall UInt32 UInt8)
  /-- The charges of sockets by their cookies. -/
  | cookieTags (call : TableCall UInt64 Charge)
  | socket (query : SocketQuery)
  deriving DecidableEq, Repr

/-- The answers to calls of the tagger. -/
abbrev TagCall.Answer : TagCall → Type
  | .stats _ call => call.Answer
  | .configuration call => call.Answer
  | .permissions call => call.Answer
  | .cookieTags call => call.Answer
  | .socket query => query.Answer

/-- Work of the tagger that may be refused. -/
abbrev TagAttempt (α : Type) : Type := Attempt TagCall TagCall.Answer TagError α

end SocketAttribution
