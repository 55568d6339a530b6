import SocketAttribution.Charge.Delegation
import SocketAttribution.Charge.Occupancy

/-!
# Charging sockets

The requests that the agent serves: charge a socket's traffic to a user under a tag, remove a
socket's charge, and say how full the live statistics table is.

## Main definitions

* `Tagger`: the limits, and the tables once they are open.
* `Tagger.tagSocket`, `Tagger.untagSocket`, `Tagger.usage`: the requests.

## Design notes

A charge goes through a row of checks. The first that fails decides the outcome, and nothing behind
it is asked. Only the very last call changes anything.
-/

namespace SocketAttribution

/-- What serves requests. `Tables` is whatever stands for open tables; without them every request
is refused. -/
structure Tagger (Tables : Type) where
  tables : Option Tables
  limits : QuotaLimits
  deriving DecidableEq, Repr

/-- A request to charge a socket. -/
structure TagRequest where
  socket : Descriptor
  tag : UInt32
  /-- The user whom the traffic is charged to. -/
  chargeUid : UInt32
  /-- The user who asks for it. -/
  callerUid : UInt32
  deriving DecidableEq, Repr

namespace TagRequest

/-- The caller charges himself, or may charge others. -/
def authorise (r : TagRequest) : TagAttempt Unit :=
  if r.chargeUid = r.callerUid then pure ()
  else do
    unless ← ExceptT.lift (mayChargeOthers r.callerUid) do
      Attempt.note .tagger .error s!"uid {r.callerUid} may not charge traffic to uid {r.chargeUid}"
      throw .permissionDenied

/-- Nobody charges the clat user, which would hide the traffic from all accounts. -/
def refuseClat (r : TagRequest) : TagAttempt Unit := do
  if r.chargeUid = clatUid then
    Attempt.note .tagger .error s!"refusing to charge uid {r.callerUid}'s socket to the clat uid"
    throw .permissionDenied

end TagRequest

/-- The address family of a socket. -/
def readFamily (socket : Descriptor) : TagAttempt Int32 :=
  Attempt.mapError TagError.ofSocket <|
    Attempt.noteError .tagger .error (fun e => s!"failed to read socket family: {e.message}") <|
      Attempt.demand (.socket (.family socket)) fun answer => answer

/-- The protocol of a socket. -/
def readProtocol (socket : Descriptor) : TagAttempt Int32 :=
  Attempt.mapError TagError.ofSocket <|
    Attempt.noteError .tagger .error (fun e => s!"failed to read socket protocol: {e.message}") <|
      Attempt.demand (.socket (.protocol socket)) fun answer => answer

/-- The cookie of a socket. -/
def readCookie (socket : Descriptor) : TagAttempt UInt64 :=
  Attempt.demand (.socket (.cookie socket)) fun answer => answer.mapError TagError.ofSocket

namespace TagRequest

/-- The socket is of a family that can be charged. -/
def checkFamily (r : TagRequest) : TagAttempt Unit := do
  let family ← readFamily r.socket
  unless isSupportedFamily family do
    Attempt.note .tagger .error s!"unsupported family: {family}"
    throw (.familyUnsupported family)

/-- The socket is of a protocol that can be charged. -/
def checkProtocol (r : TagRequest) : TagAttempt Unit := do
  let protocol ← readProtocol r.socket
  unless isSupportedProtocol protocol do
    Attempt.note .tagger .error s!"unsupported protocol: {protocol}"
    throw (.protocolUnsupported protocol)

/-- The limits leave room for the user in the live table. -/
def checkQuota (limits : QuotaLimits) (r : TagRequest) : TagAttempt Unit := do
  let (view, occupancy) ←
    Attempt.noteError .tagger .error (fun e => s!"failed to count stats entries: {e.message}") <|
      readOccupancy r.chargeUid
  unless limits.Admits occupancy do
    Attempt.note .tagger .error
      (s!"too many stats entries in map {view.letter}, total count: {occupancy.total}, " ++
        s!"uid {r.chargeUid} count: {occupancy.perUid}, " ++
        "blocking tag request to prevent map overflow")
    throw (.quotaExceeded r.chargeUid occupancy.total occupancy.perUid)

/-- The charge that a request asks for. -/
def charge (r : TagRequest) : Charge := ⟨r.chargeUid, r.tag⟩

/-- Writes the charge under the cookie of the socket. -/
def record (r : TagRequest) (cookie : UInt64) : TagAttempt Unit := do
  Attempt.noteError .tagger .error (fun e => s!"failed to tag socket: {e.message}") <|
    Attempt.demand (.cookieTags (.upsert cookie r.charge)) fun answer =>
      answer.mapError TagError.table
  Attempt.note .tagger .debug
    (s!"socket with cookie {cookie} tagged with tag {r.tag} uid {r.chargeUid} " ++
      s!"and real uid {r.callerUid}")

end TagRequest

namespace Tagger

variable {Tables : Type}

/-- A tagger whose tables are not open. -/
def closed (limits : QuotaLimits) : Tagger Tables := ⟨none, limits⟩

/-- The tagger with open tables. -/
def withTables (t : Tagger Tables) (tables : Tables) : Tagger Tables :=
  { t with tables := some tables }

/-- The tables are open. -/
def requireTables (t : Tagger Tables) : TagAttempt Unit :=
  if t.tables.isSome then pure () else throw .permissionDenied

/-- Charges a socket. -/
def tagSocket (t : Tagger Tables) (r : TagRequest) : TagAttempt Unit := do
  t.requireTables
  r.authorise
  r.refuseClat
  r.checkFamily
  r.checkProtocol
  let cookie ← readCookie r.socket
  r.checkQuota t.limits
  r.record cookie

/-- Removes the charge of a socket, if it has one. -/
def untagSocket (t : Tagger Tables) (socket : Descriptor) : TagAttempt Unit := do
  let cookie ← readCookie socket
  t.requireTables
  Attempt.noteError .tagger .error (fun e => s!"failed to untag socket: {e.message}") <|
    Attempt.demand (.cookieTags (.delete cookie)) fun answer => answer.mapError TagError.table
  Attempt.note .tagger .debug s!"socket with cookie {cookie} untagged"

/-- The live statistics table and its occupancy for a user. -/
def usage (t : Tagger Tables) (uid : UInt32) : TagAttempt (CounterView × Occupancy) := do
  t.requireTables
  readOccupancy uid

end Tagger

end SocketAttribution
