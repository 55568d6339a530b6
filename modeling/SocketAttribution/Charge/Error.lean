import SocketAttribution.Table.Error

/-!
# Refusals of a charge

## Main definitions

* `TagError`: why a request was refused.
* `TagError.status`: the number a caller gets instead, zero or below.
-/

namespace SocketAttribution

/-- Why a request about a socket's charge was refused. -/
inductive TagError where
  | permissionDenied
  | familyUnsupported (family : Int32)
  | protocolUnsupported (protocol : Int32)
  | quotaExceeded (uid total perUid : UInt32)
  | unknownConfiguration (value : UInt32)
  /-- The socket did not answer. -/
  | lookup (code : ErrorCode)
  | table (source : TableError)
  deriving DecidableEq, Repr

namespace TagError

/-- The wording of the refusal. -/
def message : TagError → String
  | .permissionDenied => "permission denied"
  | .familyUnsupported family => s!"unsupported socket family {family}"
  | .protocolUnsupported protocol => s!"unsupported socket protocol {protocol}"
  | .quotaExceeded uid total perUid =>
    s!"too many stats entries (total {total}, uid {uid} count {perUid})"
  | .unknownConfiguration value => s!"unknown configuration value {value}"
  | .lookup code => s!"socket lookup failed: {code.message}"
  | .table source => source.message

/-- The error code of the refusal. -/
def code : TagError → ErrorCode
  | .permissionDenied => ErrorCode.notPermitted
  | .familyUnsupported _ => ErrorCode.familyUnsupported
  | .protocolUnsupported _ => ErrorCode.protocolUnsupported
  | .quotaExceeded _ _ _ => ErrorCode.tooManyOpen
  | .unknownConfiguration _ => ErrorCode.invalidArgument
  | .lookup code => code
  | .table source => source.code

/-- The number that callers get: the code with its sign turned. -/
def status (e : TagError) : Int32 := -e.code

/-- What remains of a socket's failure to answer. -/
def ofSocket (e : SystemError) : TagError := .lookup e.code

end TagError

/-- The number that callers get for an outcome: zero for success. -/
def statusOf : Except TagError Unit → Int32
  | .ok () => 0
  | .error e => e.status

@[simp] theorem statusOf_ok : statusOf (.ok ()) = 0 := rfl

@[simp] theorem statusOf_error (e : TagError) : statusOf (.error e) = e.status := rfl

end SocketAttribution
