import SocketAttribution.SystemError

/-!
# Questions about sockets

What must be known of a socket before its traffic is charged to anyone.

## Main definitions

* `Descriptor`: the number by which a process holds a socket.
* `SocketQuery`: the three questions.
* `isSupportedFamily`, `isSupportedProtocol`: which sockets can be charged at all.
-/

namespace SocketAttribution

/-- The number by which a process holds a socket. -/
abbrev Descriptor := Int32

/-- A question about a socket. -/
inductive SocketQuery where
  | family (socket : Descriptor)
  | protocol (socket : Descriptor)
  /-- The number that the kernel gives the socket for good; never zero. -/
  | cookie (socket : Descriptor)
  deriving DecidableEq, Repr

/-- The answers to questions about a socket. -/
abbrev SocketQuery.Answer : SocketQuery → Type
  | .family _ => Except SystemError Int32
  | .protocol _ => Except SystemError Int32
  | .cookie _ => Except SystemError UInt64

/-- The address family of IPv4. -/
def familyInet : Int32 := 2

/-- The address family of IPv6. -/
def familyInet6 : Int32 := 10

/-- The protocol number of TCP. -/
def protocolTcp : Int32 := 6

/-- The protocol number of UDP. -/
def protocolUdp : Int32 := 17

/-- Whether sockets of the address family can be charged. -/
def isSupportedFamily (family : Int32) : Bool :=
  family == familyInet || family == familyInet6

/-- Whether sockets of the protocol can be charged: those whose end is reported, so that a charge
does not outlive its socket. -/
def isSupportedProtocol (protocol : Int32) : Bool :=
  protocol == protocolTcp || protocol == protocolUdp

theorem isSupportedFamily_iff {family : Int32} :
    isSupportedFamily family = true ↔ family = familyInet ∨ family = familyInet6 := by
  simp [isSupportedFamily]

theorem isSupportedProtocol_iff {protocol : Int32} :
    isSupportedProtocol protocol = true ↔ protocol = protocolTcp ∨ protocol = protocolUdp := by
  simp [isSupportedProtocol]

/-- A descriptor that was handed to the agent, unless its number can be none. -/
def inheritedDescriptor (number : Int32) : Except String Descriptor :=
  if 0 ≤ number then .ok number else .error s!"invalid file descriptor {number}"

/-- The cookie that the kernel answers with; zero means that there is none. -/
def cookieOfKernel (answer : UInt64) : Except SystemError UInt64 :=
  if answer = 0 then .error (.os ErrorCode.noEntry) else .ok answer

/-- **A cookie is never zero.** -/
theorem ne_zero_of_cookieOfKernel {answer cookie : UInt64}
    (h : cookieOfKernel answer = .ok cookie) : cookie ≠ 0 := by
  unfold cookieOfKernel at h
  split at h
  · cases h
  · cases h; assumption

end SocketAttribution
