/-!
# Hook points

The points of a cgroup at which a program can be attached.
-/

namespace SocketAttribution

/-- A point of a cgroup at which a program can be attached. -/
inductive HookPoint where
  | inetIngress
  | inetEgress
  | inetSockCreate
  | inet4Bind
  | inet6Bind
  | setSockOpt
  deriving DecidableEq, Repr

namespace HookPoint

/-- The number by which the kernel knows the point. -/
def attachType : HookPoint → UInt32
  | .inetIngress => 0
  | .inetEgress => 1
  | .inetSockCreate => 2
  | .inet4Bind => 8
  | .inet6Bind => 9
  | .setSockOpt => 22

/-- The name of the point in messages. -/
def label : HookPoint → String
  | .inetIngress => "InetIngress"
  | .inetEgress => "InetEgress"
  | .inetSockCreate => "InetSockCreate"
  | .inet4Bind => "Inet4Bind"
  | .inet6Bind => "Inet6Bind"
  | .setSockOpt => "SetSockOpt"

/-- The name of the point in reports. -/
def name : HookPoint → String
  | .inetIngress => "inet_ingress"
  | .inetEgress => "inet_egress"
  | .inetSockCreate => "inet_sock_create"
  | .inet4Bind => "inet4_bind"
  | .inet6Bind => "inet6_bind"
  | .setSockOpt => "set_sock_opt"

/-- All points. -/
def all : List HookPoint :=
  [.inetIngress, .inetEgress, .inetSockCreate, .inet4Bind, .inet6Bind, .setSockOpt]

/-- **Every point is listed.** -/
theorem mem_all (hook : HookPoint) : hook ∈ all := by
  cases hook <;> decide

/-- **Two points have two numbers.** -/
theorem attachType_injective {a b : HookPoint} (h : a.attachType = b.attachType) : a = b := by
  revert h
  cases a <;> cases b <;> decide

end HookPoint

end SocketAttribution
