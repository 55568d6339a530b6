import SocketAttribution.Path.Basic

/-!
# Pinned programs

The programs that the loader pins for the agent, and where it pins them.
-/

namespace SocketAttribution

/-- A program that the loader provides. -/
inductive Program where
  | allowlistFilter
  | denylistFilter
  | egressFilter
  | ingressFilter
  | egressStats
  | ingressStats
  | sockCreate
  | blockBind4
  | blockBind6
  | setSockOpt
  deriving DecidableEq, Repr

namespace Program

/-- The name under which the loader pins the program. -/
def pinName : Program → String
  | .allowlistFilter => "prog_skfilter_allowlist_xtbpf"
  | .denylistFilter => "prog_skfilter_denylist_xtbpf"
  | .egressFilter => "prog_skfilter_egress_xtbpf"
  | .ingressFilter => "prog_skfilter_ingress_xtbpf"
  | .egressStats => "prog_cgroupskb_egress_stats"
  | .ingressStats => "prog_cgroupskb_ingress_stats"
  | .sockCreate => "prog_cgroupsock_inet_create"
  | .blockBind4 => "prog_block_bind4_block_port"
  | .blockBind6 => "prog_block_bind6_block_port"
  | .setSockOpt => "prog_setsockopt_prog"

/-- The name of the program in reports. -/
def name : Program → String
  | .allowlistFilter => "allowlist_filter"
  | .denylistFilter => "denylist_filter"
  | .egressFilter => "egress_filter"
  | .ingressFilter => "ingress_filter"
  | .egressStats => "egress_stats"
  | .ingressStats => "ingress_stats"
  | .sockCreate => "sock_create"
  | .blockBind4 => "block_bind4"
  | .blockBind6 => "block_bind6"
  | .setSockOpt => "set_sock_opt"

/-- All programs. -/
def all : List Program :=
  [.allowlistFilter, .denylistFilter, .egressFilter, .ingressFilter, .egressStats, .ingressStats,
    .sockCreate, .blockBind4, .blockBind6, .setSockOpt]

/-- **Every program is listed.** -/
theorem mem_all (program : Program) : program ∈ all := by
  cases program <;> decide

end Program

/-- Where the loader pins what it loads. -/
structure Layout where
  pinRoot : Path
  deriving DecidableEq, Repr

namespace Layout

/-- The directory that the loader uses unless it is told otherwise. -/
def default : Layout := ⟨.ofString "/sys/fs/bpf/traffic_tagger"⟩

/-- The path at which a program is pinned. -/
def programPath (layout : Layout) (program : Program) : Path :=
  layout.pinRoot.join program.pinName

end Layout

end SocketAttribution
