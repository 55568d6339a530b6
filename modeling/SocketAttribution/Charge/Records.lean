/-!
# Records of the tables

What the tables hold, and the numbers that the kernel side and the agent agree on.
-/

namespace SocketAttribution

/-- Who the traffic of a socket is charged to, and under which tag. -/
structure Charge where
  uid : UInt32
  tag : UInt32
  deriving DecidableEq, Repr

/-- The key of a statistics entry. -/
structure StatsKey where
  uid : UInt32
  tag : UInt32
  counterSet : UInt32
  interface : UInt32
  deriving DecidableEq, Repr

/-- The counters of a statistics entry. -/
structure StatsValue where
  rxPackets : UInt64
  rxBytes : UInt64
  txPackets : UInt64
  txBytes : UInt64
  deriving DecidableEq, Repr

/-- Counters that have counted nothing. -/
def StatsValue.zero : StatsValue := ⟨0, 0, 0, 0⟩

/-- The two statistics tables. The kernel writes to one of them at a time. -/
inductive CounterView where
  | a
  | b
  deriving DecidableEq, Repr

namespace CounterView

/-- The letter of a table. -/
def letter : CounterView → String
  | .a => "A"
  | .b => "B"

/-- The table that a value of the selector cell selects. -/
def ofSelector? (value : UInt32) : Option CounterView :=
  if value = 0 then some .a else if value = 1 then some .b else none

@[simp] theorem ofSelector?_zero : ofSelector? 0 = some .a := rfl

@[simp] theorem ofSelector?_one : ofSelector? 1 = some .b := rfl

end CounterView

/-- How many entries the kernel side provides in each statistics table. -/
def statsCapacity : UInt32 := 5000

/-- The key of the cell that selects the live statistics table. -/
def selectorKey : UInt32 := 1

end SocketAttribution
