import SocketAttribution.Text.Numeral

/-!
# Durations

Spans of time in nanoseconds and their text: the largest unit of which there is at least one, and
the fraction without its trailing zeros, as in `250ms`, `1.05s` and `3.5µs`.
-/

namespace SocketAttribution

/-- A span of time. -/
structure Duration where
  nanoseconds : Nat
  deriving DecidableEq, Repr

namespace Duration

def ofMillis (n : Nat) : Duration := ⟨n * 1000000⟩

def ofSeconds (n : Nat) : Duration := ⟨n * 1000000000⟩

instance : LE Duration := ⟨fun a b => a.nanoseconds ≤ b.nanoseconds⟩

instance (a b : Duration) : Decidable (a ≤ b) :=
  inferInstanceAs (Decidable (a.nanoseconds ≤ b.nanoseconds))

/-- The span from `earlier` to `later`, both measured from one start. -/
def since (later earlier : Duration) : Duration :=
  ⟨later.nanoseconds - earlier.nanoseconds⟩

/-- A remainder as `places` digits behind a point, without trailing zeros; nothing for zero. -/
def fraction (places remainder : Nat) : List Char :=
  let digits := Text.decimal remainder
  let padded := List.replicate (places - digits.length) '0' ++ digits
  match (padded.reverse.dropWhile (· == '0')).reverse with
  | [] => []
  | kept => '.' :: kept

/-- A count of nanoseconds in a unit of `size` nanoseconds, which is a one and `places` zeros. -/
def inUnit (places size : Nat) (unit : String) (n : Nat) : String :=
  String.ofList (Text.decimal (n / size) ++ fraction places (n % size)) ++ unit

/-- The text of a span in its largest unit. -/
def text (d : Duration) : String :=
  let n := d.nanoseconds
  if 1000000000 ≤ n then inUnit 9 1000000000 "s" n
  else if 1000000 ≤ n then inUnit 6 1000000 "ms" n
  else if 1000 ≤ n then inUnit 3 1000 "µs" n
  else inUnit 0 1 "ns" n

end Duration

end SocketAttribution
