import SocketAttribution.Startup.Call

/-!
# Waiting for the loader

The loader leaves a marker once everything is pinned. The agent looks for it again and again until
it is there or the time is over.

## Main definitions

* `awaitMarker`: the wait, with a bound on the number of looks.
* `awaitLoader`: the wait with a bound that a moving clock never reaches.

## Design notes

At each look the marker counts before the clock, so a marker that is there at the first look is
enough even without any time to wait. A wait without an end to its time, or whose clock stands
still, need not end by itself. The bound on the number of looks ends it, with an outcome of its own,
so that it is never taken for time that has run out.
-/

namespace SocketAttribution

variable {Prog Dir Handle : Type}

/-- The name of the loader's marker. -/
def markerName : String := "loader_done"

/-- The marker below a pin root. -/
def Layout.marker (layout : Layout) : Path := layout.pinRoot.join markerName

/-- How long the agent sleeps between two looks. -/
def pollInterval : Duration := .ofMillis 100

/-- How long the agent waits without a word. -/
def noticeInterval : Duration := .ofSeconds 5

/-- Whether a wait of some length is over. -/
def TimeIsUp (timeout : Option Duration) (elapsed : Duration) : Prop :=
  ∃ limit ∈ timeout, limit ≤ elapsed

instance (timeout : Option Duration) (elapsed : Duration) : Decidable (TimeIsUp timeout elapsed) :=
  decidableExistsMemOption _ _

/-- The failure of a wait. -/
def loaderMissing (marker : Path) (elapsed : Duration) : InitError :=
  .configuration (.loaderMissing elapsed marker)

/-- Looks for the marker up to `patience` more times; `noticed` is when the wait was last spoken
of. -/
def awaitMarker (marker : Path) (timeout : Option Duration) :
    (patience : Nat) → (noticed : Duration) →
    Dialogue (StartupCall Prog Dir Handle) StartupCall.Answer (Except InitError Unit)
  | 0, _ => .done (.error (.abandoned marker))
  | patience + 1, noticed =>
    .ask (.poll marker) fun sighting =>
      if sighting.seen then .log ⟨.startup, .info, "BPF programs are loaded"⟩ (.done (.ok ()))
      else if TimeIsUp timeout sighting.elapsed then
        .done (.error (loaderMissing marker sighting.elapsed))
      else if noticeInterval ≤ sighting.elapsed.since noticed then
        .log ⟨.startup, .warn,
          s!"still waiting for {marker.text} after {sighting.elapsed.text}"⟩
          (awaitMarker marker timeout patience sighting.elapsed)
      else awaitMarker marker timeout patience noticed

/-- How many looks there may be: one for each interval of the time to wait and two more, which is
never too few for a clock that moves by an interval between looks. Without an end to the time there
may be more than anybody can take. -/
def patienceFor : Option Duration → Nat
  | some limit => limit.nanoseconds / pollInterval.nanoseconds + 2
  | none => UInt64.size

/-- Waits for the loader. -/
def awaitLoader (layout : Layout) (timeout : Option Duration) :
    StartupAttempt Prog Dir Handle Unit :=
  ExceptT.mk (awaitMarker layout.marker timeout (patienceFor timeout) ⟨0⟩)

end SocketAttribution
