import SocketAttribution.Proofs.Charge.Gate
import Mathlib.Logic.Relation

/-!
# Requests on their way together

Any number of requests share the tables. Each is a row of calls, a call happens at one moment, and
between two calls of a request anything may happen that others do. This module says what a state of
such a system is and what can happen next.

## Main definitions

* `Flight`: a request on its way, as what remains of its muted program.
* `Pool`: the desk and the requests on their way.
* `Step`: what happens next: a request arrives, makes its next call, leaves without traffic, leaves
  behind an entry of its traffic, or others change the desk.
* `Reaches`: what can happen as long as few requests are pending.
* `ReachesSparingStats`: what can happen while the statistics tables stay as they are.

## Main statements

* `Reaches.alone`: a request that is alone in the pool does what its program does by itself.

## Design notes

A request stays in the pool until its traffic was counted or is known not to be, which may be long
after its caller has his answer. In this way the pool holds every request that may still make an
entry.
-/

namespace SocketAttribution

open Relation (ReflTransGen)

variable {Tables : Type}

/-! ## Requests on their way -/

/-- The statistics table that a call walks through. -/
def TagCall.walked? : TagCall → Option CounterView
  | .stats view .scan => some view
  | _ => none

theorem TagCall.walked?_eq_none {call : TagCall} (off : ¬ call.OnStats) : call.walked? = none := by
  cases call with
  | stats view call => exact absurd trivial off
  | configuration call => rfl
  | permissions call => rfl
  | cookieTags call => rfl
  | socket query => rfl

/-- A request on its way. -/
structure Flight where
  request : Request
  /-- The statistics table that it walked through, once it has. -/
  walked : Option CounterView
  /-- What remains to be done. -/
  rest : TagProgram Unit

namespace Flight

/-- A request that has not made a call yet. -/
def start (t : Tagger Tables) (request : Request) : Flight :=
  ⟨request, none, (request.work t).run.muted⟩

/-- The request behind a call, with what remains after the answer. -/
def behind (f : Flight) (call : TagCall) (rest : TagProgram Unit) : Flight :=
  ⟨f.request, call.walked?.or f.walked, rest⟩

/-- The request was refused. -/
def refused (f : Flight) : Bool :=
  match f.rest with
  | .done (.error _) => true
  | _ => false

/-- The request is between its walk through a statistics table and the entry that it may make. -/
def pending (f : Flight) : Bool := f.walked.isSome && !f.refused

end Flight

/-! ## Pools -/

/-- A desk and the requests on their way. -/
structure Pool where
  desk : Desk
  flights : List Flight
  /-- The room of a kernel table is a 32-bit number. -/
  countable : ∀ view, (desk.keys view).length < UInt32.size

/-- How many requests are pending. -/
def Pool.pending (p : Pool) : Nat := p.flights.countP Flight.pending

variable {t : Tagger Tables} {k : Nat} {p q : Pool}

/-- What can happen next. -/
inductive Step (t : Tagger Tables) (p q : Pool) : Prop where
  /-- A request arrives. -/
  | arrive (request : Request) (desk : q.desk = p.desk)
      (there : q.flights = Flight.start t request :: p.flights)
  /-- A request makes its next call. -/
  | move {before after : List Flight} {f : Flight} {call : TagCall}
      {resume : call.Answer → TagProgram Unit} (here : p.flights = before ++ f :: after)
      (asks : f.rest = .ask call resume) (desk : q.desk = (Desk.answer call p.desk).2)
      (there : q.flights = before ++ f.behind call (resume (p.desk.ask call)) :: after)
  /-- A request that is over leaves, and its traffic makes no entry any more. -/
  | leave {before after : List Flight} {f : Flight} {result : Except TagError Unit}
      (here : p.flights = before ++ f :: after) (ended : f.rest = .done result)
      (desk : q.desk = p.desk) (there : q.flights = before ++ after)
  /-- The traffic of an admitted request makes its entry, in the table that the request had walked
  through. -/
  | count {before after : List Flight} {f : Flight} {r : TagRequest} {view : CounterView}
      {key : StatsKey} {value : StatsValue} (here : p.flights = before ++ f :: after)
      (ended : f.rest = .done (.ok ())) (charges : f.request = .tag r)
      (walked : f.walked = some view) (fresh : key ∉ p.desk.keys view)
      (own : key.uid = r.chargeUid)
      (desk : q.desk = p.desk.setStats ((p.desk.stats view).put key (some value)) view)
      (there : q.flights = before ++ after)
  /-- Others switch the live table, remove entries, or change whatever else they like, except that
  they make no entry. -/
  | outside (fewer : ∀ view, q.desk.keys view ⊆ p.desk.keys view) (there : q.flights = p.flights)

/-! ## The requests behind a step -/

section Others

variable {before after : List Flight} {f : Flight}

theorem mem_flights_of_mem_others (here : p.flights = before ++ f :: after) {g : Flight}
    (mem : g ∈ before ++ after) : g ∈ p.flights := by
  rw [here]
  rcases List.mem_append.1 mem with mem | mem
  · exact List.mem_append_left _ mem
  · exact List.mem_append_right _ (List.mem_cons_of_mem _ mem)

theorem mem_flights_self (here : p.flights = before ++ f :: after) : f ∈ p.flights := by
  rw [here]
  exact List.mem_append_right _ List.mem_cons_self

end Others

/-- **What holds of every request on its way** when it arrives, and still when its next call is
answered, holds of all of them behind a step. -/
theorem Step.forall_flights {P : Flight → Prop} (next : Step t p q)
    (arrives : ∀ request, P (Flight.start t request))
    (moves : ∀ f (call : TagCall) (resume : call.Answer → TagProgram Unit), f ∈ p.flights → P f →
      f.rest = .ask call resume → P (f.behind call (resume (p.desk.ask call))))
    (held : ∀ f ∈ p.flights, P f) : ∀ f ∈ q.flights, P f := by
  intro g mem
  cases next with
  | arrive request desk there =>
      rw [there] at mem
      rcases List.mem_cons.1 mem with rfl | mem
      · exact arrives request
      · exact held g mem
  | @move before after f call resume here asks desk there =>
      have self : f ∈ p.flights := mem_flights_self here
      rw [there] at mem
      rcases List.mem_append.1 mem with mem | mem
      · exact held g (mem_flights_of_mem_others here (List.mem_append_left _ mem))
      rcases List.mem_cons.1 mem with rfl | mem
      · exact moves f call resume self (held f self) asks
      · exact held g (mem_flights_of_mem_others here (List.mem_append_right _ mem))
  | leave here ended desk there =>
      rw [there] at mem
      exact held g (mem_flights_of_mem_others here mem)
  | count here ended charges walked fresh own desk there =>
      rw [there] at mem
      exact held g (mem_flights_of_mem_others here mem)
  | outside fewer there =>
      rw [there] at mem
      exact held g mem

/-! ## Runs -/

/-- What can happen step after step, with at most `k` requests pending at every moment. -/
def Reaches (t : Tagger Tables) (k : Nat) : Pool → Pool → Prop :=
  ReflTransGen fun p q => Step t p q ∧ q.pending ≤ k

/-- What can happen step after step while the statistics tables stay as they are. -/
def ReachesSparingStats (t : Tagger Tables) (k : Nat) : Pool → Pool → Prop :=
  ReflTransGen fun p q => (Step t p q ∧ q.pending ≤ k) ∧
    ∀ view, q.desk.stats view = p.desk.stats view

theorem ReachesSparingStats.reaches (run : ReachesSparingStats t k p q) : Reaches t k p q :=
  ReflTransGen.mono (fun _ _ next => next.1) p q run

/-- A flight whose calls only read the statistics tables, alone in the pool. -/
theorem ReachesSparingStats.flown {d : TagProgram Unit}
    (spares : d.Asks fun call => call.OnStats → call.Reads) (few : 1 ≤ k) {request : Request}
    {walked : Option CounterView} (here : p.flights = [⟨request, walked, d.muted⟩]) :
    ∃ q, ReachesSparingStats t k p q ∧ q.desk = (d.run Desk.answer p.desk).state ∧
      q.flights = [⟨request,
        (d.run Desk.answer p.desk).calls.foldl (fun walked call => call.walked?.or walked) walked,
        .done (d.run Desk.answer p.desk).value⟩] := by
  -- A log line is no step: only the muted program is on its way.
  induction d generalizing p walked with
  | done value => exact ⟨p, .refl, rfl, here⟩
  | log line rest ih => exact ih spares here
  | ask call resume ih =>
      have spared : ∀ view, (Desk.answer call p.desk).2.stats view = p.desk.stats view :=
        Desk.stats_answer spares.1 p.desk
      have countable : ∀ view, ((Desk.answer call p.desk).2.keys view).length < UInt32.size := by
        intro view
        rw [Desk.keys, spared]
        exact p.countable view
      let next : Pool := ⟨(Desk.answer call p.desk).2,
        [⟨request, call.walked?.or walked, (resume (p.desk.ask call)).muted⟩], countable⟩
      obtain ⟨q, run, desk, flights⟩ := ih (p.desk.ask call) (spares.2 _) (p := next) rfl
      have lone : p.flights = [] ++ ⟨request, walked, .ask call fun a => (resume a).muted⟩ :: [] :=
        here
      have moved : Step t p next := .move lone rfl rfl rfl
      have pending : next.pending ≤ k := Nat.le_trans List.countP_le_length few
      exact ⟨q, .head ⟨⟨moved, pending⟩, spared⟩ run, desk, flights⟩

/-- A request that is alone in the pool changes no statistics table. -/
theorem ReachesSparingStats.alone (request : Request) (few : 1 ≤ k) (idle : p.flights = []) :
    ∃ q, ReachesSparingStats t k p q ∧
      q.desk = ((request.work t).run.run Desk.answer p.desk).state ∧
      q.flights = [⟨request,
        ((request.work t).run.run Desk.answer p.desk).calls.foldl
          (fun walked call => call.walked?.or walked) none,
        .done ((request.work t).run.run Desk.answer p.desk).value⟩] := by
  let begun : Pool := ⟨p.desk, [Flight.start t request], p.countable⟩
  have arrived : Step t p begun := .arrive request rfl (by rw [idle])
  have pending : begun.pending ≤ k := Nat.zero_le k
  obtain ⟨q, run, desk, flights⟩ :=
    ReachesSparingStats.flown (request.spares_work t) few (p := begun) rfl
  exact ⟨q, .head ⟨⟨arrived, pending⟩, fun _ => rfl⟩ run, desk, flights⟩

/-- **A request that is alone in the pool does what its program does by itself.** -/
theorem Reaches.alone (request : Request) (few : 1 ≤ k) (idle : p.flights = []) :
    ∃ q, Reaches t k p q ∧ q.desk = ((request.work t).run.run Desk.answer p.desk).state ∧
      q.flights = [⟨request,
        ((request.work t).run.run Desk.answer p.desk).calls.foldl
          (fun walked call => call.walked?.or walked) none,
        .done ((request.work t).run.run Desk.answer p.desk).value⟩] := by
  obtain ⟨q, run, left⟩ := ReachesSparingStats.alone request few idle
  exact ⟨q, run.reaches, left⟩

end SocketAttribution
