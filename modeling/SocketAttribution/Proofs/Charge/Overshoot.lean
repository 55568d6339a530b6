import SocketAttribution.Proofs.Charge.Gate
import SocketAttribution.Proofs.Charge.Interleaving
import Mathlib.Data.List.Perm.Subperm

/-!
# Bounded overshoot

Between the moment at which a request finds room and the moment at which its traffic is counted the
room may be found by others too. The limits are therefore overshot, but by no more than the number
of requests that are pending at once. What carries this through every interleaving is the number of
entries together with the number of admitted requests that may still add one.

## Main definitions

* `Meter`: all entries of a table or those of one user, which are bounded alike.
* `Desk.tally`, `Pool.waiting`: the entries that a meter counts, and the requests that may add one.
* `Pool.KeepsTo`, `Within`: the bound, and the invariant that carries it.

## Main statements

* `Within.step`: no step with few requests pending leads out of the invariant.
* `entries_le_of_reaches`: whatever few requests reach keeps within the limits and their number.
-/

namespace SocketAttribution

variable {Tables : Type} {t : Tagger Tables} {limits : QuotaLimits} {k : Nat} {p q : Pool}

/-! ## Meters -/

/-- What a limit is set on. -/
inductive Meter where
  /-- All entries of a table. -/
  | all
  /-- The entries of one user. -/
  | of (uid : UInt32)
  deriving DecidableEq, Repr

namespace Meter

/-- Whether a user's entries are counted. -/
def counts : Meter → UInt32 → Bool
  | .all, _ => true
  | .of uid, charged => charged = uid

/-- The limit that is set. -/
def limit (limits : QuotaLimits) : Meter → UInt32
  | .all => limits.total
  | .of _ => limits.perUid

end Meter

/-- How many entries of a statistics table a meter counts. -/
def Desk.tally (d : Desk) (view : CounterView) (m : Meter) : Nat :=
  (d.keys view).countP fun key => m.counts key.uid

@[simp] theorem Desk.tally_all (d : Desk) (view : CounterView) :
    d.tally view .all = (d.keys view).length :=
  congrFun List.countP_true _

@[simp] theorem Desk.tally_of (d : Desk) (view : CounterView) (uid : UInt32) :
    d.tally view (.of uid) = (d.keys view).countP (·.uid = uid) := rfl

/-- An entry with a new key is counted in its table. -/
theorem Desk.tally_put_same {d : Desk} {view : CounterView} {m : Meter} {key : StatsKey}
    {value : StatsValue} (fresh : key ∉ d.keys view) :
    (d.setStats ((d.stats view).put key (some value)) view).tally view m =
      d.tally view m + if m.counts key.uid then 1 else 0 := by
  have added : ((d.stats view).put key (some value)).table.entries.keys.Perm (key :: d.keys view) :=
    Entries.keys_put_perm fresh _ value
  rw [tally, keys, stats_setStats_same, added.countP_eq, List.countP_cons]
  rfl

/-- An entry of one table is not counted in the other. -/
theorem Desk.tally_put_other {d : Desk} {view other : CounterView} {m : Meter} {key : StatsKey}
    {value : StatsValue} (h : other ≠ view) :
    (d.setStats ((d.stats view).put key (some value)) view).tally other m = d.tally other m := by
  rw [tally, keys, stats_setStats_other _ _ h]
  rfl

/-- **Who is admitted has found every meter that counts him within its limit.** -/
theorem tally_le_of_admits {d : Desk} {view : CounterView} {uid : UInt32} {m : Meter}
    (countable : (d.keys view).length < UInt32.size)
    (admits : limits.Admits (.ofKeys uid (d.keys view))) (counts : m.counts uid = true) :
    d.tally view m ≤ (m.limit limits).toNat := by
  obtain ⟨total, perUid⟩ := admits
  cases m with
  | all =>
      rw [Desk.tally_all, ← Occupancy.total_ofKeys uid countable]
      exact UInt32.le_iff_toNat_le.1 total
  | of other =>
      have same : uid = other := of_decide_eq_true counts
      subst same
      rw [Desk.tally_of, ← Occupancy.perUid_ofKeys uid countable]
      exact UInt32.le_iff_toNat_le.1 perUid

/-! ## Requests that may still add an entry -/

/-- The request may still add an entry to a table that a meter counts. -/
def Flight.waitsFor (f : Flight) (view : CounterView) (m : Meter) : Bool :=
  f.walked = some view && !f.refused && f.request.charged?.any m.counts

/-- How many requests may still add an entry to a table that a meter counts. -/
def Pool.waiting (p : Pool) (view : CounterView) (m : Meter) : Nat :=
  p.flights.countP (·.waitsFor view m)

/-- Who may still add an entry is pending. -/
theorem Pool.waiting_le_pending (p : Pool) (view : CounterView) (m : Meter) :
    p.waiting view m ≤ p.pending := by
  refine List.countP_mono_left fun f _ waits => ?_
  simp only [Flight.waitsFor, Bool.and_eq_true, decide_eq_true_eq] at waits
  simp [Flight.pending, waits.1.1, waits.1.2]

namespace Flight

/-- What a request may still do: before its walk, only what is gated by the limits; behind it,
nothing to the statistics tables. -/
def Sound (limits : QuotaLimits) (f : Flight) : Prop :=
  match f.walked with
  | none => Gated (f.request.Passes limits) f.rest
  | some _ => KeepsOff f.rest

theorem sound_start (t : Tagger Tables) (request : Request) :
    (start t request).Sound t.limits := request.gated_work t

variable {f : Flight} {call : TagCall}
  {resume : call.Answer → TagProgram Unit}

/-- **The next call of a request** changes no statistics table. If it is the walk through one of
them, the request is refused behind it or has passed. -/
theorem Sound.next (sound : f.Sound limits) (asks : f.rest = .ask call resume) :
    (∀ answer, (f.behind call (resume answer)).Sound limits) ∧ (call.OnStats → call.Reads) ∧
      (call.walked? = none ∨ ∃ view, call.walked? = some view ∧
        ∀ d : Desk, (f.behind call (resume (d.ask call))).refused = true ∨
          f.request.Passes limits (d.keys view)) := by
  obtain ⟨request, walked, rest⟩ := f
  subst asks
  cases walked with
  | some view =>
      have off : KeepsOff (.ask call resume) := sound
      refine ⟨fun answer => ?_, fun on => absurd on off.1, .inl (TagCall.walked?_eq_none off.1)⟩
      rw [behind, TagCall.walked?_eq_none off.1]
      exact off.2 answer
  | none =>
      have gated : Gated (request.Passes limits) (.ask call resume) := sound
      cases gated with
      | ask off later =>
          refine ⟨fun answer => ?_, fun on => absurd on off, .inl (TagCall.walked?_eq_none off)⟩
          rw [behind, TagCall.walked?_eq_none off]
          exact later answer
      | @walk view resume gate off =>
          refine ⟨off, fun _ => trivial, .inr ⟨view, rfl, fun d => ?_⟩⟩
          rcases gate (d.ask (.stats view .scan)) with ⟨e, refused⟩ | ⟨keys, found, passes⟩
          · left
            rw [refused]
            rfl
          · right
            rw [← Desk.keys_of_walk found]
            exact passes

end Flight

/-! ## The other requests -/

section Others

variable {before after : List Flight} {f f' : Flight} {view : CounterView} {m : Meter}

/-- One request of a pool waits beside the others. -/
theorem Pool.waiting_of_here (here : p.flights = before ++ f :: after) :
    p.waiting view m =
      (before ++ after).countP (·.waitsFor view m) + if f.waitsFor view m then 1 else 0 := by
  rw [waiting, here, List.countP_append, List.countP_append, List.countP_cons, Nat.add_assoc]

/-- A request that goes on without beginning to wait. -/
theorem Pool.waiting_le_of_behind (here : p.flights = before ++ f :: after)
    (there : q.flights = before ++ f' :: after)
    (begins : f'.waitsFor view m = true → f.waitsFor view m = true) :
    q.waiting view m ≤ p.waiting view m := by
  rw [waiting_of_here here, waiting_of_here there]
  cases waits : f'.waitsFor view m with
  | false => simp
  | true => simp [begins waits]

end Others

/-! ## The invariant -/

/-- The entries that a meter counts, together with those that may still be added, are no more than
its limit and `k`. -/
def Pool.KeepsTo (limits : QuotaLimits) (k : Nat) (p : Pool) : Prop :=
  ∀ view m, p.desk.tally view m + p.waiting view m ≤ (m.limit limits).toNat + k

/-- Every request is sound, and the entries that a meter counts, together with those that may still
be added, are no more than its limit and `k`. -/
structure Within (t : Tagger Tables) (k : Nat) (p : Pool) : Prop where
  sound : ∀ f ∈ p.flights, f.Sound t.limits
  bounded : ∀ view m, p.desk.tally view m + p.waiting view m ≤ (m.limit t.limits).toNat + k

namespace Flight

variable {f : Flight} {call : TagCall} {view : CounterView} {m : Meter}
  {resume : call.Answer → TagProgram Unit} {rest : TagProgram Unit}

/-- Only behind its walk does a request wait that did not wait before. -/
theorem waitsFor_of_behind (asks : f.rest = .ask call resume) (off : call.walked? = none)
    (waits : (f.behind call rest).waitsFor view m = true) : f.waitsFor view m = true := by
  have going : f.refused = false := by rw [refused, asks]
  simp only [waitsFor, behind, off, Option.none_or, Bool.and_eq_true] at waits
  simp [waitsFor, going, waits.1.1, waits.2]

/-- A request that waits behind its walk has passed: its meters are within their limits. -/
theorem tally_le_of_waitsFor {d : Desk} {walked : CounterView}
    (countable : (d.keys walked).length < UInt32.size) (walks : call.walked? = some walked)
    (gate : (f.behind call rest).refused = true ∨ f.request.Passes limits (d.keys walked))
    (waits : (f.behind call rest).waitsFor view m = true) :
    d.tally view m ≤ (m.limit limits).toNat := by
  simp only [waitsFor, behind, walks, Option.some_or, Bool.and_eq_true, decide_eq_true_eq,
    Option.some.injEq, Bool.not_eq_true'] at waits
  obtain ⟨⟨rfl, going⟩, counted⟩ := waits
  rcases gate with refused | passes
  · exact absurd (going.symm.trans refused) Bool.false_ne_true
  cases request : f.request with
  | tag r =>
      rw [request] at passes counted
      exact tally_le_of_admits countable passes counted
  | untag socket =>
      rw [request] at counted
      exact absurd counted Bool.false_ne_true

end Flight

namespace Within

/-- Where no request is on its way, only the entries count. -/
theorem of_idle (idle : p.flights = [])
    (entries : ∀ view m, p.desk.tally view m ≤ (m.limit t.limits).toNat + k) : Within t k p where
  sound := by
    intro f mem
    rw [idle] at mem
    cases mem
  bounded := by
    intro view m
    have nobody : p.waiting view m = 0 := by rw [Pool.waiting, idle, List.countP_nil]
    rw [nobody]
    exact entries view m

/-- Without requests and without entries there is nothing to count. -/
theorem of_empty (idle : p.flights = []) (clean : ∀ view, p.desk.keys view = []) :
    Within t k p := by
  refine .of_idle idle fun view m => ?_
  rw [Desk.tally, clean view]
  exact Nat.zero_le _

/-- Whatever happens next, requests stay sound. -/
theorem sound_step (inv : Within t k p) (next : Step t p q) :
    ∀ f ∈ q.flights, f.Sound t.limits := by
  refine next.forall_flights (Flight.sound_start t) ?_ inv.sound
  intro f call resume _ sound asks
  obtain ⟨later, -, -⟩ := sound.next asks
  exact later (p.desk.ask call)

/-- A request that arrives has not walked through anything. -/
theorem arrive (inv : Within t k p) {request : Request} (desk : q.desk = p.desk)
    (there : q.flights = Flight.start t request :: p.flights) : q.KeepsTo t.limits k := by
  intro view m
  have waiting : q.waiting view m = p.waiting view m := by
    rw [Pool.waiting, there, List.countP_cons]
    rfl
  rw [desk, waiting]
  exact inv.bounded view m

/-- **A call of one request.** Unless it is a walk, it changes no count. A request that waits behind
its walk has found room, and then there are no more to wait than are pending. -/
theorem move (inv : Within t k p) (few : q.pending ≤ k) {before after : List Flight} {f : Flight}
    {call : TagCall} {resume : call.Answer → TagProgram Unit}
    (here : p.flights = before ++ f :: after) (asks : f.rest = .ask call resume)
    (desk : q.desk = (Desk.answer call p.desk).2)
    (there : q.flights = before ++ f.behind call (resume (p.desk.ask call)) :: after) :
    q.KeepsTo t.limits k := by
  obtain ⟨-, spares, next⟩ := (inv.sound f (mem_flights_self here)).next asks
  intro view m
  have tally : q.desk.tally view m = p.desk.tally view m := by
    rw [desk, Desk.tally, Desk.keys, Desk.stats_answer spares]
    rfl
  have held := inv.bounded view m
  rw [tally]
  -- The sum of entries and waiting requests may grow only where a request begins to wait. There the
  -- entries alone are within the limit, and whoever waits is one of at most `k` that are pending.
  rcases next with off | ⟨walked, walks, gate⟩
  · have waiting : q.waiting view m ≤ p.waiting view m :=
      Pool.waiting_le_of_behind here there (Flight.waitsFor_of_behind asks off)
    omega
  cases waits : (f.behind call (resume (p.desk.ask call))).waitsFor view m with
  | false =>
      have waiting : q.waiting view m ≤ p.waiting view m :=
        Pool.waiting_le_of_behind here there fun now => absurd (waits.symm.trans now) (by decide)
      omega
  | true =>
      have room := Flight.tally_le_of_waitsFor (p.countable walked) walks (gate p.desk) waits
      have waiting := q.waiting_le_pending view m
      omega

theorem leave (inv : Within t k p) {before after : List Flight} {f : Flight}
    (here : p.flights = before ++ f :: after) (desk : q.desk = p.desk)
    (there : q.flights = before ++ after) : q.KeepsTo t.limits k := by
  intro view m
  have held := inv.bounded view m
  rw [Pool.waiting_of_here here] at held
  rw [desk, Pool.waiting, there]
  omega

/-- **The entry of an admitted request** takes the place that was kept for it. -/
theorem count (inv : Within t k p) {before after : List Flight} {f : Flight} {r : TagRequest}
    {view : CounterView} {key : StatsKey} {value : StatsValue}
    (here : p.flights = before ++ f :: after) (ended : f.rest = .done (.ok ()))
    (charges : f.request = .tag r) (walked : f.walked = some view)
    (fresh : key ∉ p.desk.keys view) (own : key.uid = r.chargeUid)
    (desk : q.desk = p.desk.setStats ((p.desk.stats view).put key (some value)) view)
    (there : q.flights = before ++ after) : q.KeepsTo t.limits k := by
  intro other m
  have held := inv.bounded other m
  rw [Pool.waiting_of_here here] at held
  rw [desk, Pool.waiting, there]
  -- In its own table the entry comes and the request that waited for it goes; the other table does
  -- not see it.
  by_cases same : other = view
  · subst same
    have kept : f.waitsFor other m = m.counts key.uid := by
      simp [Flight.waitsFor, Flight.refused, walked, ended, charges, Request.charged?, own]
    rw [kept] at held
    rw [Desk.tally_put_same fresh]
    omega
  · rw [Desk.tally_put_other same]
    omega

/-- Whoever makes no entry raises no count. -/
theorem outside (inv : Within t k p) (fewer : ∀ view, q.desk.keys view ⊆ p.desk.keys view)
    (there : q.flights = p.flights) : q.KeepsTo t.limits k := by
  intro view m
  have tally : q.desk.tally view m ≤ p.desk.tally view m :=
    (List.subperm_of_subset (q.desk.nodup_keys view) (fewer view)).countP_le _
  have held := inv.bounded view m
  rw [Pool.waiting, there]
  exact Nat.le_trans (Nat.add_le_add_right tally _) held

/-- **No step behind which few requests are pending leads out of the invariant.** -/
theorem step (inv : Within t k p) (next : Step t p q) (few : q.pending ≤ k) : Within t k q where
  sound := inv.sound_step next
  bounded := by
    cases next with
    | arrive request desk there => exact inv.arrive desk there
    | move here asks desk there => exact inv.move few here asks desk there
    | leave here ended desk there => exact inv.leave here desk there
    | count here ended charges walked fresh own desk there =>
        exact inv.count here ended charges walked fresh own desk there
    | outside fewer there => exact inv.outside fewer there

/-- The invariant holds along every run. -/
theorem reaches (inv : Within t k p) (run : Reaches t k p q) : Within t k q := by
  induction run with
  | refl => exact inv
  | tail _ next ih => exact ih.step next.1 next.2

end Within

/-! ## The bound -/

/-- **Bounded overshoot.** Where no request is on its way and the entries of both tables, in all and
of every user, are no more than the limits and `k`, they never become more, whatever requests arrive
and however their calls, their traffic and the doings of others follow one another, as long as at
most `k` requests are pending at once. -/
theorem entries_le_of_reaches (idle : p.flights = [])
    (total : ∀ view, (p.desk.keys view).length ≤ t.limits.total.toNat + k)
    (perUid : ∀ view uid, (p.desk.keys view).countP (·.uid = uid) ≤ t.limits.perUid.toNat + k)
    (run : Reaches t k p q) :
    (∀ view, (q.desk.keys view).length ≤ t.limits.total.toNat + k) ∧
      ∀ view uid, (q.desk.keys view).countP (·.uid = uid) ≤ t.limits.perUid.toNat + k := by
  have start : Within t k p := by
    refine .of_idle idle fun view m => ?_
    cases m with
    | all =>
        rw [Desk.tally_all]
        exact total view
    | of uid => exact perUid view uid
  have inv := start.reaches run
  constructor
  · intro view
    have held := inv.bounded view .all
    rw [Desk.tally_all] at held
    exact Nat.le_trans (Nat.le_add_right _ _) held
  · intro view uid
    exact Nat.le_trans (Nat.le_add_right _ _) (inv.bounded view (.of uid))

/-- The bound is met: with limits of zero one request is admitted, and its entry goes over them. -/
theorem entries_le_of_reaches_attained : ∃ p q : Pool, p.flights = [] ∧
    Reaches (Tagger.mk (some ()) ⟨0, 0⟩) 1 p q ∧ (q.desk.keys .a).length = 1 ∧
      ((∀ view, (q.desk.keys view).length ≤ (0 : UInt32).toNat + 1) ∧
        ∀ view uid, (q.desk.keys view).countP (·.uid = uid) ≤ (0 : UInt32).toNat + 1) := by
  let t : Tagger Unit := ⟨some (), ⟨0, 0⟩⟩
  let own : TagRequest := ⟨3, 5, 10000, 10000⟩
  let key : StatsKey := ⟨10000, 5, 0, 0⟩
  let p : Pool := ⟨Desk.small, [], fun view => by cases view <;> decide⟩
  obtain ⟨mid, run, desk, lone⟩ := Reaches.alone (t := t) (p := p) (.tag own) (Nat.le_refl 1) rfl
  have clean : ∀ view, mid.desk.keys view = [] := by
    intro view
    rw [desk]
    cases view <;> rfl
  have fresh : key ∉ mid.desk.keys .a := by rw [clean]; exact List.not_mem_nil
  let last : Desk := mid.desk.setStats ((mid.desk.stats .a).put key (some .zero)) .a
  have first : (last.keys .a).length = 1 := by
    rw [← Desk.tally_all, Desk.tally_put_same fresh, Desk.tally_all, clean]
    rfl
  have second : (last.keys .b).length = 0 := by
    rw [← Desk.tally_all, Desk.tally_put_other (by decide), Desk.tally_all, clean]
    rfl
  let q : Pool := ⟨last, [], fun view => by
    cases view <;> simp [first, second, UInt32.size]⟩
  have counted : Step t mid q :=
    .count (show mid.flights = [] ++ _ :: [] from lone) rfl rfl rfl fresh rfl rfl rfl
  have reached : Reaches t 1 p q := .tail run ⟨counted, Nat.zero_le 1⟩
  refine ⟨p, q, rfl, reached, first, entries_le_of_reaches rfl ?_ ?_ reached⟩
  · intro view
    cases view <;> exact Nat.zero_le _
  · intro view uid
    cases view <;> exact Nat.zero_le _

end SocketAttribution
