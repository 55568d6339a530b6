import SocketAttribution.Proofs.Dialogue.Muted
import SocketAttribution.Proofs.Startup.Deadline
import SocketAttribution.Proofs.Startup.Steps

/-!
# All or nothing

Startup ends with a tagger that serves requests, or with an error and none. Whoever answers its
calls, and out of whatever state, it succeeds exactly if all of its steps are done, and its error is
that of the first step to fail. Behind a stage that fails nothing of a later one is asked, and
whoever has a tagger without tables is refused by it. With a moving clock and an end to the time to
wait, the bound on the looks at the loader's marker is never what ends startup.

## Main definitions

* `startupRun`, `loaderRun`, `programsRun`: the run of startup and those of its first two stages.
* `AllOrNothing`: what holds of a run of startup.
* `RefusesAll`: what holds of a tagger that serves nobody.

## Main statements

* `initialise_allOrNothing`: **every run of startup is all or nothing**, and a tagger without tables
  refuses all requests.
-/

namespace SocketAttribution

variable {Prog Dir Handle σ τ : Type}

/-! ## Runs of startup -/

section Stages

variable (answer : (c : StartupCall Prog Dir Handle) → σ → c.Answer × σ) (state : σ)
  (facts : PlatformFacts) (options : InitOptions)

/-- The run of startup. -/
def startupRun : Transcript (StartupCall Prog Dir Handle) σ
    (Except InitError (Tagger (Tables Handle))) :=
  (initialise facts options).run.run answer state

/-- The run of its first stage, the wait for the loader. -/
def loaderRun : Transcript (StartupCall Prog Dir Handle) σ (Except InitError Unit) :=
  (awaitLoader options.layout options.loaderTimeout).run.run answer state

/-- The run of its second stage, the negotiation of hooks, from where the wait ended. -/
def programsRun : Transcript (StartupCall Prog Dir Handle) σ (Except InitError Unit) :=
  (initPrograms options.layout facts).run.run answer (loaderRun answer state options).state

/-- What holds of a run of startup. -/
structure AllOrNothing : Prop where
  /-- Startup succeeds if and only if each of its steps is done. -/
  ok_iff : (∃ tagger, (startupRun answer state facts options).value = .ok tagger) ↔
    ∃ directory parts, (initialise facts options).run.exchanges answer state = parts.flatten ∧
      List.Forall₂ (StartupStep.Done facts options directory) (startupSteps facts) parts
  /-- It fails with the error of the first step to fail. -/
  error_iff : ∀ e, (startupRun answer state facts options).value = .error e ↔
    ∃ directory before step after parts said, startupSteps facts = before ++ step :: after ∧
      (initialise facts options).run.exchanges answer state = parts.flatten ++ said ∧
      List.Forall₂ (StartupStep.Done facts options directory) before parts ∧
      step.Fails facts options directory said e
  /-- With an end to the time to wait and a moving clock, it is never given up, so no bound on the
  looks at the marker has a part in it. -/
  kept : ∀ limit states sightings, options.loaderTimeout = some limit → states 0 = state →
    Shows answer options.layout.marker states sightings → Paced sightings →
    ∀ marker, (startupRun answer state facts options).value ≠ .error (.abandoned marker)
  /-- Where the wait for the loader fails, nothing is asked but whether its marker is there. -/
  unloaded : ∀ e, (loaderRun answer state options).value = .error e →
    (startupRun answer state facts options).value = .error e ∧
      ∀ call ∈ (startupRun answer state facts options).calls, call = .poll options.layout.marker
  /-- Where the negotiation of hooks fails, no map is opened. -/
  unattached : ∀ e, (loaderRun answer state options).value = .ok () →
    (programsRun answer state facts options).value = .error e →
    (startupRun answer state facts options).value = .error e ∧
      ∀ call ∈ (startupRun answer state facts options).calls, ∀ pin, call ≠ .pin pin
  /-- The tagger works on the maps that were opened, each from its own pin. -/
  ready : ∀ tagger, (startupRun answer state facts options).value = .ok tagger →
    ∃ tables, tagger = (Tagger.closed options.limits).withTables tables ∧
      ∀ slot, ∃ said, SlotOpening options.layout slot said (.ok (tables.slot slot)) ∧
        ∀ exchange ∈ said, exchange ∈ (initialise facts options).run.exchanges answer state

variable {answer state facts options}

/-! ## Nothing behind a stage that fails -/

theorem calls_loaderRun : ∀ call ∈ (loaderRun answer state options).calls,
    call = .poll options.layout.marker :=
  calls_awaitMarker answer state

/-- A negotiation opens no map. -/
theorem Negotiation.unpinned {layout : Layout} {talk : List (StartupExchange Prog Dir Handle)}
    {outcome : Except InitError Unit} (run : Negotiation layout facts talk outcome) :
    ∀ exchange ∈ talk, ∀ pin, exchange.1 ≠ .pin pin := by
  intro exchange mem pin same
  cases run with
  | refused refusal verdict => cases mem
  | unnamed plan verdict unnamed => cases mem
  | unopened plan verdict path named source =>
      cases List.mem_singleton.1 mem
      cases same
  | carriedOut plan verdict path named directory said outcome execution =>
      rcases List.mem_cons.1 mem with rfl | mem
      · cases same
      · obtain ⟨own, -, rfl⟩ := List.mem_map.1 mem
        cases same

theorem calls_programsRun : ∀ call ∈ (programsRun answer state facts options).calls,
    ∀ pin, call ≠ .pin pin := by
  intro call mem pin
  rw [programsRun, ← Dialogue.map_fst_exchanges] at mem
  obtain ⟨exchange, said, rfl⟩ := List.mem_map.1 mem
  exact (initPrograms_yields (Dialogue.yields_exchanges ..)).unpinned exchange said pin

/-- Behind a wait that fails there is nothing. -/
theorem startupRun_of_loader_error {e : InitError}
    (failed : (loaderRun answer state options).value = .error e) :
    startupRun answer state facts options =
      { loaderRun answer state options with value := .error e } :=
  Attempt.run_bind_of_error failed

/-- Behind a negotiation that fails there is nothing. -/
theorem startupRun_of_programs_error {e : InitError}
    (waited : (loaderRun answer state options).value = .ok ())
    (failed : (programsRun answer state facts options).value = .error e) :
    startupRun answer state facts options =
      (loaderRun answer state options).followedBy
        { programsRun answer state facts options with value := .error e } := by
  rw [startupRun, initialise, Attempt.run_bind_of_ok waited]
  exact congrArg (Transcript.followedBy _) (Attempt.run_bind_of_error failed)

/-! ## The steps of a run -/

theorem startupRun_ok_iff : (∃ tagger, (startupRun answer state facts options).value = .ok tagger) ↔
    ∃ directory parts, (initialise facts options).run.exchanges answer state = parts.flatten ∧
      List.Forall₂ (StartupStep.Done facts options directory) (startupSteps facts) parts := by
  have yields := Dialogue.yields_exchanges answer (initialise facts options).run state
  constructor
  · rintro ⟨tagger, succeeded⟩
    obtain ⟨directory, course⟩ := initialise_yields yields
    have ends : ending (startupRun answer state facts options).value = .ok () :=
      ending_eq_ok_iff.2 ⟨tagger, succeeded⟩
    obtain ⟨parts, whole, all⟩ := Course.ok_iff.1 (ends ▸ course)
    exact ⟨directory, parts, whole, all⟩
  · rintro ⟨directory, parts, whole, all⟩
    obtain ⟨outcome, taken, ends⟩ :=
      exists_initialise_yields (Course.ok_iff.2 ⟨parts, whole, all⟩)
    rw [startupRun, yields.unique taken]
    exact ending_eq_ok_iff.1 ends

theorem startupRun_error_iff {e : InitError} :
    (startupRun answer state facts options).value = .error e ↔
      ∃ directory before step after parts said, startupSteps facts = before ++ step :: after ∧
        (initialise facts options).run.exchanges answer state = parts.flatten ++ said ∧
        List.Forall₂ (StartupStep.Done facts options directory) before parts ∧
        step.Fails facts options directory said e := by
  have yields := Dialogue.yields_exchanges answer (initialise facts options).run state
  constructor
  · intro failed
    obtain ⟨directory, course⟩ := initialise_yields yields
    have ends : ending (startupRun answer state facts options).value = .error e :=
      ending_eq_error_iff.2 failed
    exact ⟨directory, Course.error_iff.1 (ends ▸ course)⟩
  · rintro ⟨directory, first⟩
    obtain ⟨outcome, taken, ends⟩ := exists_initialise_yields (Course.error_iff.2 first)
    rw [startupRun, yields.unique taken]
    exact ending_eq_error_iff.1 ends

/-! ## A run is not given up -/

/-- **Only the wait for the loader can be given up**, and that is the first step. -/
theorem StartupStep.Fails.of_abandoned {directory : Option Dir} {before after : List StartupStep}
    {step : StartupStep} {said : List (StartupExchange Prog Dir Handle)} {marker : Path}
    (order : startupSteps facts = before ++ step :: after)
    (fails : step.Fails facts options directory said (.abandoned marker)) :
    before = [] ∧ marker = options.layout.marker ∧
      ∃ looks, said = looks.map (Sighting.exchange marker) ∧
        LoaderWait marker options.loaderTimeout (patienceFor options.loaderTimeout) looks
          (.error (.abandoned marker)) := by
  cases fails with
  | openMap slot said e opening => cases opening
  | awaitLoader looks e wait =>
      have first : before = [] := by
        rw [startupSteps] at order
        obtain ⟨first, -⟩ | ⟨earlier, rfl, later⟩ := List.cons_eq_append_iff.1 order
        · exact first
        · have again : StartupStep.awaitLoader ∈ programSteps facts ++ Slot.all.map .openMap := by
            rw [later]
            exact List.mem_append_cons_self
          simp [programSteps] at again
      cases wait with
      | abandoned looks waiting all =>
          exact ⟨first, rfl, looks, rfl, .abandoned looks waiting all⟩

/-- With an end to the time to wait and a moving clock, startup is never given up. -/
theorem startupRun_kept {limit : Duration} {states : ℕ → σ} {sightings : ℕ → Sighting}
    (timed : options.loaderTimeout = some limit)
    (shows : Shows answer options.layout.marker states sightings) (paced : Paced sightings)
    (marker : Path) :
    (startupRun answer (states 0) facts options).value ≠ .error (.abandoned marker) := by
  intro given_up
  obtain ⟨directory, before, step, after, parts, said, order, whole, done, fails⟩ :=
    startupRun_error_iff.1 given_up
  obtain ⟨rfl, rfl, looks, rfl, wait⟩ := fails.of_abandoned order
  cases done
  -- All that was said are the looks of the wait, and they are what the surroundings show.
  have answered := Dialogue.answered_exchanges answer (initialise facts options).run (states 0)
  rw [whole] at answered
  have ends := waitEnd_of_answered shows answered wait
  rw [timed] at ends
  exact ends.kept paced rfl

/-! ## The tagger of a run -/

theorem startupRun_ready {tagger : Tagger (Tables Handle)}
    (succeeded : (startupRun answer state facts options).value = .ok tagger) :
    ∃ tables, tagger = (Tagger.closed options.limits).withTables tables ∧
      ∀ slot, ∃ said, SlotOpening options.layout slot said (.ok (tables.slot slot)) ∧
        ∀ exchange ∈ said, exchange ∈ (initialise facts options).run.exchanges answer state := by
  have yields := Dialogue.yields_exchanges answer (initialise facts options).run state
  rw [startupRun] at succeeded
  rw [succeeded] at yields
  generalize (initialise facts options).run.exchanges answer state = talk at yields ⊢
  obtain ⟨_, front, _, rfl, -, yields⟩ := Attempt.bind_ok_of_yields yields
  obtain ⟨_, middle, _, rfl, -, yields⟩ := Attempt.bind_ok_of_yields yields
  obtain ⟨tables, back, _, rfl, opened, rfl, same⟩ := Attempt.bind_ok_of_yields yields
  cases same
  refine ⟨tables, rfl, fun slot => ?_⟩
  obtain ⟨said, opening, within⟩ := slotOpening_of_openTables opened slot
  refine ⟨said, opening, fun exchange mem => ?_⟩
  simp [within exchange mem]

end Stages

/-! ## Taggers without tables -/

/-- What holds of a tagger that serves nobody. -/
structure RefusesAll {Tables : Type} (t : Tagger Tables)
    (answer : (c : TagCall) → τ → c.Answer × τ) (state : τ) : Prop where
  /-- Nobody may charge a socket, and neither a table nor the socket is asked for anything. -/
  tag : ∀ r, (t.tagSocket r).run.run answer state = ⟨.error .permissionDenied, state, [], []⟩ ∧
    statusOf ((t.tagSocket r).run.run answer state).value = -ErrorCode.notPermitted
  /-- No charge is removed, and nothing is asked but the cookie of the socket. -/
  untag : ∀ socket, (∃ e, ((t.untagSocket socket).run.run answer state).value = .error e) ∧
    ((t.untagSocket socket).run.run answer state).calls = [.socket (.cookie socket)]

/-- A tagger whose tables are not open serves nobody, whoever answers its calls. -/
theorem Tagger.refusesAll_closed {Tables : Type} (limits : QuotaLimits)
    (answer : (c : TagCall) → τ → c.Answer × τ) (state : τ) :
    RefusesAll (Tagger.closed limits : Tagger Tables) answer state where
  tag r := ⟨rfl, rfl⟩
  untag socket := by
    rw [Tagger.untagSocket]
    cases told : ((readCookie socket).run.run answer state).value with
    | error e =>
        rw [Attempt.run_bind_of_error told]
        exact ⟨⟨e, rfl⟩, rfl⟩
    | ok cookie =>
        rw [Attempt.run_bind_of_ok told]
        exact ⟨⟨.permissionDenied, rfl⟩, rfl⟩

/-- **Every run of startup is all or nothing**, whatever the facts, the options and whoever answers
its calls, and a tagger without tables refuses all requests. -/
theorem initialise_allOrNothing (answer : (c : StartupCall Prog Dir Handle) → σ → c.Answer × σ)
    (state : σ) (facts : PlatformFacts) (options : InitOptions) :
    AllOrNothing answer state facts options ∧
      ∀ (limits : QuotaLimits) (τ : Type) (desk : (c : TagCall) → τ → c.Answer × τ) (d : τ),
        RefusesAll (Tagger.closed limits : Tagger (Tables Handle)) desk d := by
  refine ⟨⟨startupRun_ok_iff, fun _ => startupRun_error_iff, ?_, ?_, ?_, fun _ => startupRun_ready⟩,
    ?_⟩
  · rintro limit states sightings timed rfl shows paced
    exact startupRun_kept timed shows paced
  · intro e failed
    rw [startupRun_of_loader_error failed]
    exact ⟨rfl, calls_loaderRun⟩
  · intro e waited failed
    rw [startupRun_of_programs_error waited failed]
    refine ⟨rfl, fun call mem => ?_⟩
    rcases List.mem_append.1 mem with mem | mem
    · intro pin same
      rw [calls_loaderRun call mem] at same
      cases same
    · exact calls_programsRun call mem
  · intro limits τ desk d
    exact Tagger.refusesAll_closed limits desk d

/-- A startup that sees the marker at the third look, attaches and verifies six hooks, opens five
maps and ends with a tagger over them, and one that ends where the directory cannot be opened. -/
theorem initialise_allOrNothing_loaded :
    let facts : PlatformFacts :=
      ⟨.v, ⟨⟨5, 10, 0⟩, false, false⟩, some (.ofString "/sys/fs/cgroup")⟩
    let options : InitOptions := ⟨.default, .default, some (.ofMillis 250)⟩
    let grants := loadedSurroundings .default
    let refuses : (c : StartupCall Path Unit Path) → ℕ × Host → c.Answer × (ℕ × Host) := fun
      | .openDirectory _, s => (.error (.os ErrorCode.notPermitted), s)
      | call, s => grants call s
    let map (slot : Slot) : Opened Path := ⟨Layout.default.mapPath slot, slot.loaderInfo⟩
    let tables : Tables Path :=
      ⟨map .statsA, map .statsB, map .configuration, map .permissions, map .cookieTags⟩
    ((startupRun grants (0, .empty) facts options).value =
        .ok ((Tagger.closed .default).withTables tables) ∧
      ∃ directory parts,
        (initialise facts options).run.exchanges grants (0, .empty) = parts.flatten ∧
          List.Forall₂ (StartupStep.Done facts options directory) (startupSteps facts) parts) ∧
    ∃ e, (startupRun refuses (0, .empty) facts options).value = .error e ∧
      (∀ marker, e ≠ .abandoned marker) ∧
      ∀ call ∈ (startupRun refuses (0, .empty) facts options).calls, ∀ pin, call ≠ .pin pin := by
  intro facts options grants refuses map tables
  have succeeds : (startupRun grants (0, .empty) facts options).value =
      .ok ((Tagger.closed .default).withTables tables) := by
    decide +kernel
  have waited : (loaderRun refuses (0, .empty) options).value = .ok () := by decide +kernel
  have failed : (programsRun refuses (0, .empty) facts options).value = .error (.configuration
      (.cgroupUnopenable (.ofString "/sys/fs/cgroup") (.os ErrorCode.notPermitted))) := by
    decide +kernel
  have shows : Shows refuses options.layout.marker (fun looks => (looks, Host.empty))
      (fun looks => ⟨2 ≤ looks, .ofMillis (100 * looks)⟩) := fun _ => rfl
  have paced : Paced (fun looks => ⟨2 ≤ looks, .ofMillis (100 * looks)⟩) := paced_ofMillis _
  obtain ⟨granted, -⟩ := initialise_allOrNothing grants (0, .empty) facts options
  obtain ⟨refused, -⟩ := initialise_allOrNothing refuses (0, .empty) facts options
  obtain ⟨ends, unpinned⟩ := refused.unattached _ waited failed
  refine ⟨⟨succeeds, granted.ok_iff.1 ⟨_, succeeds⟩⟩, _, ends, fun marker => ?_, unpinned⟩
  exact fun same => refused.kept _ _ _ rfl rfl shows paced marker (ends.trans (congrArg _ same))

end SocketAttribution
