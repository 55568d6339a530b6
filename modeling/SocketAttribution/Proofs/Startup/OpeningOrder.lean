import SocketAttribution.Proofs.Startup.Tables

/-!
# The order in which tables are opened

The maps of the five slots are opened one after another, and the map of cookies last: it is asked
for only where the other four are open. Which of them can be opened is settled by what is pinned and
by what the kernel says about it. The numbers of the types and sizes are written out here as they
are documented.

## Main definitions

* `Slot.Takes`, `Slot.Wants`: the types of map that a slot takes, and all that it wants of one.
* `PinDirectory`: what is pinned, and what the kernel says about it.
* `PinDirectory.opening`, `PinDirectory.asks`: what comes of the opening of a slot, and what it
  asks.

## Main statements

* `Slot.check_eq_ok_iff`, `Slot.check_of_not_takes`: which maps fit, and how others are refused.
* `SlotCourse.cookieTags_last`: the map of cookies is asked for behind the other four.
* `SlotCourse.cases_of_tells`: the course of the slots over a directory that does not change.
* `openTables_inOrder`: all of it.
-/

namespace SocketAttribution

variable {Prog Dir Handle σ : Type}

/-! ## What fits a slot -/

namespace Slot

/-- The types of map that a slot takes: 2 is an array, 1 and 9 are the two kinds of hash. -/
def Takes : Slot → UInt32 → Prop
  | .configuration, type => type = 2
  | _, type => type = 1 ∨ type = 9

/-- What a slot wants of a map: its type, the size of its keys and the size of its values. -/
def Wants : Slot → MapInfo → Prop
  | .statsA, info => (info.type = 1 ∨ info.type = 9) ∧ info.keySize = 16 ∧ info.valueSize = 32
  | .statsB, info => (info.type = 1 ∨ info.type = 9) ∧ info.keySize = 16 ∧ info.valueSize = 32
  | .configuration, info => info.type = 2 ∧ info.keySize = 4 ∧ info.valueSize = 4
  | .permissions, info => (info.type = 1 ∨ info.type = 9) ∧ info.keySize = 4 ∧ info.valueSize = 1
  | .cookieTags, info => (info.type = 1 ∨ info.type = 9) ∧ info.keySize = 8 ∧ info.valueSize = 8

variable {slot : Slot} {info : MapInfo}

theorem wants_iff : slot.Wants info ↔
    slot.Takes info.type ∧ info.keySize = slot.keySize ∧ info.valueSize = slot.valueSize := by
  cases slot <;> rfl

/-- The types that a slot takes are those of the kinds that can serve it. -/
theorem takes_iff {type : UInt32} :
    slot.Takes type ↔ ∃ kind, MapKind.ofType? type = some kind ∧ slot.Serves kind := by
  by_cases hash : type = 1
  · subst hash
    cases slot <;> simp [Takes, Serves, MapKind.ofType?]
  by_cases array : type = 2
  · subst array
    cases slot <;> simp [Takes, Serves, MapKind.ofType?]
  by_cases lru : type = 9
  · subst lru
    cases slot <;> simp [Takes, Serves, MapKind.ofType?]
  · cases slot <;> simp [Takes, MapKind.ofType?, hash, array, lru]

/-- A map of another type is refused by its type. -/
theorem check_of_not_takes (other : ¬ slot.Takes info.type) :
    slot.check info = .error (.invalidType (reportedType info.type)) := by
  rw [takes_iff] at other
  unfold check
  cases known : MapKind.ofType? info.type with
  | none => rfl
  | some kind =>
      have unfit : ¬ slot.Serves kind := fun serves => other ⟨kind, known, serves⟩
      have small : reportedType info.type = info.type := by
        unfold MapKind.ofType? at known
        unfold reportedType
        split_ifs at known with hash array lru
        · rw [hash]; rfl
        · rw [array]; rfl
        · rw [lru]; rfl
      rw [small]
      exact if_pos unfit

/-- A map of a type that is taken is judged by its sizes, that of the keys first. -/
theorem check_of_takes (takes : slot.Takes info.type) :
    slot.check info =
      if info.keySize ≠ slot.keySize then .error (.invalidKeySize slot.keySize info.keySize)
      else if info.valueSize ≠ slot.valueSize then
        .error (.invalidValueSize slot.valueSize info.valueSize)
      else .ok () := by
  obtain ⟨kind, known, serves⟩ := takes_iff.1 takes
  rw [check, known]
  exact if_neg (not_not_intro serves)

/-- **A map fits a slot if and only if it is what the slot wants.** -/
theorem check_eq_ok_iff : slot.check info = .ok () ↔ slot.Wants info := by
  rw [wants_iff]
  by_cases takes : slot.Takes info.type
  · rw [check_of_takes takes]
    split_ifs with keys values
    · simp [keys]
    · simp [values]
    · simp [takes, not_not.1 keys, not_not.1 values]
  · simp [check_of_not_takes takes, takes]

end Slot

/-! ## The map of cookies comes last -/

/-- The paths of the slots are different ones. -/
theorem Layout.mapPath_injective (layout : Layout) {slot other : Slot}
    (same : layout.mapPath slot = layout.mapPath other) : slot = other := by
  have names : Text.Utf8.encode slot.pinName.toList = Text.Utf8.encode other.pinName.toList := by
    unfold mapPath Path.join at same
    split at same
    · exact List.append_cancel_left (congrArg Path.bytes same)
    · exact (List.cons.inj (List.append_cancel_left (congrArg Path.bytes same))).2
  revert names
  cases slot <;> cases other <;> decide

section Order

variable {layout : Layout} {slot : Slot} {talk front back : List (StartupExchange Prog Dir Handle)}

/-- An object is asked for at the path of its slot, and before anything else. -/
theorem SlotOpening.obtain_first {path : Path} {reply : Except SystemError Handle}
    {outcome : Except InitError (Opened Handle)}
    (opening : SlotOpening layout slot (front ++ ⟨.pin (.obtain path), reply⟩ :: back) outcome) :
    front = [] ∧ path = layout.mapPath slot := by
  generalize whole : front ++ ⟨.pin (.obtain path), reply⟩ :: back = said at opening
  cases opening with
  | unpinnable => simp at whole
  | unobtained =>
      rcases front with _ | ⟨first, _ | ⟨second, front⟩⟩ <;> simp_all
  | opened | undescribed | unfit =>
      rcases front with _ | ⟨first, _ | ⟨second, front⟩⟩ <;> simp_all

/-- The slots in front of the last one. -/
theorem Slot.eq_of_all_eq {before after : List Slot}
    (split : Slot.all = before ++ .cookieTags :: after) :
    before = [.statsA, .statsB, .configuration, .permissions] := by
  rcases before with _ | ⟨a, _ | ⟨b, _ | ⟨c, _ | ⟨d, _ | ⟨e, before⟩⟩⟩⟩⟩ <;> simp_all [Slot.all]

/-- **The map of cookies is asked for behind the other four**, and all that was said before opened
these. -/
theorem SlotCourse.cookieTags_last {ends : Except InitError Unit}
    {reply : Except SystemError Handle}
    (course : SlotCourse layout Slot.all
      (front ++ ⟨.pin (.obtain (layout.mapPath .cookieTags)), reply⟩ :: back) ends) :
    ∃ parts, front = parts.flatten ∧ List.Forall₂
      (fun slot said => ∃ opened : Opened Handle, SlotOpening layout slot said (.ok opened))
      [.statsA, .statsB, .configuration, .permissions] parts := by
  obtain ⟨before, slot, after, parts, ahead, later, split, rfl, all, spoken⟩ := course.step_of_said
  have place : ahead = [] ∧ layout.mapPath .cookieTags = layout.mapPath slot := by
    obtain ⟨opened, opening⟩ | ⟨e, opening⟩ := spoken
    · exact opening.obtain_first
    · exact opening.obtain_first
  obtain ⟨rfl, path⟩ := place
  obtain rfl := layout.mapPath_injective path
  rw [Slot.eq_of_all_eq split] at all
  exact ⟨parts, List.append_nil _, all⟩

end Order

/-! ## Directories of pins -/

/-- What is pinned at each path, and what the kernel says about it. -/
structure PinDirectory (Handle : Type) where
  pinned : Path → Except SystemError Handle
  described : Handle → Except SystemError MapInfo

namespace PinDirectory

variable (pins : PinDirectory Handle)

/-- Whoever answers does so by the directory, in every state. -/
structure Kept (answer : (c : StartupCall Prog Dir Handle) → σ → c.Answer × σ) : Prop where
  obtained : ∀ path s, (answer (.pin (.obtain path)) s).1 = pins.pinned path
  described : ∀ handle s, (answer (.pin (.describe handle)) s).1 = pins.described handle

/-- What comes of the opening of a slot: the path must hold no NUL byte, something must be pinned
there, the kernel must describe it, and it must fit. -/
def opening (layout : Layout) (slot : Slot) : Except MapError (Opened Handle) :=
  match (layout.mapPath slot).nulPosition? with
  | some position => .error (.invalidPin (layout.mapPath slot) position)
  | none =>
    match pins.pinned (layout.mapPath slot) with
    | .error source => .error (.call "BPF_OBJ_GET" source)
    | .ok handle =>
      match pins.described handle with
      | .error source => .error (.call "bpf_obj_get_info_by_fd" source)
      | .ok info => (slot.check info).map fun _ => ⟨handle, info⟩

/-- The map of a slot can be opened. -/
def Opens (layout : Layout) (slot : Slot) : Prop :=
  ∃ opened, pins.opening layout slot = .ok opened

/-- What is asked while a slot is opened. -/
def asks (layout : Layout) (slot : Slot) : List (StartupCall Prog Dir Handle) :=
  match (layout.mapPath slot).nulPosition?, pins.pinned (layout.mapPath slot) with
  | some _, _ => []
  | none, .error _ => [.pin (.obtain (layout.mapPath slot))]
  | none, .ok handle => [.pin (.obtain (layout.mapPath slot)), .pin (.describe handle)]

/-- What is said agrees with the directory. -/
def Tells : StartupExchange Prog Dir Handle → Prop
  | ⟨.pin (.obtain path), reply⟩ => reply = pins.pinned path
  | ⟨.pin (.describe handle), reply⟩ => reply = pins.described handle
  | _ => True

variable {pins} {layout : Layout} {slot : Slot} {talk : List (StartupExchange Prog Dir Handle)}

/-- What is pinned and described opens if it fits. -/
theorem opening_of_described {handle : Handle} {info : MapInfo}
    (pinnable : (layout.mapPath slot).nulPosition? = none)
    (pinned : pins.pinned (layout.mapPath slot) = .ok handle)
    (described : pins.described handle = .ok info) :
    pins.opening layout slot = (slot.check info).map fun _ => ⟨handle, info⟩ := by
  simp only [opening, pinnable, pinned, described]

theorem asks_of_pinned {handle : Handle} (pinnable : (layout.mapPath slot).nulPosition? = none)
    (pinned : pins.pinned (layout.mapPath slot) = .ok handle) :
    (pins.asks layout slot : List (StartupCall Prog Dir Handle)) =
      [.pin (.obtain (layout.mapPath slot)), .pin (.describe handle)] := by
  simp only [asks, pinnable, pinned]

/-- **A slot opens if and only if its map is pinned at its path, is described, and is what the slot
wants.** -/
theorem opening_eq_ok_iff {opened : Opened Handle} :
    pins.opening layout slot = .ok opened ↔
      (layout.mapPath slot).nulPosition? = none ∧
        pins.pinned (layout.mapPath slot) = .ok opened.handle ∧
        pins.described opened.handle = .ok opened.info ∧ slot.Wants opened.info := by
  constructor
  · intro opens
    unfold opening at opens
    split at opens
    · cases opens
    next nul =>
    split at opens
    · cases opens
    next handle pinned =>
    split at opens
    · cases opens
    next info described =>
    cases fits : slot.check info with
    | error e =>
        rw [fits] at opens
        cases opens
    | ok =>
        rw [fits] at opens
        cases opens
        exact ⟨nul, pinned, described, Slot.check_eq_ok_iff.1 fits⟩
  · rintro ⟨nul, pinned, described, wants⟩
    rw [opening_of_described nul pinned described, Slot.check_eq_ok_iff.2 wants]
    rfl

/-- A pinned map of another type is refused by its type. -/
theorem opening_of_not_takes {handle : Handle} {info : MapInfo}
    (pinnable : (layout.mapPath slot).nulPosition? = none)
    (pinned : pins.pinned (layout.mapPath slot) = .ok handle)
    (described : pins.described handle = .ok info) (other : ¬ slot.Takes info.type) :
    pins.opening layout slot = .error (.invalidType (reportedType info.type)) := by
  rw [opening_of_described pinnable pinned described, Slot.check_of_not_takes other]
  rfl

/-- Whoever keeps to the directory says what it says. -/
theorem Kept.tells {answer : (c : StartupCall Prog Dir Handle) → σ → c.Answer × σ}
    (kept : pins.Kept answer) {s last : σ} (answered : Dialogue.Answered answer s talk last) :
    ∀ exchange ∈ talk, pins.Tells exchange := by
  rintro ⟨call, reply⟩ mem
  obtain ⟨state, given⟩ := Dialogue.exists_state_of_answered answered _ mem
  cases call with
  | poll marker => trivial
  | openDirectory path => trivial
  | host call => trivial
  | pin call =>
      cases call with
      | obtain path => exact given.trans (kept.obtained path state)
      | describe handle => exact given.trans (kept.described handle state)

end PinDirectory

/-- A path can be pinned if it holds no NUL byte. -/
theorem checkPin_eq_ok_iff {path : Path} : checkPin path = .ok () ↔ path.nulPosition? = none := by
  unfold checkPin
  cases path.nulPosition? <;> simp

/-- What is said over a directory is what it asks for, and what comes of it is settled by it. -/
theorem SlotOpening.of_tells {pins : PinDirectory Handle} {layout : Layout} {slot : Slot}
    {said : List (StartupExchange Prog Dir Handle)} {outcome : Except InitError (Opened Handle)}
    (opening : SlotOpening layout slot said outcome)
    (tells : ∀ exchange ∈ said, pins.Tells exchange) :
    outcome = (pins.opening layout slot).mapError (.maps slot.pinName) ∧
      said.map Sigma.fst = pins.asks layout slot := by
  cases opening with
  | unpinnable e refused =>
      unfold checkPin at refused
      split at refused
      · next position nul =>
        cases refused
        simp only [PinDirectory.opening, PinDirectory.asks, nul]
        exact ⟨rfl, rfl⟩
      · cases refused
  | unobtained pinnable source =>
      have unpinned : Except.error source = pins.pinned _ := tells _ List.mem_cons_self
      simp only [PinDirectory.opening, PinDirectory.asks, checkPin_eq_ok_iff.1 pinnable, ← unpinned]
      exact ⟨rfl, rfl⟩
  | undescribed pinnable handle source =>
      have pinned : Except.ok handle = pins.pinned _ := tells _ List.mem_cons_self
      have undescribed : Except.error source = pins.described handle :=
        tells _ (List.mem_cons_of_mem _ List.mem_cons_self)
      refine ⟨?_, (PinDirectory.asks_of_pinned (checkPin_eq_ok_iff.1 pinnable) pinned.symm).symm⟩
      simp only [PinDirectory.opening, checkPin_eq_ok_iff.1 pinnable, ← pinned, ← undescribed]
      rfl
  | opened pinnable handle info fits =>
      have pinned : Except.ok handle = pins.pinned _ := tells _ List.mem_cons_self
      have described : Except.ok info = pins.described handle :=
        tells _ (List.mem_cons_of_mem _ List.mem_cons_self)
      have nul := checkPin_eq_ok_iff.1 pinnable
      rw [PinDirectory.opening_of_described nul pinned.symm described.symm, fits,
        PinDirectory.asks_of_pinned nul pinned.symm]
      exact ⟨rfl, rfl⟩
  | unfit pinnable handle info e refused =>
      have pinned : Except.ok handle = pins.pinned _ := tells _ List.mem_cons_self
      have described : Except.ok info = pins.described handle :=
        tells _ (List.mem_cons_of_mem _ List.mem_cons_self)
      have nul := checkPin_eq_ok_iff.1 pinnable
      rw [PinDirectory.opening_of_described nul pinned.symm described.symm, refused,
        PinDirectory.asks_of_pinned nul pinned.symm]
      exact ⟨rfl, rfl⟩

section Kept

variable {pins : PinDirectory Handle} {layout : Layout} {slots : List Slot}
  {talk : List (StartupExchange Prog Dir Handle)}

/-- **The course of the slots over a directory**: all of them open, or the first that does not ends
it. What is asked is what these ask for, one after another. -/
theorem SlotCourse.cases_of_tells {ends : Except InitError Unit}
    (course : SlotCourse layout slots talk ends) (tells : ∀ exchange ∈ talk, pins.Tells exchange) :
    (ends = .ok () ∧ (∀ slot ∈ slots, pins.Opens layout slot) ∧
      talk.map Sigma.fst = slots.flatMap (pins.asks layout)) ∨
    ∃ before slot after source, slots = before ++ slot :: after ∧
      (∀ earlier ∈ before, pins.Opens layout earlier) ∧
      pins.opening layout slot = .error source ∧ ends = .error (.maps slot.pinName source) ∧
      talk.map Sigma.fst = (before ++ [slot]).flatMap (pins.asks layout) := by
  induction course with
  | nil => exact .inl ⟨rfl, nofun, rfl⟩
  | @done slot rest said talk outcome full behind ih =>
      obtain ⟨opened, opening⟩ := full
      obtain ⟨same, asked⟩ := opening.of_tells fun exchange mem =>
        tells exchange (List.mem_append_left _ mem)
      have opens : pins.Opens layout slot := by
        cases found : pins.opening layout slot with
        | ok other => exact ⟨other, found⟩
        | error source =>
            rw [found] at same
            cases same
      have later := ih fun exchange mem => tells exchange (List.mem_append_right _ mem)
      obtain ⟨rfl, all, calls⟩ |
        ⟨before, other, after, source, rfl, all, fails, rfl, calls⟩ := later
      · refine .inl ⟨rfl, List.forall_mem_cons.2 ⟨opens, all⟩, ?_⟩
        rw [List.map_append, List.flatMap_cons, asked, calls]
      · refine .inr ⟨slot :: before, other, after, source, rfl, List.forall_mem_cons.2 ⟨opens, all⟩,
          fails, rfl, ?_⟩
        rw [List.map_append, asked, calls]
        rfl
  | @failed slot rest said e opening =>
      obtain ⟨same, asked⟩ := opening.of_tells tells
      cases found : pins.opening layout slot with
      | ok opened =>
          rw [found] at same
          cases same
      | error source =>
          rw [found] at same
          cases same
          refine .inr ⟨[], slot, rest, source, rfl, nofun, found, rfl, ?_⟩
          rw [asked]
          exact (List.append_nil _).symm

/-- Tables with the same maps in all slots are the same. -/
theorem Tables.ext_slot {tables others : Tables Handle}
    (same : ∀ slot, tables.slot slot = others.slot slot) : tables = others := by
  obtain ⟨a, b, c, d, e⟩ := tables
  obtain rfl : a = _ := same .statsA
  obtain rfl : b = _ := same .statsB
  obtain rfl : c = _ := same .configuration
  obtain rfl : d = _ := same .permissions
  obtain rfl : e = _ := same .cookieTags
  rfl

variable {answer : (c : StartupCall Prog Dir Handle) → σ → c.Answer × σ} {s : σ}

/-- How a run over a directory ends, and what it asks. -/
theorem openTables_cases (kept : pins.Kept answer) (layout : Layout) (s : σ) :
    let run := (openTables layout).run.run answer s
    ((∃ tables, run.value = .ok tables) ∧ (∀ slot, pins.Opens layout slot) ∧
      run.calls = Slot.all.flatMap (pins.asks layout)) ∨
    ∃ before slot after source, Slot.all = before ++ slot :: after ∧
      (∀ earlier ∈ before, pins.Opens layout earlier) ∧
      pins.opening layout slot = .error source ∧
      run.value = .error (.maps slot.pinName source) ∧
      run.calls = (before ++ [slot]).flatMap (pins.asks layout) := by
  intro run
  have course := slotCourse_of_yields (Dialogue.yields_exchanges answer (openTables layout).run s)
  have tells := kept.tells (Dialogue.answered_exchanges answer (openTables layout).run s)
  have asked := Dialogue.map_fst_exchanges answer (openTables layout).run s
  obtain ⟨ends, all, calls⟩ | ⟨before, slot, after, source, split, all, fails, ends, calls⟩ :=
    course.cases_of_tells tells
  · refine .inl ⟨ending_eq_ok_iff.1 ends, fun slot => all slot ?_, asked.symm.trans calls⟩
    cases slot <;> decide
  · exact .inr ⟨before, slot, after, source, split, all, fails, ending_eq_error_iff.1 ends,
      asked.symm.trans calls⟩

/-- **The tables are opened if and only if all five can be**, and they are what was opened. -/
theorem openTables_ok_iff (kept : pins.Kept answer) {tables : Tables Handle} :
    ((openTables layout).run.run answer s).value = .ok tables ↔
      ∀ slot, pins.opening layout slot = .ok (tables.slot slot) := by
  have opened : ∀ {tables : Tables Handle},
      ((openTables layout).run.run answer s).value = .ok tables →
        ∀ slot, pins.opening layout slot = .ok (tables.slot slot) := by
    intro tables succeeds slot
    have yields := Dialogue.yields_exchanges answer (openTables layout).run s
    rw [succeeds] at yields
    obtain ⟨said, opening, within⟩ := slotOpening_of_openTables yields slot
    have tells := kept.tells (Dialogue.answered_exchanges answer (openTables layout).run s)
    obtain ⟨same, -⟩ := opening.of_tells fun exchange mem => tells exchange (within exchange mem)
    cases found : pins.opening layout slot with
    | ok other =>
        rw [found] at same
        exact congrArg Except.ok (Except.ok.inj same).symm
    | error source =>
        rw [found] at same
        cases same
  refine ⟨opened, fun all => ?_⟩
  obtain ⟨⟨others, succeeds⟩, -⟩ | ⟨_, slot, _, source, -, -, fails, -⟩ :=
    openTables_cases kept layout s
  · rw [succeeds]
    refine congrArg Except.ok (Tables.ext_slot fun slot => ?_)
    exact Except.ok.inj ((opened succeeds slot).symm.trans (all slot))
  · cases fails.symm.trans (all slot)

/-- Tables that are opened are asked for one after another. -/
theorem openTables_calls_of_ok (kept : pins.Kept answer) {tables : Tables Handle}
    (succeeds : ((openTables layout).run.run answer s).value = .ok tables) :
    ((openTables layout).run.run answer s).calls = Slot.all.flatMap (pins.asks layout) := by
  obtain ⟨-, -, calls⟩ | ⟨_, _, _, _, -, -, -, fails, -⟩ := openTables_cases kept layout s
  · exact calls
  · cases fails.symm.trans succeeds

/-- **The first map that cannot be opened** is named with its error, and what is behind it is not
asked for. -/
theorem openTables_of_first (kept : pins.Kept answer) {before after : List Slot} {slot : Slot}
    {source : MapError} (split : Slot.all = before ++ slot :: after)
    (all : ∀ earlier ∈ before, pins.Opens layout earlier)
    (fails : pins.opening layout slot = .error source) :
    ((openTables layout).run.run answer s).value = .error (.maps slot.pinName source) ∧
      ((openTables layout).run.run answer s).calls =
        (before ++ [slot]).flatMap (pins.asks layout) := by
  have closed : ¬ pins.Opens layout slot := by
    rintro ⟨opened, opens⟩
    cases fails.symm.trans opens
  obtain ⟨-, every, -⟩ | ⟨before', slot', after', source', split', all', fails', ends, calls⟩ :=
    openTables_cases kept layout s
  · exact absurd (every slot) closed
  · have closed' : ¬ pins.Opens layout slot' := by
      rintro ⟨opened, opens⟩
      cases fails'.symm.trans opens
    obtain ⟨rfl, rfl⟩ := first_unique (split.symm.trans split') all closed all' closed'
    cases fails.symm.trans fails'
    exact ⟨ends, calls⟩

end Kept

/-! ## Ordered and typed -/

/-- **The tables are opened in order, and each must fit its slot.** Whoever answers, the openings
take the course of the slots, and the map of cookies is asked for only behind openings of the other
four. A map fits a slot if and only if it is what the slot wants, and a map of another type is
refused by its type. Over a directory that does not change, the tables are opened if and only if all
five can be, and otherwise the first that cannot be is named with its error, and nothing behind it
is asked for. -/
theorem openTables_inOrder (layout : Layout)
    (answer : (c : StartupCall Prog Dir Handle) → σ → c.Answer × σ) (s : σ) :
    let run := (openTables layout).run.run answer s
    let talk := (openTables layout).run.exchanges answer s
    let opens (slot : Slot) (said : List (StartupExchange Prog Dir Handle)) :=
      ∃ opened : Opened Handle, SlotOpening layout slot said (.ok opened)
    SlotCourse layout [.statsA, .statsB, .configuration, .permissions, .cookieTags] talk
      (ending run.value) ∧
    (∀ front reply back,
      talk = front ++ ⟨.pin (.obtain (layout.mapPath .cookieTags)), reply⟩ :: back →
        ∃ parts, front = parts.flatten ∧
          List.Forall₂ opens [.statsA, .statsB, .configuration, .permissions] parts) ∧
    (∀ (slot : Slot) (info : MapInfo), (slot.check info = .ok () ↔ slot.Wants info) ∧
      (¬ slot.Takes info.type →
        slot.check info = .error (.invalidType (reportedType info.type)))) ∧
    ∀ pins : PinDirectory Handle, pins.Kept answer →
      (∀ tables, run.value = .ok tables ↔
        ∀ slot, pins.opening layout slot = .ok (tables.slot slot)) ∧
      (∀ tables, run.value = .ok tables → run.calls = Slot.all.flatMap (pins.asks layout)) ∧
      (∀ slot opened, pins.opening layout slot = .ok opened ↔
        (layout.mapPath slot).nulPosition? = none ∧
          pins.pinned (layout.mapPath slot) = .ok opened.handle ∧
          pins.described opened.handle = .ok opened.info ∧ slot.Wants opened.info) ∧
      ∀ before slot after source, Slot.all = before ++ slot :: after →
        (∀ earlier ∈ before, pins.Opens layout earlier) →
        pins.opening layout slot = .error source →
          run.value = .error (.maps slot.pinName source) ∧
            run.calls = (before ++ [slot]).flatMap (pins.asks layout) := by
  intro run talk opens
  have course : SlotCourse layout Slot.all talk (ending run.value) :=
    slotCourse_of_yields (Dialogue.yields_exchanges answer (openTables layout).run s)
  refine ⟨course, ?_, ?_, ?_⟩
  · intro front reply back said
    rw [said] at course
    exact course.cookieTags_last
  · intro slot info
    exact ⟨Slot.check_eq_ok_iff, Slot.check_of_not_takes⟩
  · intro pins kept
    refine ⟨fun tables => openTables_ok_iff kept, fun tables succeeds => ?_, ?_, ?_⟩
    · exact openTables_calls_of_ok kept succeeds
    · intro slot opened
      exact PinDirectory.opening_eq_ok_iff
    · intro before slot after source split all fails
      exact openTables_of_first kept split all fails

/-- A directory that pins maps of statistics everywhere: the third slot refuses its map. -/
theorem openTables_inOrder_third :
    let pins : PinDirectory Unit := ⟨fun _ => .ok (), fun _ => .ok ⟨1, 16, 32, 5000⟩⟩
    let answer : (c : StartupCall Unit Unit Unit) → Unit → c.Answer × Unit := fun
      | .poll _, _ => (⟨true, ⟨0⟩⟩, ())
      | .openDirectory _, _ => (.ok (), ())
      | .host (.retrieve _), _ => (.ok (), ())
      | .host (.attach _ _ _), _ => (.ok (), ())
      | .host (.query _ _), _ => (.ok 0, ())
      | .pin (.obtain path), _ => (pins.pinned path, ())
      | .pin (.describe handle), _ => (pins.described handle, ())
    let run := (openTables .default).run.run answer ()
    run.value = .error (.maps "map_configuration_map" (.invalidType 1)) ∧ run.calls.length = 6 := by
  intro pins answer run
  have kept : pins.Kept answer := ⟨fun _ _ => rfl, fun _ _ => rfl⟩
  obtain ⟨-, -, -, directory⟩ := openTables_inOrder .default answer ()
  obtain ⟨-, -, opens, first⟩ := directory pins kept
  have pinnable : ∀ slot, (Layout.default.mapPath slot).nulPosition? = none := by
    intro slot
    cases slot <;> decide +kernel
  have both : ∀ slot ∈ [Slot.statsA, Slot.statsB], pins.Opens .default slot := by
    intro slot mem
    refine ⟨⟨(), ⟨1, 16, 32, 5000⟩⟩, (opens slot _).2 ⟨pinnable slot, rfl, rfl, ?_⟩⟩
    rcases List.mem_pair.1 mem with rfl | rfl
    · exact ⟨.inl rfl, rfl, rfl⟩
    · exact ⟨.inl rfl, rfl, rfl⟩
  have other : ¬ Slot.configuration.Takes 1 := by simp [Slot.Takes]
  have pinned : pins.pinned (Layout.default.mapPath .configuration) = .ok () := rfl
  have described : pins.described () = .ok ⟨1, 16, 32, 5000⟩ := rfl
  have refused := PinDirectory.opening_of_not_takes (pinnable .configuration) pinned described other
  obtain ⟨ends, calls⟩ := first [.statsA, .statsB] .configuration [.permissions, .cookieTags] _ rfl
    both refused
  refine ⟨ends, ?_⟩
  rw [calls]
  decide +kernel

end SocketAttribution
