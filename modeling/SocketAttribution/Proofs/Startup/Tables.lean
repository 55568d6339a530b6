import SocketAttribution.Proofs.Dialogue.Course
import SocketAttribution.Proofs.Startup.Loader
import SocketAttribution.Startup.Tables

/-!
# What is said while the tables are opened

## Main definitions

* `SlotOpening`: what is said while the map of one slot is opened, and what comes of it.
* `SlotCourse`: what is said while slots are opened one after another.

## Main statements

* `slotOpening_of_yields`, `SlotOpening.yields`: what every run says is an opening, and every
  opening is a run.
* `slotOpening_of_openTables`: the tables are what was opened.
* `slotCourse_of_yields`, `exists_yields_of_slotCourse`: the course of the slots.
-/

namespace SocketAttribution

variable {Prog Dir Handle : Type}

/-- What is said while the map of a slot is opened, and what comes of it. -/
inductive SlotOpening (layout : Layout) (slot : Slot) :
    List (StartupExchange Prog Dir Handle) → Except InitError (Opened Handle) → Prop where
  | opened (pinnable : checkPin (layout.mapPath slot) = .ok ()) (handle : Handle) (info : MapInfo)
    (fits : slot.check info = .ok ()) :
    SlotOpening layout slot
      [⟨.pin (.obtain (layout.mapPath slot)), .ok handle⟩, ⟨.pin (.describe handle), .ok info⟩]
      (.ok ⟨handle, info⟩)
  | unpinnable (e : MapError) (unfit : checkPin (layout.mapPath slot) = .error e) :
    SlotOpening layout slot [] (.error (.maps slot.pinName e))
  | unobtained (pinnable : checkPin (layout.mapPath slot) = .ok ()) (source : SystemError) :
    SlotOpening layout slot [⟨.pin (.obtain (layout.mapPath slot)), .error source⟩]
      (.error (.maps slot.pinName (.call "BPF_OBJ_GET" source)))
  | undescribed (pinnable : checkPin (layout.mapPath slot) = .ok ()) (handle : Handle)
    (source : SystemError) :
    SlotOpening layout slot
      [⟨.pin (.obtain (layout.mapPath slot)), .ok handle⟩, ⟨.pin (.describe handle), .error source⟩]
      (.error (.maps slot.pinName (.call "bpf_obj_get_info_by_fd" source)))
  | unfit (pinnable : checkPin (layout.mapPath slot) = .ok ()) (handle : Handle) (info : MapInfo)
    (e : MapError) (refused : slot.check info = .error e) :
    SlotOpening layout slot
      [⟨.pin (.obtain (layout.mapPath slot)), .ok handle⟩, ⟨.pin (.describe handle), .ok info⟩]
      (.error (.maps slot.pinName e))

section Slots

variable {layout : Layout} {slot : Slot} {talk : List (StartupExchange Prog Dir Handle)}
  {outcome : Except InitError (Opened Handle)}

/-- An exchange about pinned maps, as one of startup. -/
def PinExchange.atStartup (exchange : Exchange (PinCall Handle) PinCall.Answer) :
    StartupExchange Prog Dir Handle := ⟨.pin exchange.1, exchange.2⟩

theorem openSlot_yields_of_openPinned {said : List (Exchange (PinCall Handle) PinCall.Answer)}
    {result : Except MapError (Opened Handle)}
    (yields : (openPinned slot (layout.mapPath slot)).run.Yields said result) :
    (openSlot layout slot : StartupAttempt Prog Dir Handle _).run.Yields
      (said.map PinExchange.atStartup) (result.mapError (.maps slot.pinName)) := by
  refine Attempt.yields_mapError _ (Dialogue.yields_through_iff.2 ⟨said, rfl, ?_⟩)
  rw [List.map_id']
  exact yields

/-- **What every run says is an opening**: one part of the program after the other, and where one
fails, the opening has come to its end. -/
theorem slotOpening_of_yields (yields : (openSlot layout slot).run.Yields talk outcome) :
    SlotOpening layout slot talk outcome := by
  obtain ⟨result, inner, rfl⟩ := Attempt.mapError_of_yields yields
  obtain ⟨said, rfl, within⟩ := Dialogue.yields_through_iff.1 inner
  rw [List.map_id'] at within
  obtain ⟨e, failed, rfl⟩ | ⟨_, _, _, rfl, pinned, afterPin⟩ := Attempt.bind_of_yields within
  · obtain ⟨rfl, unfit⟩ := Attempt.ofExcept_of_yields failed
    exact .unpinnable e unfit.symm
  obtain ⟨rfl, pinnable⟩ := Attempt.ofExcept_of_yields pinned
  obtain ⟨e, failed, rfl⟩ | ⟨handle, _, _, rfl, obtained, afterObtain⟩ :=
    Attempt.bind_of_yields afterPin
  · obtain ⟨source | _, rfl, same⟩ := Attempt.demand_of_yields failed
    · cases same
      exact .unobtained pinnable.symm source
    · cases same
  obtain ⟨_ | _, rfl, same⟩ := Attempt.demand_of_yields obtained
  · cases same
  cases same
  obtain ⟨e, failed, rfl⟩ | ⟨info, _, _, rfl, described, afterDescribe⟩ :=
    Attempt.bind_of_yields afterObtain
  · obtain ⟨source | _, rfl, same⟩ := Attempt.demand_of_yields failed
    · cases same
      exact .undescribed pinnable.symm handle source
    · cases same
  obtain ⟨_ | _, rfl, same⟩ := Attempt.demand_of_yields described
  · cases same
  cases same
  obtain ⟨e, failed, rfl⟩ | ⟨_, _, _, rfl, checked, rfl, rfl⟩ :=
    Attempt.bind_of_yields afterDescribe
  · obtain ⟨rfl, refused⟩ := Attempt.ofExcept_of_yields failed
    exact .unfit pinnable.symm handle info e refused.symm
  · obtain ⟨rfl, fits⟩ := Attempt.ofExcept_of_yields checked
    exact .opened pinnable.symm handle info fits.symm

/-- **Every opening is a run.** -/
theorem SlotOpening.yields (opening : SlotOpening layout slot talk outcome) :
    (openSlot layout slot).run.Yields talk outcome := by
  have pinned {e : Except MapError Unit} (checked : checkPin (layout.mapPath slot) = e) :
      (Attempt.ofExcept (checkPin (layout.mapPath slot)) : PinAttempt Handle Unit).run.Yields
        [] e := ⟨rfl, checked.symm⟩
  have obtained (answer : Except SystemError Handle) :
      (Attempt.demand (.obtain (layout.mapPath slot)) fun answer =>
        answer.mapError (.call "BPF_OBJ_GET") : PinAttempt Handle Handle).run.Yields
        [⟨.obtain (layout.mapPath slot), answer⟩] (answer.mapError (.call "BPF_OBJ_GET")) :=
    ⟨answer, [], rfl, rfl, rfl⟩
  have described (handle : Handle) (answer : Except SystemError MapInfo) :
      (Attempt.demand (.describe handle) fun answer =>
        answer.mapError (.call "bpf_obj_get_info_by_fd") : PinAttempt Handle MapInfo).run.Yields
        [⟨.describe handle, answer⟩] (answer.mapError (.call "bpf_obj_get_info_by_fd")) :=
    ⟨answer, [], rfl, rfl, rfl⟩
  have checked {info : MapInfo} {e : Except MapError Unit} (result : slot.check info = e) :
      (Attempt.ofExcept (slot.check info) : PinAttempt Handle Unit).run.Yields [] e :=
    ⟨rfl, result.symm⟩
  cases opening with
  | opened pinnable handle info fits =>
      exact openSlot_yields_of_openPinned
        (Attempt.yields_bind_of_ok (pinned pinnable)
          (Attempt.yields_bind_of_ok (obtained (.ok handle))
            (Attempt.yields_bind_of_ok (described handle (.ok info))
              (Attempt.yields_bind_of_ok (checked fits) ⟨rfl, rfl⟩))))
  | unpinnable e unfit =>
      exact openSlot_yields_of_openPinned (Attempt.yields_bind_of_error (pinned unfit))
  | unobtained pinnable source =>
      exact openSlot_yields_of_openPinned
        (Attempt.yields_bind_of_ok (pinned pinnable)
          (Attempt.yields_bind_of_error (obtained (.error source))))
  | undescribed pinnable handle source =>
      exact openSlot_yields_of_openPinned
        (Attempt.yields_bind_of_ok (pinned pinnable)
          (Attempt.yields_bind_of_ok (obtained (.ok handle))
            (Attempt.yields_bind_of_error (described handle (.error source)))))
  | unfit pinnable handle info e refused =>
      exact openSlot_yields_of_openPinned
        (Attempt.yields_bind_of_ok (pinned pinnable)
          (Attempt.yields_bind_of_ok (obtained (.ok handle))
            (Attempt.yields_bind_of_ok (described handle (.ok info))
              (Attempt.yields_bind_of_error (checked refused)))))

/-- **The tables are what was opened**, each from its own slot. -/
theorem slotOpening_of_openTables {tables : Tables Handle}
    (yields : (openTables layout).run.Yields talk (.ok tables)) (slot : Slot) :
    ∃ said, SlotOpening layout slot said (.ok (tables.slot slot)) ∧
      ∀ exchange ∈ said, exchange ∈ talk := by
  obtain ⟨statsA, a, _, rfl, openA, yields⟩ := Attempt.bind_ok_of_yields yields
  obtain ⟨statsB, b, _, rfl, openB, yields⟩ := Attempt.bind_ok_of_yields yields
  obtain ⟨configuration, c, _, rfl, openC, yields⟩ := Attempt.bind_ok_of_yields yields
  obtain ⟨permissions, d, _, rfl, openD, yields⟩ := Attempt.bind_ok_of_yields yields
  obtain ⟨cookieTags, e, _, rfl, openE, rfl, same⟩ := Attempt.bind_ok_of_yields yields
  cases same
  cases slot with
  | statsA => exact ⟨a, slotOpening_of_yields openA, by simp +contextual⟩
  | statsB => exact ⟨b, slotOpening_of_yields openB, by simp +contextual⟩
  | configuration => exact ⟨c, slotOpening_of_yields openC, by simp +contextual⟩
  | permissions => exact ⟨d, slotOpening_of_yields openD, by simp +contextual⟩
  | cookieTags => exact ⟨e, slotOpening_of_yields openE, by simp +contextual⟩

/-! ## One slot after another -/

/-- The openings of slots one after another: behind one that succeeds the others follow, and behind
one that fails nothing. -/
abbrev SlotCourse (layout : Layout) :
    List Slot → List (StartupExchange Prog Dir Handle) → Except InitError Unit → Prop :=
  Course (fun slot said => ∃ opened : Opened Handle, SlotOpening layout slot said (.ok opened))
    fun slot said e => SlotOpening layout slot said (.error e : Except InitError (Opened Handle))

/-- **The tables are opened slot by slot**, in the order of the slots. -/
theorem slotCourse_of_yields {outcome : Except InitError (Tables Handle)}
    (yields : (openTables layout).run.Yields talk outcome) :
    SlotCourse layout Slot.all talk (ending outcome) := by
  have opens (slot : Slot) (said : List (StartupExchange Prog Dir Handle)) (opened : Opened Handle)
      (yields : (openSlot layout slot).run.Yields said (.ok opened)) :
      ∃ opened : Opened Handle, SlotOpening layout slot said (.ok opened) :=
    ⟨opened, slotOpening_of_yields yields⟩
  have fails (slot : Slot) (said : List (StartupExchange Prog Dir Handle)) (e : InitError)
      (yields : (openSlot layout slot).run.Yields said
        (.error e : Except InitError (Opened Handle))) :
      SlotOpening layout slot said (.error e : Except InitError (Opened Handle)) :=
    slotOpening_of_yields yields
  refine .of_bind (opens _) (fails _) (fun statsA _ yields => ?_) yields
  refine .of_bind (opens _) (fails _) (fun statsB _ yields => ?_) yields
  refine .of_bind (opens _) (fails _) (fun configuration _ yields => ?_) yields
  refine .of_bind (opens _) (fails _) (fun permissions _ yields => ?_) yields
  refine .of_bind (opens _) (fails _) (fun cookieTags _ yields => ?_) yields
  obtain ⟨rfl, rfl⟩ := yields
  exact .nil

/-- **Every course of the slots is taken by a run.** -/
theorem exists_yields_of_slotCourse {ends : Except InitError Unit}
    (run : SlotCourse layout Slot.all talk ends) :
    ∃ outcome : Except InitError (Tables Handle),
      (openTables layout).run.Yields talk outcome ∧ ending outcome = ends := by
  have opens (slot : Slot) (said : List (StartupExchange Prog Dir Handle))
      (done : ∃ opened : Opened Handle, SlotOpening layout slot said (.ok opened)) :
      ∃ opened : Opened Handle, True ∧ (openSlot layout slot).run.Yields said (.ok opened) := by
    obtain ⟨opened, opening⟩ := done
    exact ⟨opened, trivial, opening.yields⟩
  have fails (slot : Slot) (said : List (StartupExchange Prog Dir Handle)) (e : InitError)
      (opening : SlotOpening layout slot said (.error e : Except InitError (Opened Handle))) :
      (openSlot layout slot).run.Yields said (.error e) := opening.yields
  refine Course.exists_bind (opens _) (fails _) (fun statsA _ _ run => ?_) run
  refine Course.exists_bind (opens _) (fails _) (fun statsB _ _ run => ?_) run
  refine Course.exists_bind (opens _) (fails _) (fun configuration _ _ run => ?_) run
  refine Course.exists_bind (opens _) (fails _) (fun permissions _ _ run => ?_) run
  refine Course.exists_bind (opens _) (fails _) (fun cookieTags _ _ run => ?_) run
  cases run
  exact ⟨_, ⟨rfl, rfl⟩, rfl⟩

end Slots

end SocketAttribution
