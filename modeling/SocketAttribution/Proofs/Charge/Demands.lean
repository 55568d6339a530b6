import SocketAttribution.Charge.Tagging
import SocketAttribution.Proofs.Dialogue.Muted
import Mathlib.Data.Nat.Bitwise

/-!
# Requests as rows of demands

Without its log lines each check of a request is a single demand: one call, and a reading of its
answer as a permit or a refusal. This module gives the readings names and computes the muted form of
every part of a request. Whoever proves something about a request that is not about its log starts
from here and need not open the request itself.

## Main definitions

* `Request`: what callers ask of the tagger that changes something.
* `Delegates`: what the answer about permissions says of a caller.
* `judgeDelegation`, `judgeFamily`, `judgeProtocol`, `judgeWalk`: answers as permits or refusals.

## Main statements

* `TagRequest.muted_authorise`, …, `TagRequest.muted_record`: the checks as demands.
* `Tagger.muted_tagSocket`, `Tagger.muted_untagSocket`, `Tagger.muted_usage`: the requests as rows
  of them.
-/

namespace SocketAttribution

/-! ## Requests -/

/-- A request that may change a charge. -/
inductive Request where
  | tag (r : TagRequest)
  | untag (socket : Descriptor)
  deriving DecidableEq, Repr

namespace Request

/-- What the tagger does about a request. -/
def work {Tables : Type} (t : Tagger Tables) : Request → TagAttempt Unit
  | .tag r => t.tagSocket r
  | .untag socket => t.untagSocket socket

/-- The user whom a request charges. -/
def charged? : Request → Option UInt32
  | .tag r => some r.chargeUid
  | .untag _ => none

end Request

/-! ## Readings -/

/-- A caller may charge others, as far as the answer about his app's permissions goes. -/
def Delegates (caller : UInt32) : Except TableError (Option UInt8) → Prop
  | .ok (some bits) => GrantsDelegation bits ∨ appId caller ∈ trustedApps
  | .ok none => appId caller ∈ trustedApps
  | .error _ => appId caller ∈ trustedApps

instance (caller : UInt32) : (answer : Except TableError (Option UInt8)) →
    Decidable (Delegates caller answer)
  | .ok (some _) => inferInstanceAs (Decidable (_ ∨ _))
  | .ok none => inferInstanceAs (Decidable (_ ∈ _))
  | .error _ => inferInstanceAs (Decidable (_ ∈ _))

/-- The bit that lets an app charge others is the one of eights. -/
theorem grantsDelegation_iff {bits : UInt8} :
    GrantsDelegation bits ↔ bits.toNat.testBit 3 = true := by
  rw [GrantsDelegation, updateStatsBit, Ne, ← UInt8.toNat_inj, UInt8.toNat_and]
  show ¬ (bits.toNat &&& 2 ^ 3) = 0 ↔ _
  rw [Nat.and_two_pow]
  cases bits.toNat.testBit 3 <;> simp

/-- The apps that need no permission, by their numbers. -/
theorem appId_mem_trustedApps_iff {caller : UInt32} :
    appId caller ∈ trustedApps ↔
      caller % 100000 = 0 ∨ caller % 100000 = 1000 ∨ caller % 100000 = 1051 := by
  simp [appId, trustedApps, perUserRange]

/-- **Who may charge others**: whose app has the bit, or is one of three. -/
theorem delegates_iff {caller : UInt32} {answer : Except TableError (Option UInt8)} :
    Delegates caller answer ↔
      (∃ bits : UInt8, answer = .ok (some bits) ∧ bits.toNat.testBit 3 = true) ∨
        caller % 100000 = 0 ∨ caller % 100000 = 1000 ∨ caller % 100000 = 1051 := by
  rcases answer with e | (_ | bits)
  · simp [Delegates, appId_mem_trustedApps_iff]
  · simp [Delegates, appId_mem_trustedApps_iff]
  · simp [Delegates, appId_mem_trustedApps_iff, grantsDelegation_iff]

/-- What the answer about permissions means for a caller who charges somebody else. -/
def judgeDelegation (caller : UInt32) (answer : Except TableError (Option UInt8)) :
    Except TagError Unit :=
  if Delegates caller answer then .ok () else .error .permissionDenied

/-- What the family of a socket means for a charge. -/
def judgeFamily : Except SystemError Int32 → Except TagError Unit
  | .ok family => if isSupportedFamily family then .ok () else .error (.familyUnsupported family)
  | .error e => .error (.ofSocket e)

/-- What the protocol of a socket means for a charge. -/
def judgeProtocol : Except SystemError Int32 → Except TagError Unit
  | .ok protocol =>
    if isSupportedProtocol protocol then .ok () else .error (.protocolUnsupported protocol)
  | .error e => .error (.ofSocket e)

/-- What a walk through the live statistics table means for a charge. -/
def judgeWalk (limits : QuotaLimits) (uid : UInt32) (walk : Walk StatsKey) :
    Except TagError Unit :=
  match occupancyOfWalk uid walk with
  | .ok occupancy =>
    if limits.Admits occupancy then .ok ()
    else .error (.quotaExceeded uid occupancy.total occupancy.perUid)
  | .error e => .error e

/-! ## Delegation -/

/-- **Delegation is decided by one answer.** -/
theorem muted_mayChargeOthers (caller : UInt32) :
    (mayChargeOthers caller).muted =
      .ask (.permissions (.get (appId caller).number)) fun answer =>
        .done (decide (Delegates caller answer)) := by
  refine congrArg (Dialogue.ask _) (funext fun answer => ?_)
  rcases answer with e | (_ | bits)
  · show Dialogue.done (trustedApps.contains (appId caller)) = _
    rw [List.contains_eq_mem]
    rfl
  · show Dialogue.done (trustedApps.contains (appId caller)) = _
    rw [List.contains_eq_mem]
    rfl
  · by_cases grants : GrantsDelegation bits
    · simp [Delegates, grants]
    · simp [Delegates, grants]

/-! ## Checks as demands -/

/-- The family of a socket, and whether it can be charged. -/
theorem muted_readFamily (socket : Descriptor) :
    (readFamily socket).muted =
      Attempt.demand (.socket (.family socket)) fun answer =>
        answer.mapError TagError.ofSocket := by
  rw [readFamily, Attempt.muted_mapError, Attempt.muted_noteError, Attempt.muted_demand,
    Attempt.mapError_demand]

theorem muted_readProtocol (socket : Descriptor) :
    (readProtocol socket).muted =
      Attempt.demand (.socket (.protocol socket)) fun answer =>
        answer.mapError TagError.ofSocket := by
  rw [readProtocol, Attempt.muted_mapError, Attempt.muted_noteError, Attempt.muted_demand,
    Attempt.mapError_demand]

/-- The live table and its occupancy are two demands. -/
theorem muted_readOccupancy (uid : UInt32) :
    (readOccupancy uid).muted =
      Attempt.demand (.configuration (.get selectorKey)) selectedView >>= fun view =>
        Attempt.demand (.stats view .scan) fun walk =>
          (occupancyOfWalk uid walk).map fun occupancy => (view, occupancy) := by
  unfold readOccupancy
  simp only [Attempt.muted_bind, Attempt.muted_demand, currentView, Attempt.muted_ofExcept,
    ← Attempt.ofExcept_ok]
  refine congrArg (_ >>= ·) (funext fun view => ?_)
  rw [Attempt.demand_bind_ofExcept]
  refine congrArg (Attempt.demand _) (funext fun walk => ?_)
  cases occupancyOfWalk uid walk <;> rfl

namespace TagRequest

/-- Who charges himself is asked for nothing; others need to be allowed to. -/
theorem muted_authorise (r : TagRequest) :
    r.authorise.muted =
      if r.chargeUid = r.callerUid then pure ()
      else Attempt.demand (.permissions (.get (appId r.callerUid).number))
        (judgeDelegation r.callerUid) := by
  unfold authorise
  split
  · rfl
  · rw [Attempt.muted_bind, Attempt.muted_lift, muted_mayChargeOthers, Attempt.lift_ask]
    simp only [Attempt.muted_check]
    rw [Attempt.demand_bind_ofExcept]
    refine congrArg (Attempt.demand _) (funext fun answer => ?_)
    simp [judgeDelegation, Except.bind]

theorem muted_refuseClat (r : TagRequest) :
    r.refuseClat.muted =
      Attempt.ofExcept (if r.chargeUid = clatUid then .error .permissionDenied else .ok ()) := by
  unfold refuseClat
  split <;> rfl

theorem muted_checkFamily (r : TagRequest) :
    r.checkFamily.muted = Attempt.demand (.socket (.family r.socket)) judgeFamily := by
  unfold checkFamily
  rw [Attempt.muted_bind, muted_readFamily]
  simp only [Attempt.muted_check]
  rw [Attempt.demand_bind_ofExcept]
  refine congrArg (Attempt.demand _) (funext fun answer => ?_)
  cases answer <;> rfl

theorem muted_checkProtocol (r : TagRequest) :
    r.checkProtocol.muted = Attempt.demand (.socket (.protocol r.socket)) judgeProtocol := by
  unfold checkProtocol
  rw [Attempt.muted_bind, muted_readProtocol]
  simp only [Attempt.muted_check]
  rw [Attempt.demand_bind_ofExcept]
  refine congrArg (Attempt.demand _) (funext fun answer => ?_)
  cases answer <;> rfl

/-- The quota is looked at in two demands: which table is live, and how full it is. -/
theorem muted_checkQuota (limits : QuotaLimits) (r : TagRequest) :
    (r.checkQuota limits).muted =
      Attempt.demand (.configuration (.get selectorKey)) selectedView >>= fun view =>
        Attempt.demand (.stats view .scan) (judgeWalk limits r.chargeUid) := by
  unfold checkQuota
  rw [Attempt.muted_bind, Attempt.muted_noteError, muted_readOccupancy, bind_assoc]
  refine congrArg (_ >>= ·) (funext fun view => ?_)
  simp only [Attempt.muted_check]
  rw [Attempt.demand_bind_ofExcept]
  refine congrArg (Attempt.demand _) (funext fun walk => ?_)
  unfold judgeWalk
  cases occupancyOfWalk r.chargeUid walk <;> rfl

theorem muted_record (r : TagRequest) (cookie : UInt64) :
    (r.record cookie).muted =
      Attempt.demand (.cookieTags (.upsert cookie r.charge)) fun answer =>
        answer.mapError TagError.table := by
  unfold record
  simp only [Attempt.muted_bind, Attempt.muted_noteError, Attempt.muted_demand,
    Attempt.muted_note]
  exact bind_pure_unit

end TagRequest

/-! ## Requests as rows of demands -/

namespace Tagger

variable {Tables : Type}

theorem muted_requireTables (t : Tagger Tables) :
    t.requireTables.muted =
      Attempt.ofExcept (if t.tables.isSome then .ok () else .error .permissionDenied) := by
  unfold requireTables
  split <;> rfl

/-- **A request to charge a socket as a row of demands.** -/
theorem muted_tagSocket (t : Tagger Tables) (r : TagRequest) :
    (t.tagSocket r).muted = (do
      t.requireTables.muted
      r.authorise.muted
      r.refuseClat.muted
      r.checkFamily.muted
      r.checkProtocol.muted
      let cookie ← readCookie r.socket
      (r.checkQuota t.limits).muted
      (r.record cookie).muted) := by
  simp only [tagSocket, readCookie, Attempt.muted_bind, Attempt.muted_demand]

/-- **A request to remove a charge as a row of demands.** The cookie is asked for first. -/
theorem muted_untagSocket (t : Tagger Tables) (socket : Descriptor) :
    (t.untagSocket socket).muted = (do
      let cookie ← readCookie socket
      t.requireTables.muted
      Attempt.demand (.cookieTags (.delete cookie)) fun answer =>
        answer.mapError TagError.table) := by
  simp only [untagSocket, readCookie, Attempt.muted_bind, Attempt.muted_demand,
    Attempt.muted_noteError, Attempt.muted_note]
  refine congrArg (_ >>= ·) (funext fun cookie => ?_)
  exact congrArg (_ >>= ·) (funext fun _ => bind_pure_unit)

theorem muted_usage (t : Tagger Tables) (uid : UInt32) :
    (t.usage uid).muted = t.requireTables.muted >>= fun _ => (readOccupancy uid).muted := by
  simp only [usage, Attempt.muted_bind]

end Tagger

end SocketAttribution
