import SocketAttribution.Charge.Call

/-!
# Delegation

Who may charge traffic to somebody else. An app may if its permission bits say so, and so may a few
identities of the system.

## Main definitions

* `AppId`, `appId`: the app behind a user id.
* `mayChargeOthers`: whether a caller may charge somebody else.

## Design notes

A permission that cannot be read grants nothing and takes nothing away: the trusted identities are
still looked at.
-/

namespace SocketAttribution

/-- The app behind a user id. It is a type of its own, so that it is not taken for a user id when
permissions are looked up. -/
structure AppId where
  number : UInt32
  deriving DecidableEq, Repr

/-- How many user ids belong to one user profile. -/
def perUserRange : UInt32 := 100000

/-- The app behind a user id; each user profile has its own copy of every app. -/
def appId (uid : UInt32) : AppId := ⟨uid % perUserRange⟩

/-- The user of 464xlat, which carries one address family over the other and charges its own
traffic. -/
def clatUid : UInt32 := 1029

/-- The identities that may charge others without a permission: the superuser, the system and the
resolver of names. -/
def trustedApps : List AppId := [⟨0⟩, ⟨1000⟩, ⟨1051⟩]

/-- The permission bit that lets an app charge others: the fourth from below. -/
def updateStatsBit : UInt8 := 8

/-- Whether permission bits let an app charge others. -/
def GrantsDelegation (bits : UInt8) : Prop := bits &&& updateStatsBit ≠ 0

instance (bits : UInt8) : Decidable (GrantsDelegation bits) := inferInstanceAs (Decidable (_ ≠ _))

/-- Whether a caller may charge somebody else. -/
def mayChargeOthers (caller : UInt32) : Dialogue TagCall TagCall.Answer Bool :=
  .ask (.permissions (.get (appId caller).number)) fun
    | .ok (some bits) =>
      if GrantsDelegation bits then .done true else .done (trustedApps.contains (appId caller))
    | .ok none => .done (trustedApps.contains (appId caller))
    | .error e =>
      .log ⟨.delegation, .warn,
        s!"permission lookup for app {(appId caller).number} failed: {e.message}"⟩
        (.done (trustedApps.contains (appId caller)))

end SocketAttribution
