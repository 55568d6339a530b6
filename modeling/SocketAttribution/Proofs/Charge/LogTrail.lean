import SocketAttribution.Proofs.Charge.PermissionBit
import SocketAttribution.Proofs.Charge.Serialization
import SocketAttribution.Proofs.Dialogue.Record

/-!
# The trail of a request in the log

A request that succeeds leaves one line, which names the cookie of the socket. A request that is
denied leaves one error, except in two cases that are silent: the tables are not open, or the socket
did not tell its cookie. A permission that could not be read leaves a warning in front of these
lines. All of it holds whoever answers.

## Main definitions

* `CookieUntold`: a socket was asked for its cookie and did not tell it.
* `Denied`: what a denial leaves in the log.
* `Accounts`: a part of a request that leaves what it should, however it ends.
* `Request.entry`, `Request.warnings`: the line of a success, and the warnings in front.

## Main statements

* `Accounts.after`: one part behind the other.
* `Tagger.accounts_tagSocket`, `Tagger.accounts_untagSocket`: the requests, part by part.
* `log_of_work`: what a request leaves in the log.
-/

namespace SocketAttribution

variable {α β σ Tables : Type}

/-! ## What is said and what is left -/

/-- What a tagger and whoever answers it say. -/
abbrev TagTalk : Type := List (Exchange TagCall TagCall.Answer)

/-- A socket was asked for its cookie and did not tell it. -/
def CookieUntold (talk : TagTalk) : Prop :=
  ∃ socket e, (⟨.socket (.cookie socket), .error e⟩ : Exchange TagCall TagCall.Answer) ∈ talk

theorem not_cookieUntold_nil : ¬ CookieUntold [] := by
  rintro ⟨socket, e, mem⟩
  cases mem

theorem cookieUntold_append {front back : TagTalk} :
    CookieUntold (front ++ back) ↔ CookieUntold front ∨ CookieUntold back := by
  constructor
  · rintro ⟨socket, e, mem⟩
    exact (List.mem_append.1 mem).imp (⟨socket, e, ·⟩) (⟨socket, e, ·⟩)
  · rintro (⟨socket, e, mem⟩ | ⟨socket, e, mem⟩)
    · exact ⟨socket, e, List.mem_append_left _ mem⟩
    · exact ⟨socket, e, List.mem_append_right _ mem⟩

/-- Only the question about the cookie is answered by not telling it. -/
theorem not_cookieUntold_singleton {call : TagCall} {told : call.Answer}
    (other : ∀ socket, call ≠ .socket (.cookie socket)) : ¬ CookieUntold [⟨call, told⟩] := by
  rintro ⟨socket, e, mem⟩
  exact other socket (congrArg Sigma.fst (List.mem_singleton.1 mem)).symm

theorem not_cookieUntold_of_told (socket : Descriptor) (cookie : UInt64) :
    ¬ CookieUntold [⟨.socket (.cookie socket), .ok cookie⟩] := by
  rintro ⟨socket, e, mem⟩
  simp at mem

/-- What a denial leaves in the log: one error, or nothing if the cookie was not told. -/
def Denied (talk : TagTalk) (lines : List LogLine) : Prop :=
  (CookieUntold talk ∧ lines = []) ∨
    ¬ CookieUntold talk ∧ ∃ line : LogLine, line.level = .error ∧ lines = [line]

/-- What was said before, if the cookie was not at issue, changes nothing about a denial. -/
theorem Denied.after {front back : TagTalk} {lines : List LogLine} (told : ¬ CookieUntold front)
    (denied : Denied back lines) : Denied (front ++ back) lines := by
  rw [Denied, cookieUntold_append, or_iff_right told]
  exact denied

/-! ## Parts of a request -/

variable {ε ε' : Type}

/-- A part of a request that leaves what it should: if it succeeds, no cookie was withheld and the
log is signed as said; if it fails, the log is that of a denial. -/
structure Accounts (signed : TagTalk → List LogLine → Prop)
    (part : Attempt TagCall TagCall.Answer ε α) : Prop where
  ok : ∀ {talk lines value}, part.run.Leaves talk lines (.ok value) →
    ¬ CookieUntold talk ∧ signed talk lines
  error : ∀ {talk lines e}, part.run.Leaves talk lines (.error e) → Denied talk lines

/-- A part that leaves nothing if it succeeds. -/
abbrev Plain (part : Attempt TagCall TagCall.Answer ε α) : Prop :=
  Accounts (fun _ lines => lines = []) part

/-- A part that leaves nothing at all and does not ask for a cookie. -/
def Hushed (part : Attempt TagCall TagCall.Answer ε α) : Prop :=
  ∀ talk lines outcome, part.run.Leaves talk lines outcome → ¬ CookieUntold talk ∧ lines = []

namespace Hushed

theorem demand {call : TagCall} {read : call.Answer → Except ε α}
    (other : ∀ socket, call ≠ .socket (.cookie socket)) : Hushed (Attempt.demand call read) := by
  intro talk lines outcome leaves
  obtain ⟨told, rfl, rfl, -⟩ := Attempt.demand_of_leaves leaves
  exact ⟨not_cookieUntold_singleton other, rfl⟩

theorem bind {first : Attempt TagCall TagCall.Answer ε α}
    {next : α → Attempt TagCall TagCall.Answer ε β} (before : Hushed first)
    (behind : ∀ value, Hushed (next value)) : Hushed (first >>= next) := by
  intro talk lines outcome leaves
  obtain ⟨e, leaves, -⟩ | ⟨value, front, back, left, right, rfl, rfl, one, other⟩ :=
    Attempt.bind_of_leaves leaves
  · exact before talk lines _ leaves
  · obtain ⟨told, rfl⟩ := before front left _ one
    obtain ⟨told', rfl⟩ := behind value back right _ other
    exact ⟨fun untold => (cookieUntold_append.1 untold).elim told told', rfl⟩

theorem pure (value : α) : Hushed (Pure.pure value : Attempt TagCall TagCall.Answer ε α) := by
  rintro talk lines outcome ⟨rfl, rfl, -⟩
  exact ⟨not_cookieUntold_nil, rfl⟩

end Hushed

namespace Accounts

variable {signed : TagTalk → List LogLine → Prop}

/-- **One part behind the other**, where the first leaves nothing if it succeeds. -/
theorem after {first : Attempt TagCall TagCall.Answer ε α}
    {next : α → Attempt TagCall TagCall.Answer ε β} (before : Plain first)
    (behind : ∀ value, Accounts signed (next value))
    (stable : ∀ front back lines, signed back lines → signed (front ++ back) lines) :
    Accounts signed (first >>= next) where
  ok := by
    intro talk lines value leaves
    obtain ⟨e, -, same⟩ | ⟨middle, front, back, left, right, rfl, rfl, one, other⟩ :=
      Attempt.bind_of_leaves leaves
    · cases same
    · obtain ⟨told, rfl⟩ := before.ok one
      obtain ⟨told', signs⟩ := (behind middle).ok other
      exact ⟨fun untold => (cookieUntold_append.1 untold).elim told told',
        stable front back right signs⟩
  error := by
    intro talk lines e leaves
    obtain ⟨_, leaves, -⟩ | ⟨middle, front, back, left, right, rfl, rfl, one, other⟩ :=
      Attempt.bind_of_leaves leaves
    · exact before.error leaves
    · obtain ⟨told, rfl⟩ := before.ok one
      exact ((behind middle).error other).after told

/-- A part that notes its failure, and leaves nothing otherwise. -/
theorem noteError {part : Attempt TagCall TagCall.Answer ε α} (hushed : Hushed part)
    (text : ε → String) : Plain (Attempt.noteError .tagger .error text part) where
  ok := by
    intro talk lines value leaves
    obtain ⟨_, -, quiet⟩ | ⟨_, _, same, -⟩ := Attempt.noteError_of_leaves leaves
    · exact hushed talk lines _ quiet
    · cases same
  error := by
    intro talk lines e leaves
    obtain ⟨_, same, -⟩ | ⟨_, own, -, rfl, quiet⟩ := Attempt.noteError_of_leaves leaves
    · cases same
    · obtain ⟨told, rfl⟩ := hushed talk own _ quiet
      exact .inr ⟨told, _, rfl, rfl⟩

/-- An error that is seen differently leaves the same. -/
theorem mapError {part : Attempt TagCall TagCall.Answer ε α} (accounts : Accounts signed part)
    (f : ε → ε') : Accounts signed (Attempt.mapError f part) where
  ok := by
    intro talk lines value leaves
    obtain ⟨result, leaves, same⟩ := Attempt.mapError_of_leaves leaves
    cases result with
    | ok => exact accounts.ok leaves
    | error => cases same
  error := by
    intro talk lines e leaves
    obtain ⟨result, leaves, same⟩ := Attempt.mapError_of_leaves leaves
    cases result with
    | ok => cases same
    | error => exact accounts.error leaves

/-- A check that says why it refuses. -/
theorem check (holds : Prop) [Decidable holds] (text : String) (e : ε) :
    Plain (if holds then Pure.pure () else do
      Attempt.note .tagger .error text
      throw e : Attempt TagCall TagCall.Answer ε Unit) := by
  by_cases h : holds
  · rw [if_pos h]
    constructor
    · intro talk lines value leaves
      exact Hushed.pure () talk lines _ leaves
    · rintro talk lines e' ⟨-, -, same⟩
      cases same
  · rw [if_neg h]
    constructor
    · rintro talk lines value ⟨later, -, -, -, same⟩
      cases same
    · rintro talk lines e' ⟨later, rfl, rfl, rfl, -⟩
      exact .inr ⟨not_cookieUntold_nil, _, rfl, rfl⟩

/-- A line at the end of a part that cannot fail behind it. -/
theorem note (origin : Origin) (level : Level) (text : String) :
    Accounts (fun _ lines => lines = [⟨origin, level, text⟩])
      (Attempt.note origin level text : Attempt TagCall TagCall.Answer ε Unit) where
  ok := by
    intro talk lines value leaves
    obtain ⟨rfl, rfl, -⟩ := Attempt.note_of_leaves leaves
    exact ⟨not_cookieUntold_nil, rfl⟩
  error := by
    intro talk lines e leaves
    obtain ⟨-, -, same⟩ := Attempt.note_of_leaves leaves
    cases same

end Accounts

/-! ## The parts of the requests -/

/-- The log is signed with the cookie that the socket told. -/
def Signed (socket : Descriptor) (entry : UInt64 → LogLine) (talk : TagTalk)
    (lines : List LogLine) : Prop :=
  ∃ cookie, (⟨.socket (.cookie socket), .ok cookie⟩ : Exchange TagCall TagCall.Answer) ∈ talk ∧
    lines = [entry cookie]

/-- A cookie is asked for in one exchange and without a word, and is told or not. -/
theorem readCookie_of_leaves {socket : Descriptor} {talk : TagTalk} {lines : List LogLine}
    {outcome : Except TagError UInt64}
    (leaves : (readCookie socket).run.Leaves talk lines outcome) :
    lines = [] ∧
      ((∃ cookie, talk = [⟨.socket (.cookie socket), .ok cookie⟩] ∧ outcome = .ok cookie) ∨
        CookieUntold talk ∧ ∃ e, outcome = .error e) := by
  obtain ⟨told, rfl, rfl, rfl⟩ := Attempt.demand_of_leaves leaves
  cases told with
  | ok cookie => exact ⟨rfl, .inl ⟨cookie, rfl, rfl⟩⟩
  | error e => exact ⟨rfl, .inr ⟨⟨socket, e, List.mem_singleton.2 rfl⟩, _, rfl⟩⟩

/-- What follows on a cookie signs with it. A cookie that is not told leaves nothing. -/
theorem accounts_readCookie {socket : Descriptor} {entry : UInt64 → LogLine}
    {next : UInt64 → TagAttempt α}
    (behind : ∀ cookie, Accounts (fun _ lines => lines = [entry cookie]) (next cookie)) :
    Accounts (Signed socket entry) (readCookie socket >>= next) where
  ok := by
    intro talk lines value leaves
    obtain ⟨e, -, same⟩ | ⟨cookie, front, back, left, right, rfl, rfl, one, other⟩ :=
      Attempt.bind_of_leaves leaves
    · cases same
    obtain ⟨told, rfl⟩ := (behind cookie).ok other
    obtain ⟨rfl, ⟨_, rfl, same⟩ | ⟨-, e, same⟩⟩ := readCookie_of_leaves one
    · cases same
      refine ⟨fun untold => ?_, cookie, List.mem_cons_self, rfl⟩
      exact (cookieUntold_append.1 untold).elim (not_cookieUntold_of_told socket cookie) told
    · cases same
  error := by
    intro talk lines e leaves
    obtain ⟨_, one, -⟩ | ⟨cookie, front, back, left, right, rfl, rfl, one, other⟩ :=
      Attempt.bind_of_leaves leaves
    · obtain ⟨rfl, ⟨_, -, same⟩ | ⟨untold, -⟩⟩ := readCookie_of_leaves one
      · cases same
      · exact .inl ⟨untold, rfl⟩
    · obtain ⟨rfl, ⟨known, rfl, -⟩ | ⟨-, _, same⟩⟩ := readCookie_of_leaves one
      · exact ((behind cookie).error other).after (not_cookieUntold_of_told socket known)
      · cases same

/-- What is said in front does not undo a signature. -/
theorem Signed.after {socket : Descriptor} {entry : UInt64 → LogLine} (front back : TagTalk)
    (lines : List LogLine) (signed : Signed socket entry back lines) :
    Signed socket entry (front ++ back) lines := by
  obtain ⟨cookie, told, rfl⟩ := signed
  exact ⟨cookie, List.mem_append_right _ told, rfl⟩

/-- The live table and its occupancy are asked for without a word. -/
theorem hushed_readOccupancy (uid : UInt32) : Hushed (readOccupancy uid) := by
  unfold readOccupancy currentView
  refine .bind (.demand (by simp)) fun view => .bind (.demand (by simp)) fun occupancy => ?_
  exact .pure (view, occupancy)

namespace TagRequest

variable (r : TagRequest)

theorem plain_refuseClat : Plain r.refuseClat := by
  have plain : Plain (if r.chargeUid ≠ clatUid then pure () else do
      Attempt.note .tagger .error s!"refusing to charge uid {r.callerUid}'s socket to the clat uid"
      throw .permissionDenied : TagAttempt Unit) := .check ..
  rw [ite_not] at plain
  exact plain

theorem plain_checkFamily : Plain r.checkFamily :=
  .after (.mapError (.noteError (.demand (by simp)) _) _) (fun _ => .check ..) fun _ _ _ => id

theorem plain_checkProtocol : Plain r.checkProtocol :=
  .after (.mapError (.noteError (.demand (by simp)) _) _) (fun _ => .check ..) fun _ _ _ => id

theorem plain_checkQuota (limits : QuotaLimits) : Plain (r.checkQuota limits) :=
  .after (.noteError (hushed_readOccupancy r.chargeUid) _) (fun _ => .check ..) fun _ _ _ => id

end TagRequest

/-! ## Permissions that cannot be read -/

/-- The warning about a permission that could not be read. -/
def permissionWarnings (caller : UInt32) : Except TableError (Option UInt8) → List LogLine
  | .ok _ => []
  | .error e =>
    [⟨.delegation, .warn, s!"permission lookup for app {caller % 100000} failed: {e.message}"⟩]

theorem mayChargeOthers_of_leaves {caller : UInt32} {talk : TagTalk} {lines : List LogLine}
    {value : Bool} (leaves : (mayChargeOthers caller).Leaves talk lines value) :
    ∃ told, talk = [⟨.permissions (.get (caller % 100000)), told⟩] ∧
      lines = permissionWarnings caller told := by
  obtain ⟨told, later, rfl, leaves⟩ := leaves
  rcases told with e | (_ | bits)
  · obtain ⟨last, rfl, rfl, rfl, -⟩ := leaves
    exact ⟨.error e, rfl, rfl⟩
  · obtain ⟨rfl, rfl, -⟩ := leaves
    exact ⟨.ok none, rfl, rfl⟩
  · have ends : (if GrantsDelegation bits then .done true
        else .done (trustedApps.contains (appId caller)) :
          Dialogue TagCall TagCall.Answer Bool).Leaves later lines value := leaves
    split at ends
    · obtain ⟨rfl, rfl, -⟩ := ends
      exact ⟨.ok (some bits), rfl, rfl⟩
    · obtain ⟨rfl, rfl, -⟩ := ends
      exact ⟨.ok (some bits), rfl, rfl⟩

/-- What is said about permissions before a charge, and the warnings that it leaves. -/
def TagRequest.Permitting (r : TagRequest) (talk : TagTalk) (warnings : List LogLine) : Prop :=
  (r.chargeUid = r.callerUid ∧ talk = [] ∧ warnings = []) ∨
    r.chargeUid ≠ r.callerUid ∧ ∃ told,
      talk = [⟨.permissions (.get (r.callerUid % 100000)), told⟩] ∧
        warnings = permissionWarnings r.callerUid told

theorem TagRequest.Permitting.not_cookieUntold {r : TagRequest} {talk : TagTalk}
    {warnings : List LogLine} (permitting : r.Permitting talk warnings) : ¬ CookieUntold talk := by
  obtain ⟨-, rfl, -⟩ | ⟨-, told, rfl, -⟩ := permitting
  · exact not_cookieUntold_nil
  · exact not_cookieUntold_singleton (by simp)

/-- The authorisation leaves its warnings, and one error behind them if it is denied. -/
theorem TagRequest.authorise_of_leaves {r : TagRequest} {talk : TagTalk} {lines : List LogLine}
    {outcome : Except TagError Unit} (leaves : r.authorise.run.Leaves talk lines outcome) :
    ∃ warnings, r.Permitting talk warnings ∧
      ((outcome = .ok () ∧ lines = warnings) ∨
        ∃ e, outcome = .error e ∧
          ∃ line : LogLine, line.level = .error ∧ lines = warnings ++ [line]) := by
  unfold authorise at leaves
  split at leaves
  · next own =>
    obtain ⟨rfl, rfl, rfl⟩ := leaves
    exact ⟨[], .inl ⟨own, rfl, rfl⟩, .inl ⟨rfl, rfl⟩⟩
  · next other =>
    obtain ⟨e, lifted, -⟩ | ⟨may, front, back, left, right, rfl, rfl, lifted, judged⟩ :=
      Attempt.bind_of_leaves leaves
    · obtain ⟨value, -, same⟩ := Attempt.lift_of_leaves lifted
      cases same
    · obtain ⟨value, asked, same⟩ := Attempt.lift_of_leaves lifted
      obtain rfl : may = value := Except.ok.inj same
      obtain ⟨told, rfl, rfl⟩ := mayChargeOthers_of_leaves asked
      cases may with
      | true =>
        obtain ⟨rfl, rfl, rfl⟩ := judged
        exact ⟨_, .inr ⟨other, told, rfl, rfl⟩, .inl ⟨rfl, List.append_nil _⟩⟩
      | false =>
        obtain ⟨later, rfl, rfl, rfl, rfl⟩ := judged
        exact ⟨_, .inr ⟨other, told, rfl, rfl⟩, .inr ⟨_, rfl, _, rfl, rfl⟩⟩

/-! ## The requests -/

namespace Request

/-- The line that a request leaves if it succeeds. -/
def entry : Request → UInt64 → LogLine
  | .tag r, cookie =>
    ⟨.tagger, .debug,
      s!"socket with cookie {cookie} tagged with tag {r.tag} uid {r.chargeUid} " ++
        s!"and real uid {r.callerUid}"⟩
  | .untag _, cookie => ⟨.tagger, .debug, s!"socket with cookie {cookie} untagged"⟩

/-- The warnings of a request: one if it needs a permission that cannot be read. -/
def warnings (t : Tagger Tables) (answer : Answerer σ) (s : σ) : Request → List LogLine
  | .tag r =>
    if t.tables.isSome = true ∧ r.chargeUid ≠ r.callerUid then
      permissionWarnings r.callerUid (answer.permission s (r.callerUid % 100000))
    else []
  | .untag _ => []

/-- There is at most one warning, and it is no error. -/
theorem warnings_cases (t : Tagger Tables) (answer : Answerer σ) (s : σ) (request : Request) :
    request.warnings t answer s = [] ∨
      ∃ line : LogLine, line.level = .warn ∧ request.warnings t answer s = [line] := by
  cases request with
  | tag r =>
      rw [warnings]
      split
      · cases answer.permission s (r.callerUid % 100000) with
        | ok told => exact .inl rfl
        | error e => exact .inr ⟨_, rfl, rfl⟩
      · exact .inl rfl
  | untag socket => exact .inl rfl

theorem entry_level (request : Request) (cookie : UInt64) :
    (request.entry cookie).level = .debug := by
  cases request <;> rfl

end Request

namespace Tagger

variable {t : Tagger Tables}

theorem accounts_record (r : TagRequest) (cookie : UInt64) :
    Accounts (fun _ lines => lines = [(Request.tag r).entry cookie]) (r.record cookie) :=
  .after (.noteError (.demand (by simp)) _) (fun _ => .note ..) fun _ _ _ => id

theorem requireTables_of_open (opened : t.tables.isSome = true) :
    t.requireTables = pure () := if_pos opened

theorem requireTables_of_closed (closed : t.tables.isSome = false) :
    t.requireTables = throw .permissionDenied := if_neg (by simp [closed])

/-- **What a charge leaves behind its authorisation**, if the tables are open. -/
theorem accounts_tagSocket (r : TagRequest) :
    Accounts (Signed r.socket (Request.tag r).entry) (do
      r.refuseClat
      r.checkFamily
      r.checkProtocol
      let cookie ← readCookie r.socket
      r.checkQuota t.limits
      r.record cookie) := by
  refine .after r.plain_refuseClat (fun _ => ?_) Signed.after
  refine .after r.plain_checkFamily (fun _ => ?_) Signed.after
  refine .after r.plain_checkProtocol (fun _ => ?_) Signed.after
  refine accounts_readCookie fun cookie => ?_
  exact .after (r.plain_checkQuota t.limits) (fun _ => accounts_record r cookie) fun _ _ _ => id

/-- **What a removal leaves**, if the tables are open. -/
theorem accounts_untagSocket (opened : t.tables.isSome = true) (socket : Descriptor) :
    Accounts (Signed socket (Request.untag socket).entry) (t.untagSocket socket) := by
  refine accounts_readCookie fun cookie => ?_
  rw [requireTables_of_open opened, pure_bind]
  exact .after (.noteError (.demand (by simp)) _) (fun _ => .note ..) fun _ _ _ => id

/-- **What a charge leaves**, if the tables are open: the warnings of its authorisation, and behind
them the line of a success or of a denial. -/
theorem tagSocket_of_leaves (opened : t.tables.isSome = true) {r : TagRequest} {talk : TagTalk}
    {lines : List LogLine} {outcome : Except TagError Unit}
    (leaves : (t.tagSocket r).run.Leaves talk lines outcome) :
    ∃ front back warnings later, talk = front ++ back ∧ lines = warnings ++ later ∧
      r.Permitting front warnings ∧
        (outcome = .ok () → Signed r.socket (Request.tag r).entry talk later) ∧
          ∀ e, outcome = .error e → Denied talk later := by
  rw [tagSocket, requireTables_of_open opened, pure_bind] at leaves
  obtain ⟨e, denied, rfl⟩ | ⟨_, front, back, left, right, rfl, rfl, authorised, rest⟩ :=
    Attempt.bind_of_leaves leaves
  · obtain ⟨warnings, permitting, ⟨same, -⟩ | ⟨_, -, line, heavy, rfl⟩⟩ :=
      TagRequest.authorise_of_leaves denied
    · cases same
    refine ⟨talk, [], warnings, [line], (List.append_nil _).symm, rfl, permitting, ?_, ?_⟩
    · intro same
      cases same
    · intro _ _
      exact .inr ⟨permitting.not_cookieUntold, line, heavy, rfl⟩
  · obtain ⟨warnings, permitting, ⟨-, rfl⟩ | ⟨_, same, -⟩⟩ :=
      TagRequest.authorise_of_leaves authorised
    · refine ⟨front, back, left, right, rfl, rfl, permitting, ?_, ?_⟩
      · rintro rfl
        exact ((accounts_tagSocket r).ok rest).2.after front
      · rintro e rfl
        exact ((accounts_tagSocket r).error rest).after permitting.not_cookieUntold
    · cases same

end Tagger

/-! ## Runs -/

/-- The warnings that were left are those about the permission as it was told. -/
theorem TagRequest.Permitting.warnings_eq {t : Tagger Tables} (opened : t.tables.isSome = true)
    {r : TagRequest} {front back : TagTalk} {warnings : List LogLine}
    (permitting : r.Permitting front warnings) {answer : Answerer σ} {s last : σ}
    (answered : Dialogue.Answered answer s (front ++ back) last) :
    warnings = (Request.tag r).warnings t answer s := by
  rw [Request.warnings]
  obtain ⟨own, rfl, rfl⟩ | ⟨other, told, rfl, rfl⟩ := permitting
  · rw [if_neg fun h => h.2 own]
  · obtain ⟨rfl, -⟩ := answered
    rw [if_pos ⟨opened, other⟩]
    rfl

section Runs

variable {t : Tagger Tables} {request : Request} {answer : Answerer σ} {s : σ}

/-- What a request leaves if the tables are open. -/
theorem log_of_open (opened : t.tables.isSome = true) :
    ∃ later, ((request.work t).run.run answer s).log = request.warnings t answer s ++ later ∧
      (((request.work t).run.run answer s).value = .ok () →
        Signed request.socket request.entry ((request.work t).run.exchanges answer s) later) ∧
      ∀ e, ((request.work t).run.run answer s).value = .error e →
        Denied ((request.work t).run.exchanges answer s) later := by
  have leaves := Dialogue.leaves_run answer (request.work t).run s
  cases request with
  | tag r =>
      obtain ⟨front, back, warnings, later, said, left, permitting, signed, denied⟩ :=
        Tagger.tagSocket_of_leaves opened leaves
      have answered := Dialogue.answered_exchanges answer ((Request.tag r).work t).run s
      rw [said] at answered
      have told := permitting.warnings_eq opened answered
      exact ⟨later, by rw [← told, ← left], signed, denied⟩
  | untag socket =>
      have accounts := t.accounts_untagSocket opened socket
      refine ⟨_, rfl, fun succeeds => ?_, fun e fails => ?_⟩
      · rw [succeeds] at leaves
        exact (accounts.ok leaves).2
      · rw [fails] at leaves
        exact accounts.error leaves

/-- **A tagger without tables denies everything in silence.** -/
theorem log_of_closed (closed : t.tables.isSome = false) :
    (∃ e, ((request.work t).run.run answer s).value = .error e) ∧
      ((request.work t).run.run answer s).log = [] := by
  cases request with
  | tag r =>
      rw [Request.work, Tagger.tagSocket, Tagger.requireTables_of_closed closed]
      exact ⟨⟨.permissionDenied, rfl⟩, rfl⟩
  | untag socket =>
      have leaves := Dialogue.leaves_run answer (t.untagSocket socket).run s
      rw [Request.work]
      generalize ((t.untagSocket socket).run.run answer s).value = outcome at leaves ⊢
      generalize ((t.untagSocket socket).run.run answer s).log = lines at leaves ⊢
      simp only [Tagger.untagSocket, Tagger.requireTables_of_closed closed] at leaves
      obtain ⟨e, unread, rfl⟩ | ⟨cookie, front, back, left, right, -, rfl, read, denied⟩ :=
        Attempt.bind_of_leaves leaves
      · obtain ⟨rfl, -⟩ := readCookie_of_leaves unread
        exact ⟨⟨e, rfl⟩, rfl⟩
      · obtain ⟨rfl, -⟩ := readCookie_of_leaves read
        obtain ⟨-, rfl, rfl⟩ := denied
        exact ⟨⟨.permissionDenied, rfl⟩, rfl⟩

/-- A tagger without tables does not even warn. -/
theorem Request.warnings_of_closed (closed : t.tables.isSome = false) :
    request.warnings t answer s = [] := by
  cases request with
  | tag r => exact if_neg (by simp [closed])
  | untag socket => rfl

/-- A success is signed with the cookie that was told. -/
theorem log_of_ok (succeeds : ((request.work t).run.run answer s).value = .ok ()) :
    ∃ cookie, (⟨.socket (.cookie request.socket), .ok cookie⟩ : Exchange TagCall TagCall.Answer) ∈
        (request.work t).run.exchanges answer s ∧
      ((request.work t).run.run answer s).log =
        request.warnings t answer s ++ [request.entry cookie] := by
  cases opened : t.tables.isSome with
  | true =>
      obtain ⟨later, left, signed, -⟩ := log_of_open opened
      obtain ⟨cookie, told, rfl⟩ := signed succeeds
      exact ⟨cookie, told, left⟩
  | false =>
      obtain ⟨⟨e, fails⟩, -⟩ := log_of_closed opened
      cases succeeds.symm.trans fails

/-- A denial leaves one error, if the tables are open and the cookie was not withheld. -/
theorem log_of_denied {e : TagError} (opened : t.tables.isSome = true)
    (told : ¬ CookieUntold ((request.work t).run.exchanges answer s))
    (fails : ((request.work t).run.run answer s).value = .error e) :
    ∃ line : LogLine, line.level = .error ∧
      ((request.work t).run.run answer s).log = request.warnings t answer s ++ [line] := by
  obtain ⟨later, left, -, denied⟩ := log_of_open opened
  obtain ⟨untold, -⟩ | ⟨-, line, heavy, rfl⟩ := denied e fails
  · exact absurd untold told
  · exact ⟨line, heavy, left⟩

/-- The two silent denials. -/
theorem log_of_silent {e : TagError}
    (silent : t.tables.isSome = false ∨ CookieUntold ((request.work t).run.exchanges answer s))
    (fails : ((request.work t).run.run answer s).value = .error e) :
    ((request.work t).run.run answer s).log = request.warnings t answer s := by
  cases opened : t.tables.isSome with
  | true =>
      have untold := silent.resolve_left (by simp [opened])
      obtain ⟨later, left, -, denied⟩ := log_of_open opened
      obtain ⟨-, rfl⟩ | ⟨told, -⟩ := denied e fails
      · exact left.trans (List.append_nil _)
      · exact absurd untold told
  | false => exact (log_of_closed opened).2.trans (Request.warnings_of_closed opened).symm

end Runs

/-- **The trail of a request in the log.** Whoever answers, a request that succeeds leaves its
warnings and one line, which names the cookie that the socket told. A request that is denied leaves
its warnings and one error, except that it leaves no error if the tables are not open or the socket
did not tell its cookie. -/
theorem log_of_work (t : Tagger Tables) (request : Request) (answer : Answerer σ) (s : σ) :
    let run := (request.work t).run.run answer s
    let talk := (request.work t).run.exchanges answer s
    let warnings := request.warnings t answer s
    (run.value = .ok () → ∃ cookie,
      (⟨.socket (.cookie request.socket), .ok cookie⟩ : Exchange TagCall TagCall.Answer) ∈ talk ∧
        (request.entry cookie).level = .debug ∧ run.log = warnings ++ [request.entry cookie]) ∧
    (∀ e, run.value = .error e → t.tables.isSome = true → ¬ CookieUntold talk →
      ∃ line : LogLine, line.level = .error ∧ run.log = warnings ++ [line]) ∧
    (∀ e, run.value = .error e → (t.tables.isSome = false ∨ CookieUntold talk) →
      run.log = warnings) ∧
    (warnings = [] ∨ ∃ line : LogLine, line.level = .warn ∧ warnings = [line]) := by
  intro run talk warnings
  refine ⟨fun succeeds => ?_, ?_, ?_, request.warnings_cases t answer s⟩
  · obtain ⟨cookie, told, left⟩ := log_of_ok succeeds
    exact ⟨cookie, told, request.entry_level cookie, left⟩
  · intro e fails opened told
    exact log_of_denied opened told fails
  · intro e fails silent
    exact log_of_silent silent fails

/-- One who charges himself, and one who charges another where permissions cannot be read: the first
leaves his line, the second a warning and an error. -/
theorem log_of_work_warned :
    let t : Tagger Unit := ⟨some (), .default⟩
    let broken : FaultyTable UInt32 UInt8 := ⟨.empty 8, ⟨some 5, some 5, some 5, some 5⟩⟩
    let desk := Desk.small.withPermissions broken
    let own : Request := .tag ⟨3, 5, 10077, 10077⟩
    let other : Request := .tag ⟨3, 5, 10077, 10078⟩
    let log (request : Request) := ((request.work t).run.run Desk.answer desk).log
    (∃ cookie, log own = [own.entry cookie]) ∧
      ∃ warning line : LogLine, warning.level = .warn ∧ line.level = .error ∧
        log other = [warning, line] := by
  intro t broken desk own other log
  constructor
  · obtain ⟨succeeded, -⟩ := log_of_work t own Desk.answer desk
    obtain ⟨cookie, -, -, left⟩ := succeeded (by decide +kernel)
    exact ⟨cookie, left⟩
  · obtain ⟨-, denied, -, warned⟩ := log_of_work t other Desk.answer desk
    have told : ¬ CookieUntold ((other.work t).run.exchanges Desk.answer desk) :=
      not_cookieUntold_singleton (by simp)
    obtain ⟨line, heavy, left⟩ := denied .permissionDenied (by decide +kernel) rfl told
    obtain quiet | ⟨warning, light, one⟩ := warned
    · cases quiet
    · rw [one] at left
      exact ⟨warning, line, light, heavy, left⟩

/-- A socket that does not tell its cookie, and a tagger without tables: both deny the request and
leave nothing in the log. -/
theorem denied_in_silence :
    let opened : Tagger Unit := ⟨some (), .default⟩
    let withheld : Desk :=
      .empty 8 [(3, ⟨.ok familyInet, .ok protocolTcp, .error (.os ErrorCode.badDescriptor)⟩)]
    let own : TagRequest := ⟨3, 1, 5000, 5000⟩
    let refused := (opened.tagSocket own).run.run Desk.answer withheld
    let shut := ((Tagger.closed .default : Tagger Unit).tagSocket own).run.run Desk.answer .small
    refused.value = .error (.lookup ErrorCode.badDescriptor) ∧ refused.log = [] ∧
      shut.value = .error .permissionDenied ∧ shut.log = [] :=
  ⟨rfl, rfl, rfl, rfl⟩

end SocketAttribution
