import SocketAttribution.Text.Utf8

/-!
# Control sequences

A text may hold characters that a terminal obeys and does not show: single control characters, and
the sequences that an escape character begins. On a stream that leads to no terminal they are left
out, and `visible` is what remains.

## Main definitions

* `Phase`: how far a sequence has come.
* `Reader`: a phase, and whether characters are being shown.
* `visible`: the characters of a text that are shown.

## Design notes

A sequence is interrupted by a tab or a line break, if it has not turned into a text of its own:
the break is shown, and so is what follows, up to the next control character. The sequence goes on
from there.
-/

namespace SocketAttribution.Text

/-- How far a sequence has come. -/
inductive Phase where
  /-- There is no sequence. -/
  | ground
  /-- Behind the escape character. -/
  | escape
  | escapeIntermediate
  /-- Behind an opening bracket. -/
  | start
  | parameters
  | intermediate
  /-- In a sequence that means nothing. -/
  | malformed
  /-- In the head of a text for a device. -/
  | deviceStart
  | deviceParameters
  | deviceIntermediate
  /-- In a text for a device, or in any other that is passed over to its end. -/
  | message
  /-- In a command to the system behind the terminal. -/
  | command
  deriving DecidableEq, Repr

/-- Whether a character breaks a line or moves on in it. -/
def isBreak (c : Char) : Bool := c = '\t' || c = '\n' || c = '\x0c' || c = '\r'

namespace Phase

/-- Whether a number lies between two bounds. -/
def within (low high n : Nat) : Bool := low ≤ n && n ≤ high

/-- What the character behind an escape character begins. -/
def opened (n : Nat) : Phase :=
  if within 0x20 0x2F n then .escapeIntermediate
  else if n = 0x5B then .start
  else if n = 0x50 then .deviceStart
  else if n = 0x5D then .command
  else if n = 0x58 ∨ n = 0x5E ∨ n = 0x5F then .message
  else if within 0x30 0x7E n then .ground
  else .escape

/-- The phase behind a character that is not shown. Two characters end whatever sequence there is,
and an escape character begins another. -/
def next (phase : Phase) (c : Char) : Phase :=
  let n := c.toNat
  if n = 0x18 ∨ n = 0x1A then .ground
  else if n = 0x1B then .escape
  else
    match phase with
    | .ground => .ground
    | .escape => opened n
    | .escapeIntermediate => if within 0x30 0x7E n then .ground else .escapeIntermediate
    | .start =>
      if within 0x20 0x2F n then .intermediate
      else if within 0x30 0x3F n then .parameters
      else if within 0x40 0x7E n then .ground
      else .start
    | .parameters =>
      if within 0x20 0x2F n then .intermediate
      else if within 0x3C 0x3F n then .malformed
      else if within 0x40 0x7E n then .ground
      else .parameters
    | .intermediate =>
      if within 0x30 0x3F n then .malformed
      else if within 0x40 0x7E n then .ground
      else .intermediate
    | .malformed => if within 0x40 0x7E n then .ground else .malformed
    | .deviceStart =>
      if within 0x20 0x2F n then .deviceIntermediate
      else if within 0x30 0x3F n then .deviceParameters
      else if within 0x40 0x7E n then .message
      else .deviceStart
    | .deviceParameters =>
      if within 0x20 0x2F n then .deviceIntermediate
      else if within 0x3C 0x7E n then .message
      else .deviceParameters
    | .deviceIntermediate => if within 0x30 0x7E n then .message else .deviceIntermediate
    | .message => if (Utf8.encodeChar c).contains 0x9C then .ground else .message
    | .command => if n = 0x07 then .ground else .command

/-- Whether a character is shown. Outside of sequences the characters of ASCII that control are
not, apart from breaks. -/
def shows (phase : Phase) (c : Char) : Bool :=
  match phase with
  | .ground => isBreak c || (0x20 ≤ c.toNat && c.toNat ≠ 0x7F)
  | .escape | .escapeIntermediate | .start | .parameters | .intermediate | .malformed => isBreak c
  | .deviceStart | .deviceParameters | .deviceIntermediate | .message | .command => false

end Phase

/-- How far a stream has been read. -/
structure Reader where
  phase : Phase
  /-- Whether the last character was shown; then the next is judged as if there were no sequence. -/
  showing : Bool
  deriving DecidableEq, Repr

namespace Reader

/-- The start of a stream. -/
def fresh : Reader := ⟨.ground, false⟩

/-- Whether the next character is shown. -/
def shows (r : Reader) (c : Char) : Bool := (if r.showing then Phase.ground else r.phase).shows c

/-- The reader behind a character. One beyond ASCII that is shown ends an interrupted sequence. -/
def after (r : Reader) (c : Char) : Reader :=
  if r.shows c then ⟨if c.toNat < 0x80 then r.phase else .ground, true⟩
  else ⟨r.phase.next c, false⟩

/-- The characters that are shown from here on. -/
def visible : Reader → List Char → List Char
  | _, [] => []
  | r, c :: rest => if r.shows c then c :: (r.after c).visible rest else (r.after c).visible rest

/-- Outside of sequences a character is judged in one way, whatever was shown before. -/
theorem shows_of_ground {r : Reader} (h : r.phase = .ground) (c : Char) :
    r.shows c = Phase.ground.shows c := by
  rw [shows, h, ite_self]

/-- A character that is shown outside of sequences leads into none. -/
theorem phase_after {r : Reader} (h : r.phase = .ground) {c : Char}
    (hc : Phase.ground.shows c = true) : (r.after c).phase = .ground := by
  rw [after, if_pos ((shows_of_ground h c).trans hc), h, ite_self]

/-- **A text without control characters is visible as a whole.** -/
theorem visible_eq_self {r : Reader} (h : r.phase = .ground) {s : List Char}
    (hs : ∀ c ∈ s, Phase.ground.shows c = true) : r.visible s = s := by
  induction s generalizing r with
  | nil => rfl
  | cons c rest ih =>
    have hc : Phase.ground.shows c = true := hs c (by simp)
    rw [visible, if_pos ((shows_of_ground h c).trans hc),
      ih (phase_after h hc) fun d hd => hs d (by simp [hd])]

end Reader

/-- The characters of a text that are shown. -/
def visible (s : List Char) : List Char := Reader.fresh.visible s

/-- **A text without control characters is visible as a whole.** -/
theorem visible_eq_self {s : List Char} (h : ∀ c ∈ s, Phase.ground.shows c = true) :
    visible s = s :=
  Reader.visible_eq_self rfl h

/-- **Nothing is visible that the text does not hold.** -/
theorem visible_sublist (s : List Char) : (visible s).Sublist s := by
  have main (r : Reader) : (r.visible s).Sublist s := by
    induction s generalizing r with
    | nil => exact List.Sublist.refl _
    | cons c rest ih =>
      rw [Reader.visible]
      split
      · exact (ih _).cons_cons c
      · exact (ih _).cons c
  exact main _

/-- A text that a terminal is to show in another style. -/
def emphasised (s : String) : String := "\x1b[1m" ++ s ++ "\x1b[0m"

end SocketAttribution.Text
