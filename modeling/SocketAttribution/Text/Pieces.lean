/-!
# Pieces of a text

What stands between the marks in a text: there is one piece more than there are marks, and a piece
may be empty.
-/

namespace SocketAttribution.Text

variable {α : Type}

/-- What stands between the marks. -/
def pieces (isMark : α → Bool) : List α → List (List α)
  | [] => [[]]
  | c :: rest =>
    if isMark c then [] :: pieces isMark rest
    else match pieces isMark rest with
      | [] => [[c]]
      | piece :: later => (c :: piece) :: later

@[simp] theorem pieces_nil (isMark : α → Bool) : pieces isMark [] = [[]] := rfl

/-- **There is always a piece.** -/
theorem pieces_ne_nil (isMark : α → Bool) (s : List α) : pieces isMark s ≠ [] := by
  cases s with
  | nil => simp
  | cons c rest =>
    rw [pieces]
    split
    · simp
    · split <;> simp

/-- **A text without marks is its own only piece.** -/
theorem pieces_of_unmarked {isMark : α → Bool} {s : List α} (h : ∀ c ∈ s, isMark c = false) :
    pieces isMark s = [s] := by
  induction s with
  | nil => rfl
  | cons c rest ih => simp [pieces, h c (by simp), ih fun d hd => h d (by simp [hd])]

/-- **The piece in front of a mark ends there.** -/
theorem pieces_append {isMark : α → Bool} {s : List α} (h : ∀ c ∈ s, isMark c = false) {mark : α}
    (hm : isMark mark = true) (rest : List α) :
    pieces isMark (s ++ mark :: rest) = s :: pieces isMark rest := by
  induction s with
  | nil => simp [pieces, hm]
  | cons c s ih => simp [pieces, h c (by simp), ih fun d hd => h d (by simp [hd])]

end SocketAttribution.Text
