import Mathlib.Data.List.Forall2
import SocketAttribution.Proofs.Dialogue.Exchange

/-!
# Courses of steps

Steps that are taken one after another come to their end if each of them is done, and to the end of
the first that fails if one does. What a step has to say when it is done, and when it fails, is left
open here.

## Main definitions

* `Course`: what is said while steps are taken, and how they end.
* `ending`: how an attempt ended, whatever value it had.

## Main statements

* `Course.ok_iff`: steps end well if and only if each is done.
* `Course.error_iff`: they end with an error if and only if it is that of the first step to fail.
* `Course.append`, `Course.append_cases`: the course of steps behind others.
* `Course.step_of_said`: whatever is said belongs to a step, and those before it are done.
* `Course.map`, `Course.of_map`: the course of steps seen as steps of another kind.
* `Course.of_bind`, `Course.exists_bind`: attempts that take the course of steps.
-/

namespace SocketAttribution

variable {Step Part Word Word' ε ε' : Type}

/-- What is said while steps are taken one after another, and how they end: behind a step that is
done the others follow, and behind one that fails nothing. -/
inductive Course (Done : Step → List Word → Prop) (Fails : Step → List Word → ε → Prop) :
    List Step → List Word → Except ε Unit → Prop where
  | nil : Course Done Fails [] [] (.ok ())
  | done {step : Step} {rest : List Step} {said talk : List Word} {outcome : Except ε Unit}
    (full : Done step said) (behind : Course Done Fails rest talk outcome) :
    Course Done Fails (step :: rest) (said ++ talk) outcome
  | failed {step : Step} {rest : List Step} {said : List Word} {e : ε}
    (fails : Fails step said e) : Course Done Fails (step :: rest) said (.error e)

namespace Course

variable {Done : Step → List Word → Prop} {Fails : Step → List Word → ε → Prop}
  {steps later : List Step} {talk back : List Word} {outcome : Except ε Unit} {e : ε}

/-- **Steps end well if and only if each is done.** -/
theorem ok_iff : Course Done Fails steps talk (.ok ()) ↔
    ∃ parts, talk = parts.flatten ∧ List.Forall₂ Done steps parts := by
  constructor
  · intro run
    generalize ends : Except.ok () = outcome at run
    induction run with
    | nil => exact ⟨[], rfl, .nil⟩
    | @done step rest said talk outcome full behind ih =>
        obtain ⟨parts, rfl, all⟩ := ih ends
        exact ⟨said :: parts, rfl, .cons full all⟩
    | failed fails => cases ends
  · rintro ⟨parts, rfl, all⟩
    induction all with
    | nil => exact .nil
    | cons full all ih => exact .done full ih

/-- **Steps end with an error if and only if it is that of the first step to fail.** -/
theorem error_iff : Course Done Fails steps talk (.error e) ↔
    ∃ before step after parts said, steps = before ++ step :: after ∧
      talk = parts.flatten ++ said ∧ List.Forall₂ Done before parts ∧ Fails step said e := by
  constructor
  · intro run
    generalize ends : Except.error e = outcome at run
    induction run with
    | nil => cases ends
    | @done step rest said talk outcome full behind ih =>
        obtain ⟨before, own, after, parts, last, rfl, rfl, all, fails⟩ := ih ends
        exact ⟨step :: before, own, after, said :: parts, last, rfl, (List.append_assoc ..).symm,
          .cons full all, fails⟩
    | @failed step rest said e fails =>
        cases ends
        exact ⟨[], step, rest, [], said, rfl, rfl, .nil, fails⟩
  · rintro ⟨before, step, after, parts, said, rfl, rfl, all, fails⟩
    induction all with
    | nil => exact .failed fails
    | @cons own part before parts full all ih =>
        rw [List.flatten_cons, List.append_assoc]
        exact .done full ih

/-- Steps behind others that end well. -/
theorem append (first : Course Done Fails steps talk (.ok ()))
    (second : Course Done Fails later back outcome) :
    Course Done Fails (steps ++ later) (talk ++ back) outcome := by
  generalize ends : Except.ok () = result at first
  induction first with
  | nil => exact second
  | @done step rest said talk _ full behind ih =>
      rw [List.append_assoc]
      exact .done full (ih ends)
  | failed fails => cases ends

/-- Steps behind others that fail are not taken. -/
theorem append_of_error (first : Course Done Fails steps talk (.error e)) (later : List Step) :
    Course Done Fails (steps ++ later) talk (.error e) := by
  obtain ⟨before, step, after, parts, said, rfl, rfl, all, fails⟩ := error_iff.1 first
  exact error_iff.2 ⟨before, step, after ++ later, parts, said, List.append_assoc .., rfl, all,
    fails⟩

/-- **Steps behind others**: the others fail, or they end well and these follow. -/
theorem append_cases (run : Course Done Fails (steps ++ later) talk outcome) :
    (∃ e, outcome = .error e ∧ Course Done Fails steps talk (.error e)) ∨
      ∃ front back, talk = front ++ back ∧ Course Done Fails steps front (.ok ()) ∧
        Course Done Fails later back outcome := by
  induction steps generalizing talk with
  | nil => exact .inr ⟨[], talk, rfl, .nil, run⟩
  | cons step rest ih =>
      cases run with
      | @done _ _ said talk _ full behind =>
          obtain ⟨e, rfl, failed⟩ | ⟨front, back, rfl, first, second⟩ := ih behind
          · exact .inl ⟨e, rfl, .done full failed⟩
          · exact .inr ⟨said ++ front, back, (List.append_assoc ..).symm, .done full first, second⟩
      | failed fails => exact .inl ⟨_, rfl, .failed fails⟩

/-- **Whatever is said belongs to a step**, and the steps before that one are done by then. -/
theorem step_of_said {front : List Word} {word : Word}
    (run : Course Done Fails steps (front ++ word :: back) outcome) :
    ∃ before step after parts ahead behind, steps = before ++ step :: after ∧
      front = parts.flatten ++ ahead ∧ List.Forall₂ Done before parts ∧
        (Done step (ahead ++ word :: behind) ∨ ∃ e, Fails step (ahead ++ word :: behind) e) := by
  generalize whole : front ++ word :: back = talk at run
  induction run generalizing front with
  | nil => simp at whole
  | @done step rest said talk outcome full behind ih =>
      rcases eq_append_cons_cases whole.symm with ⟨later, rfl, rfl⟩ | ⟨earlier, rfl, rest⟩
      · exact ⟨[], step, _, [], front, later, rfl, rfl, .nil, .inl full⟩
      · obtain ⟨before, own, after, parts, ahead, last, rfl, rfl, all, spoken⟩ := ih rest.symm
        exact ⟨step :: before, own, after, said :: parts, ahead, last, rfl,
          (List.append_assoc ..).symm, .cons full all, spoken⟩
  | @failed step rest said e fails =>
      subst whole
      exact ⟨[], step, rest, [], front, back, rfl, rfl, .nil, .inr ⟨e, fails⟩⟩

section Map

variable {Done' : Part → List Word' → Prop} {Fails' : Part → List Word' → ε' → Prop}
  {parts : List Part} {said : List Word'} {result : Except ε' Unit}
  {step : Part → Step} {word : Word' → Word} {error : ε' → ε}

/-- Steps of one kind, seen as steps of another. -/
theorem map (full : ∀ part said, Done' part said → Done (step part) (said.map word))
    (fails : ∀ part said e, Fails' part said e → Fails (step part) (said.map word) (error e))
    (run : Course Done' Fails' parts said result) :
    Course Done Fails (parts.map step) (said.map word) (result.mapError error) := by
  induction run with
  | nil => exact .nil
  | done own behind ih =>
      rw [List.map_append]
      exact .done (full _ _ own) ih
  | failed own => exact .failed (fails _ _ _ own)

/-- What steps of one kind are, seen as steps of another, they are among their own. -/
theorem of_map (full : ∀ part said, Done (step part) said →
      ∃ said', said = said'.map word ∧ Done' part said')
    (fails : ∀ part said e, Fails (step part) said e →
      ∃ said' e', said = said'.map word ∧ e = error e' ∧ Fails' part said' e')
    (run : Course Done Fails (parts.map step) talk outcome) :
    ∃ said result, talk = said.map word ∧ outcome = result.mapError error ∧
      Course Done' Fails' parts said result := by
  induction parts generalizing talk with
  | nil =>
      cases run
      exact ⟨[], .ok (), rfl, rfl, .nil⟩
  | cons part parts ih =>
      cases run with
      | done own behind =>
          obtain ⟨said, rfl, done⟩ := full _ _ own
          obtain ⟨rest, result, rfl, rfl, follows⟩ := ih behind
          exact ⟨said ++ rest, result, List.map_append.symm, rfl, .done done follows⟩
      | failed own =>
          obtain ⟨said, e, rfl, rfl, failed⟩ := fails _ _ _ own
          exact ⟨said, .error e, rfl, rfl, .failed failed⟩

end Map

end Course

/-! ## Attempts as courses -/

/-- How an attempt ended, whatever value it had. -/
def ending {α : Type} (outcome : Except ε α) : Except ε Unit := outcome.map fun _ => ()

section Ending

variable {α : Type} {outcome : Except ε α}

theorem ending_eq_ok_iff : ending outcome = .ok () ↔ ∃ value, outcome = .ok value := by
  cases outcome <;> simp [ending, Except.map]

/-- Without a value worth a name, an outcome is how an attempt ended. -/
@[simp] theorem ending_unit (outcome : Except ε Unit) : ending outcome = outcome := by
  cases outcome <;> rfl

theorem ending_eq_error_iff {e : ε} : ending outcome = .error e ↔ outcome = .error e := by
  cases outcome <;> simp [ending, Except.map]

end Ending

namespace Course

variable {Call : Type} {Answer : Call → Type} {α β : Type}
  {Done : Step → List (Exchange Call Answer) → Prop}
  {Fails : Step → List (Exchange Call Answer) → ε → Prop}
  {step : Step} {rest : List Step} {talk : List (Exchange Call Answer)}
  {first : Attempt Call Answer ε α} {next : α → Attempt Call Answer ε β}

/-- An attempt at one step before attempts at others takes the course of all of them. -/
theorem of_bind {outcome : Except ε β}
    (full : ∀ said value, first.run.Yields said (.ok value) → Done step said)
    (fails : ∀ said e, first.run.Yields said (.error e) → Fails step said e)
    (behind : ∀ value back, (next value).run.Yields back outcome →
      Course Done Fails rest back (ending outcome))
    (yields : (first >>= next).run.Yields talk outcome) :
    Course Done Fails (step :: rest) talk (ending outcome) := by
  obtain ⟨e, failed, rfl⟩ | ⟨value, front, back, rfl, done, later⟩ :=
    Attempt.bind_of_yields yields
  · exact .failed (fails _ _ failed)
  · exact .done (full _ _ done) (behind _ _ later)

/-- A course can be taken by an attempt at its first step before attempts at the others. -/
theorem exists_bind {ends : Except ε Unit} {P : α → Prop}
    (full : ∀ said, Done step said → ∃ value, P value ∧ first.run.Yields said (.ok value))
    (fails : ∀ said e, Fails step said e → first.run.Yields said (.error e))
    (behind : ∀ value back, P value → Course Done Fails rest back ends →
      ∃ outcome, (next value).run.Yields back outcome ∧ ending outcome = ends)
    (run : Course Done Fails (step :: rest) talk ends) :
    ∃ outcome, (first >>= next).run.Yields talk outcome ∧ ending outcome = ends := by
  cases run with
  | done own later =>
      obtain ⟨value, fit, done⟩ := full _ own
      obtain ⟨outcome, follows, same⟩ := behind _ _ fit later
      exact ⟨outcome, Attempt.yields_bind_of_ok done follows, same⟩
  | @failed _ _ _ e own =>
      exact ⟨.error e, Attempt.yields_bind_of_error (fails _ _ own), rfl⟩

end Course

end SocketAttribution
