import SocketAttribution.Proofs.Dialogue.Muted

/-!
# Answers that a program cannot tell apart

Two that answer calls, each out of states of its own kind, may differ as they like on calls that a
program never makes: its runs over them are the same. What a program does not depend on is thereby
shown by the calls that it may make, and two runs need not be followed side by side.

## Main definitions

* `AnswerAlike`: two that answer calls of a kind in the same way.
* `Transcript.Matches`: two runs that are the same up to the states that they end in.

## Main statements

* `answerAlike_of_aside`: what calls do not look at.
* `Dialogue.Asks.run_matches`: a program that makes only such calls has matching runs.
-/

namespace SocketAttribution

variable {Call : Type} {Answer : Call → Type} {α σ τ : Type}

/-- On calls of a kind, from related states, both give the same answers, and go on to related
states. -/
def AnswerAlike (kind : Call → Prop) (answer : (c : Call) → σ → Answer c × σ)
    (answer' : (c : Call) → τ → Answer c × τ) (R : σ → τ → Prop) : Prop :=
  ∀ c, kind c → ∀ s t, R s t → (answer c s).1 = (answer' c t).1 ∧ R (answer c s).2 (answer' c t).2

/-- Whatever is laid aside, calls that are answered past it and leave it where it is do not tell
what it is. -/
theorem answerAlike_of_aside {kind : Call → Prop} {answer : (c : Call) → σ → Answer c × σ}
    {lay lay' : σ → σ} (aside : ∀ c, kind c → ∀ s, answer c (lay s) = (answer c s).map id lay)
    (aside' : ∀ c, kind c → ∀ s, answer c (lay' s) = (answer c s).map id lay') :
    AnswerAlike kind answer answer fun s s' => ∃ rest, s = lay rest ∧ s' = lay' rest := by
  rintro c member _ _ ⟨rest, rfl, rfl⟩
  rw [aside c member, aside' c member]
  exact ⟨rfl, (answer c rest).2, rfl, rfl⟩

/-- Two runs with one value, the same calls and the same log, which end in related states. -/
structure Transcript.Matches (R : σ → τ → Prop) (run : Transcript Call σ α)
    (run' : Transcript Call τ α) : Prop where
  value : run.value = run'.value
  calls : run.calls = run'.calls
  log : run.log = run'.log
  state : R run.state run'.state

/-- **A program has the same run over two that answer its calls alike.** -/
theorem Dialogue.Asks.run_matches {kind : Call → Prop} {answer : (c : Call) → σ → Answer c × σ}
    {answer' : (c : Call) → τ → Answer c × τ} {R : σ → τ → Prop} {d : Dialogue Call Answer α}
    (asks : d.Asks kind) (alike : AnswerAlike kind answer answer' R) {s : σ} {t : τ}
    (related : R s t) : (d.run answer s).Matches R (d.run answer' t) := by
  induction d generalizing s t with
  | done value => exact ⟨rfl, rfl, rfl, related⟩
  | log line rest ih =>
      obtain ⟨value, calls, log, state⟩ := ih asks related
      exact ⟨value, calls, congrArg (line :: ·) log, state⟩
  | ask c resume ih =>
      obtain ⟨told, onward⟩ := alike c asks.1 s t related
      obtain ⟨value, calls, log, state⟩ := ih (answer' c t).1 (asks.2 _) onward
      rw [run_ask, run_ask, told]
      exact ⟨value, congrArg (c :: ·) calls, log, state⟩

end SocketAttribution
