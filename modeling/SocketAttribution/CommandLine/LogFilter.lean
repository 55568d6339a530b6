import SocketAttribution.Log
import SocketAttribution.Text.Blank
import SocketAttribution.Text.Pieces

/-!
# Log filters

Which lines of the log are shown, as the user asks for it in a text like
`info,traffic_tagger::hooks=debug/attached`.

## Main definitions

* `Rule`: how heavy the lines of some parts of the agent must be.
* `LogFilter`: rules, and a phrase that a line must hold.
* `LogFilter.Admits`: the lines that are shown.
* `LogFilter.ofText`: the filter that a text asks for.

## Design notes

A rule speaks of all parts whose names begin in a certain way. Of the rules that speak of a part the
one that names the most of it decides, and of equal ones the last. A part that no rule speaks of is
silent. What is no rule is passed over with a complaint.
-/

namespace SocketAttribution.CommandLine

/-- How heavy the lines of some parts of the agent must be. -/
structure Rule where
  /-- How the names of the parts begin; nothing, if the rule speaks of all. -/
  target : Option (List Char)
  /-- The rank of the lightest lines that are let through; none has rank zero. -/
  rank : Nat
  deriving DecidableEq, Repr

namespace Rule

/-- How the names of the parts begin that the rule speaks of. -/
def beginning (r : Rule) : List Char := r.target.getD []

/-- Whether the rule speaks of a part. -/
def speaksOf (r : Rule) (origin : Origin) : Bool :=
  r.beginning.isPrefixOf origin.target.toList

/-- The rule that names the most; of equal ones the last. -/
def longest? : List Rule → Option Rule
  | [] => none
  | r :: later =>
    match longest? later with
    | none => some r
    | some other => if other.beginning.length < r.beginning.length then some r else some other

/-- The rule that decides on a part. -/
def deciding? (origin : Origin) (rules : List Rule) : Option Rule :=
  longest? (rules.filter (·.speaksOf origin))

/-- The rules with another one, which replaces the one that speaks of the same parts. -/
def put (r : Rule) : List Rule → List Rule
  | [] => [r]
  | old :: later => if old.target = r.target then r :: later else old :: put r later

/-- Only where there is no rule does none name the most. -/
theorem eq_nil_of_longest {rules : List Rule} (h : longest? rules = none) : rules = [] := by
  cases rules with
  | nil => rfl
  | cons r later =>
    rw [longest?] at h
    repeat' split at h
    all_goals cases h

/-- The rule that names the most is one of the rules, and no other names more. -/
theorem mem_of_longest {rules : List Rule} {r : Rule} (h : longest? rules = some r) :
    r ∈ rules ∧ ∀ other ∈ rules, other.beginning.length ≤ r.beginning.length := by
  induction rules generalizing r with
  | nil => cases h
  | cons first later ih =>
    rw [longest?] at h
    split at h
    next nothing =>
      cases h
      simp [eq_nil_of_longest nothing]
    next best found =>
      obtain ⟨there, most⟩ := ih found
      split at h
      next longer =>
        cases h
        refine ⟨List.mem_cons_self, fun other inside => ?_⟩
        rcases List.mem_cons.mp inside with rfl | inside
        · exact Nat.le_refl _
        · exact Nat.le_trans (most other inside) (Nat.le_of_lt longer)
      next notLonger =>
        cases h
        refine ⟨List.mem_cons_of_mem _ there, fun other inside => ?_⟩
        rcases List.mem_cons.mp inside with rfl | inside
        · exact Nat.le_of_not_lt notLonger
        · exact most other inside

/-- **The rule that decides on a part speaks of it, and none that does names more of it.** -/
theorem speaksOf_of_deciding {origin : Origin} {rules : List Rule} {r : Rule}
    (h : deciding? origin rules = some r) :
    (r ∈ rules ∧ r.speaksOf origin = true) ∧
      ∀ other ∈ rules, other.speaksOf origin = true →
        other.beginning.length ≤ r.beginning.length :=
  ⟨List.mem_filter.mp (mem_of_longest h).1, fun other there heard =>
    (mem_of_longest h).2 other (List.mem_filter.mpr ⟨there, heard⟩)⟩

end Rule

/-- Which lines of the log are shown. -/
structure LogFilter where
  rules : List Rule
  /-- What the text of a line must hold. -/
  phrase : List Char
  deriving DecidableEq, Repr

namespace LogFilter

/-- Whether a text holds a phrase. -/
def holds (phrase : List Char) : List Char → Bool
  | [] => phrase.isEmpty
  | c :: rest => phrase.isPrefixOf (c :: rest) || holds phrase rest

/-- Whether a line is shown. -/
def Admits (f : LogFilter) (line : LogLine) : Prop :=
  (∃ r, Rule.deciding? line.origin f.rules = some r ∧ line.level.rank ≤ r.rank) ∧
    holds f.phrase line.text.toList = true

/-- A line is shown if the rule that decides on its part lets it through. -/
theorem admits_iff {f : LogFilter} {line : LogLine} :
    f.Admits line ↔
      (Rule.deciding? line.origin f.rules).any (fun r => line.level.rank ≤ r.rank) = true ∧
        holds f.phrase line.text.toList = true := by
  cases h : Rule.deciding? line.origin f.rules <;> simp [Admits, h]

instance (f : LogFilter) (line : LogLine) : Decidable (f.Admits line) :=
  decidable_of_iff _ admits_iff.symm

/-! ## Reading -/

/-- The ranks of the levels by their names, in lower case. -/
def ranks : List (String × Nat) :=
  [("off", 0), ("error", 1), ("warn", 2), ("info", 3), ("debug", 4), ("trace", 5)]

/-- The rank of the lightest lines there are. -/
def lightest : Nat := 5

/-- The rank of a level by its name in any case. -/
def rankOf? (name : List Char) : Option Nat := ranks.lookup (String.ofList (name.map Char.toLower))

/-- The complaint about what is no rule. -/
def complaint (text : List Char) : String := s!"invalid logging spec '{String.ofList text}'"

/-- Reads a rule: a level for all parts, a name for all lines of some parts, or a name with a level
behind an equals sign. -/
def readRule (text : List Char) : Except String Rule :=
  match Text.pieces (· == '=') text with
  | [word] =>
    match rankOf? word with
    | some rank => .ok ⟨none, rank⟩
    | none => .ok ⟨some word, lightest⟩
  | [name, level] =>
    match Text.trim level with
    | [] => .ok ⟨some name, lightest⟩
    | level =>
      match rankOf? level with
      | some rank => .ok ⟨some name, rank⟩
      | none => .error (complaint level)
  | _ => .error (complaint text)

/-- The filter with one more rule, or the complaints with one more. -/
def addRule (state : List Rule × List String) (text : List Char) : List Rule × List String :=
  match readRule text with
  | .ok r => (r.put state.1, state.2)
  | .error e => (state.1, state.2 ++ [e])

/-- Reads the rules of a text, which stand between commas. -/
def readRules (text : List Char) : List Rule × List String :=
  (((Text.pieces (· == ',') text).map Text.trim).filter (· ≠ [])).foldl addRule ([], [])

/-- The filter of some rules; without any, errors are shown. -/
def ofRules (phrase : List Char) (rules : List Rule) : LogFilter :=
  ⟨if rules.isEmpty then [⟨none, Level.error.rank⟩] else rules, phrase⟩

/-- The filter that a text asks for, and the complaints about what is wrong with the text. -/
def ofText (text : String) : LogFilter × List String :=
  match Text.pieces (· == '/') text.toList with
  | [rules] => (ofRules [] (readRules rules).1, (readRules rules).2)
  | [rules, phrase] => (ofRules phrase (readRules rules).1, (readRules rules).2)
  | _ => (ofRules [] [], [complaint text.toList ++ " (too many '/'s)"])

/-- The filter where none is asked for. -/
def default : LogFilter := ofRules [] [⟨none, Level.info.rank⟩]

/-- The filter of a process that may be told one, and the complaints about it. -/
def ofSetting : Option String → LogFilter × List String
  | some text => ofText text
  | none => (default, [])

end LogFilter

end SocketAttribution.CommandLine
