import SocketAttribution.Table.Error

/-!
# Table calls

A table is a key-value store that others may change at any time. This module holds the four things
that can be asked of one.

## Main definitions

* `TableCall`, `TableCall.Answer`: a question and its type of answer.
* `Walk`: the keys that a walk through a table met, and the error that cut it short, if one did.
-/

namespace SocketAttribution

/-- A walk through the keys of a table. -/
structure Walk (K : Type) where
  /-- The keys met, in the order of the walk. -/
  visited : List K
  /-- The error that cut the walk short. -/
  failure : Option TableError
  deriving DecidableEq, Repr

namespace Walk

variable {K : Type}

/-- The walk that met keys and came to its end. -/
def complete (keys : List K) : Walk K := ⟨keys, none⟩

/-- The keys of a table, if the walk came to its end. -/
def keys (walk : Walk K) : Except TableError (List K) :=
  match walk.failure with
  | none => .ok walk.visited
  | some e => .error e

@[simp] theorem keys_complete (keys : List K) : (complete keys).keys = .ok keys := rfl

@[simp] theorem keys_cut (visited : List K) (e : TableError) :
    (Walk.mk visited (some e)).keys = .error e := rfl

end Walk

/-- What can be asked of a table. -/
inductive TableCall (K V : Type) where
  /-- The value at a key. -/
  | get (key : K)
  /-- A walk through all keys. -/
  | scan
  /-- Puts a value at a key, whether it is there or not. -/
  | upsert (key : K) (value : V)
  /-- Removes a key; one that is not there is removed already. -/
  | delete (key : K)
  deriving DecidableEq, Repr

/-- What a table answers. -/
abbrev TableCall.Answer {K V : Type} : TableCall K V → Type
  | .get _ => Except TableError (Option V)
  | .scan => Walk K
  | .upsert _ _ => Except TableError Unit
  | .delete _ => Except TableError Unit

/-- The answer of a table that cannot be reached. -/
def TableCall.refuse {K V : Type} (e : TableError) : (call : TableCall K V) → call.Answer
  | .get _ => .error e
  | .scan => ⟨[], some e⟩
  | .upsert _ _ => .error e
  | .delete _ => .error e

end SocketAttribution
