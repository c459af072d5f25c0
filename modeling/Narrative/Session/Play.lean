import Narrative.Session.Notice

/-!
# Session.Play — operations on a session

A `Play ε α` reads the world, changes the state, leaves a trace, and ends with an `α` or fails
with an `ε`. What was done before a failure stays done: state and trace are part of every outcome.
-/

namespace Narrative

/-- What an operation comes to. -/
structure Outcome (ε α : Type) where
  result : Except ε α
  state : State
  trace : Trace

/-- An operation on the state of a session over a world. -/
def Play (ε α : Type) : Type := World → State → Outcome ε α

namespace Play

variable {ε ε' α β : Type}

/-- Yields a value and does nothing. -/
protected def pure (value : α) : Play ε α := fun _ state => ⟨.ok value, state, []⟩

/-- Goes on with the value of the first operation, unless that failed. -/
protected def bind (first : Play ε α) (next : α → Play ε β) : Play ε β := fun world state =>
  match first world state with
  | ⟨.error error, state, trace⟩ => ⟨.error error, state, trace⟩
  | ⟨.ok value, state, trace⟩ =>
    let after := next value world state
    { after with trace := trace ++ after.trace }

instance : Monad (Play ε) where
  pure := Play.pure
  bind := Play.bind

def fail (error : ε) : Play ε α := fun _ state => ⟨.error error, state, []⟩

def world : Play ε World := fun world state => ⟨.ok world, state, []⟩

def state : Play ε State := fun _ state => ⟨.ok state, state, []⟩

def update (change : State → State) : Play ε Unit := fun _ state =>
  let next := change state
  ⟨.ok (), next, [⟨.change, next⟩]⟩

def emit (event : Event) : Play ε Unit := fun _ state =>
  ⟨.ok (), state, [⟨.event event, state⟩]⟩

def note (notice : Notice) : Play ε Unit := fun _ state =>
  ⟨.ok (), state, [⟨.notice notice, state⟩]⟩

/-- Runs an operation and yields how it ended instead of failing. -/
def attempt (play : Play ε α) : Play ε' (Except ε α) := fun world state =>
  let outcome := play world state
  { outcome with result := .ok outcome.result }

/-- Yields the value of a result, or fails with its error. -/
def ofExcept (result : Except ε α) : Play ε α :=
  match result with
  | .ok value => Play.pure value
  | .error error => fail error

/-- Fails with another kind of error. -/
def mapError (f : ε → ε') (play : Play ε α) : Play ε' α := fun world state =>
  let outcome := play world state
  { outcome with result := outcome.result.mapError f }

/-- The notice that a remark on a guard is worth. Counting a known item is worth none. -/
def noticeOf? (world : World) : Remark → Option Notice
  | .counted item => if world.graph.hasItem item then none else some (.countedUnknownItem item)
  | .failed source error => some (.guardFailed source error)

/-- Writes the remarks on guards to the log. -/
def noteRemarks (remarks : List Remark) : Play ε Unit := fun world state =>
  ⟨.ok (), state, (remarks.filterMap (noticeOf? world)).map fun notice => ⟨.notice notice, state⟩⟩

end Play

end Narrative
