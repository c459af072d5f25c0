import Narrative.Session.Notice

/-!
# Session.Subscription — who is told of events

Subscribers stand beside a session: they turn its events into deliveries and have no influence on
it. Each has an identifier and listens to one kind of event. Every kind has a list of its own; the
identifiers are shared. They are numbers of 64 bits that are given one after the other, so none is
given again before all of them have been given.
-/

namespace Narrative

/-- The kinds of events. -/
inductive EventKind where
  | screenChanged
  | choiceSelected
  | messageChanged
  | questFinished
deriving DecidableEq, Repr

/-- In the order in which a subscription is looked for. -/
def EventKind.all : List EventKind :=
  [.screenChanged, .choiceSelected, .messageChanged, .questFinished]

def Event.kind : Event → EventKind
  | .screenChanged _ => .screenChanged
  | .choiceSelected _ => .choiceSelected
  | .messageChanged _ => .messageChanged
  | .questFinished _ => .questFinished

/-- A subscriber of type `σ`. -/
structure Subscription (σ : Type) where
  id : UInt64
  subscriber : σ
deriving DecidableEq, Repr

/-- The current subscriptions. -/
structure Subscriptions (σ : Type) where
  /-- The next identifier; behind the highest one it starts over. -/
  next : UInt64 := 1
  /-- The subscriptions to events of a kind, in the order in which they were made. -/
  roll : EventKind → List (Subscription σ) := fun _ => []

namespace Subscriptions

variable {σ : Type}

def setRoll (subs : Subscriptions σ) (kind : EventKind) (roll : List (Subscription σ)) :
    Subscriptions σ :=
  { subs with roll := fun other => if other = kind then roll else subs.roll other }

def subscribe (subs : Subscriptions σ) (kind : EventKind) (subscriber : σ) :
    UInt64 × Subscriptions σ :=
  (subs.next,
    { subs.setRoll kind (subs.roll kind ++ [⟨subs.next, subscriber⟩]) with next := subs.next + 1 })

/-- Ends a subscription to events of the first of these kinds that has one with this identifier,
and tells whether there was one. -/
def unsubscribeAmong (subs : Subscriptions σ) (id : UInt64) :
    List EventKind → Bool × Subscriptions σ
  | [] => (false, subs)
  | kind :: kinds =>
    let left := (subs.roll kind).filter (·.id != id)
    if left.length = (subs.roll kind).length then subs.unsubscribeAmong id kinds
    else (true, subs.setRoll kind left)

/-- Ends a subscription, and tells whether there was one with this identifier. -/
def unsubscribe (subs : Subscriptions σ) (id : UInt64) : Bool × Subscriptions σ :=
  subs.unsubscribeAmong id EventKind.all

/-- The subscribers that are told of an event, in the order of subscription. -/
def listeners (subs : Subscriptions σ) (event : Event) : List σ :=
  (subs.roll event.kind).map (·.subscriber)

/-- Who is told of what when these events happen. -/
def deliver (subs : Subscriptions σ) (events : List Event) : List (σ × Event) :=
  events.flatMap fun event => (subs.listeners event).map (·, event)

end Subscriptions

end Narrative
