import TextPane.Number
import TextPane.View.Notifier

/-! Notifiers that listen to each other.

Raising a notifier calls the listeners that it has at that moment, one after the other, each with
all that its call brings about before the next. A listener may subscribe, unsubscribe or raise
other notifiers meanwhile. Every listener is known by a tag; a notifier that listens to another is
not logged. -/
namespace TextPane

/-- One thing that a listener does when it is called. -/
inductive Reaction where
  /-- Removes the listener last subscribed under a tag. -/
  | remove (tag : String)
  /-- Adds a listener that does nothing to the notifier it listens to. -/
  | add (tag : String)
  /-- Removes a number from a notifier, whichever notifier gave it. -/
  | leave (notifier id : Nat)
  /-- Adds a listener that does nothing to any notifier. -/
  | join (notifier : Nat) (tag : String)
  | raise (notifier : Nat)
deriving DecidableEq, Repr

inductive NetworkListener where
  /-- Raises another notifier in turn. -/
  | forward (target : Nat)
  /-- Is logged and then does some things in order. -/
  | tagged (tag : String) (reactions : List Reaction)
deriving DecidableEq, Repr

structure Network where
  /-- The notifiers; one that was dropped leaves its place empty. -/
  notifiers : List (Option (Notifier NetworkListener))
  /-- The notifier and the number of each subscription by its tag, newest first. -/
  tags : List (String × Nat × Nat) := []
  /-- The tags of the listeners called, newest first. -/
  log : List String := []

namespace Network

/-- So many notifiers without listeners. -/
def ofCount (count : Nat) : Network := { notifiers := List.replicate count (some {}) }

def notifier? (net : Network) (n : Nat) : Option (Notifier NetworkListener) := (net.notifiers[n]?).join

def put (net : Network) (n : Nat) (value : Option (Notifier NetworkListener)) : Network :=
  { net with notifiers := net.notifiers.set n value }

/-- Subscribes a listener under a tag. A dropped notifier takes none. -/
def subscribe (net : Network) (n : Nat) (tag : String) (listener : NetworkListener) : Network :=
  match net.notifier? n with
  | none => net
  | some source =>
    let (source, id) := source.subscribe listener
    { net.put n (some source) with tags := (tag, n, id) :: net.tags }

/-- Lets one notifier listen to another. Both have to be there. -/
def forward (net : Network) (n target : Nat) (tag : String) : Network :=
  match net.notifier? target with
  | none => net
  | some _ => net.subscribe n tag (.forward target)

/-- Unsubscribes a number from a notifier, with whether it was there; nothing of a dropped one. -/
def unsubscribe (net : Network) (n id : Nat) : Network × Option Bool :=
  match net.notifier? n with
  | none => (net, none)
  | some source =>
    let (source, found) := source.unsubscribe id
    (net.put n (some source), some found)

/-- Unsubscribes from notifier `n` the number last stored for a tag, whichever notifier gave it. -/
def unsubscribeTag (net : Network) (n : Nat) (tag : String) : Network × Option Bool :=
  match net.tags.lookup tag with
  | none => (net, none)
  | some (_, id) => net.unsubscribe n id

/-- Does what a listener of notifier `n` does; `raise` raises a notifier. -/
def react (raise : Network → Nat → Network) (n : Nat) (net : Network) : Reaction → Network
  | .remove tag =>
    match net.tags.lookup tag with
    | none => net
    | some (source, id) => (net.unsubscribe source id).1
  | .add tag => net.subscribe n tag (.tagged tag [])
  | .leave source id => (net.unsubscribe source id).1
  | .join source tag => net.subscribe source tag (.tagged tag [])
  | .raise target => raise net target

/-- Calls a listener of notifier `n`. -/
def call (raise : Network → Nat → Network) (n : Nat) (net : Network) : NetworkListener → Network
  | .forward target => raise net target
  | .tagged tag reactions =>
    reactions.foldl (react raise n) { net with log := tag :: net.log }

/-- Raises a notifier, with nested rounds up to a depth. -/
def raiseWithin : Nat → Network → Nat → Network
  | 0, net, _ => net
  | depth + 1, net, n =>
    match net.notifier? n with
    | none => net
    | some source => source.round.foldl (call (raiseWithin depth) n) net

/-- How many things a listener does. -/
def listenerSize : NetworkListener → Nat
  | .forward _ => 1
  | .tagged _ reactions => reactions.length

/-- How many things the listeners of a notifier do. -/
def reactionCount : Option (Notifier NetworkListener) → Nat
  | none => 0
  | some source => (source.round.map listenerSize).sum

/-- How deep rounds may nest. Each is begun by one thing that a listener does, and for that to begin
another round within its own, some listener has to be removed or some tag to change hands in
between. -/
def depth (net : Network) : Nat :=
  ((net.notifiers.map reactionCount).sum + 1) * (2 * net.tags.length + 2)

/-- Raises a notifier. -/
def raise (net : Network) (n : Nat) : Network := raiseWithin net.depth net n

def drop (net : Network) (n : Nat) : Network := net.put n none

/-- How many listeners each notifier has. -/
def counts (net : Network) : List (Option Nat) := net.notifiers.map (·.map (·.count))

end Network

end TextPane
