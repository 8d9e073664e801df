/-! Lists of listeners.

A notifier numbers its subscriptions from zero upwards and uses no number twice, so a number names
at most one listener for good. -/
namespace TextPane

structure Notifier (α : Type) where
  /-- The number of the next subscription. -/
  next : Nat := 0
  /-- The listeners with their numbers, oldest first. -/
  listeners : List (Nat × α) := []

namespace Notifier

variable {α : Type}

instance : Inhabited (Notifier α) := ⟨{}⟩

/-- Adds a listener; the second part is its number. -/
def subscribe (n : Notifier α) (listener : α) : Notifier α × Nat :=
  ({ next := n.next + 1, listeners := n.listeners ++ [(n.next, listener)] }, n.next)

/-- Removes the listener of that number; the second part says whether there was one. -/
def unsubscribe (n : Notifier α) (id : Nat) : Notifier α × Bool :=
  ({ n with listeners := n.listeners.filter (·.1 != id) }, n.listeners.any (·.1 == id))

/-- Those whom a notification reaches: the listeners of the moment it is raised. -/
def round (n : Notifier α) : List α := n.listeners.map (·.2)

def count (n : Notifier α) : Nat := n.listeners.length

end Notifier

end TextPane
