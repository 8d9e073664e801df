import TextPane.Span.Basic

/-! Visiting a span.

A visit announces the root, walks the tree depth first and takes leave of the root. Every node is
recorded before it is dispatched on its sort. A hook that fails ends the visit, and the root is then
not taken leave of. -/
namespace TextPane

/-- What a visitor does at each point of a visit. -/
structure Visitor (m : Type → Type) where
  start : Span → m Unit
  record : Span → m Unit
  content : String → Nat → m Unit
  control : Control → m Unit
  host : HostSpan → m Unit
  stop : Span → m Unit

namespace Visitor

variable {m : Type → Type} [Monad m]

/-- The visitor that does nothing anywhere. -/
def idle : Visitor m where
  start _ := pure ()
  record _ := pure ()
  content _ _ := pure ()
  control _ := pure ()
  host _ := pure ()
  stop _ := pure ()

mutual

/-- Records a span and walks what is in it. -/
def walk (v : Visitor m) : Span → m Unit
  | .empty => v.record .empty
  | .content text length => do
    v.record (.content text length)
    v.content text length
  | .container children length => do
    v.record (.container children length)
    v.walkAll children
  | .control c => do
    v.record (.control c)
    v.control c
  | .host h => do
    v.record (.host h)
    v.host h

def walkAll (v : Visitor m) : List Span → m Unit
  | [] => pure ()
  | s :: rest => do
    v.walk s
    v.walkAll rest

end

/-- A whole visit. -/
def visit (v : Visitor m) (root : Span) : m Unit := do
  v.start root
  v.walk root
  v.stop root

end Visitor

/-- One call of a hook. -/
inductive Hook where
  | start (root : Span)
  | record (node : Span)
  | content (text : String) (length : Nat)
  | control (c : Control)
  | host (h : HostSpan)
  | stop (root : Span)

/-- The visitor that keeps every hook call, in order, and fails with `error` right after keeping a
call that `fails` selects. -/
def Visitor.logging {ε : Type} (fails : Hook → Bool) (error : ε) :
    Visitor (ExceptT ε (StateM (List Hook))) :=
  let keep (h : Hook) : ExceptT ε (StateM (List Hook)) Unit := do
    modify (· ++ [h])
    if fails h then throw error
  { start := fun s => keep (.start s)
    record := fun s => modify (· ++ [.record s])
    content := fun t n => keep (.content t n)
    control := fun c => keep (.control c)
    host := fun h => keep (.host h)
    stop := fun s => keep (.stop s) }

end TextPane
