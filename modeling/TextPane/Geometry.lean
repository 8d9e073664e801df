/-! Sizes and regions.

Columns and rows are counted from zero up to a limit, at which sums of them stop. A region without
columns or without rows is empty, which is allowed and means that there is nothing to do. -/
namespace TextPane

/-- The greatest number of columns or rows. -/
def cellLimit : Nat := 65535

/-- A sum of columns or rows, stopped at the limit. -/
def addCells (a b : Nat) : Nat := min (a + b) cellLimit

structure Size where
  width : Nat
  height : Nat
deriving DecidableEq, Repr

namespace Size

instance : Inhabited Size := ⟨⟨0, 0⟩⟩

def zero : Size := ⟨0, 0⟩

/-- More room than any terminal has. -/
def unbounded : Size := ⟨cellLimit, cellLimit⟩

def isEmpty (s : Size) : Bool := s.width == 0 || s.height == 0

/-- The largest size that fits in both. -/
def meet (a b : Size) : Size := ⟨min a.width b.width, min a.height b.height⟩

end Size

structure Region where
  left : Nat
  top : Nat
  width : Nat
  height : Nat
  /-- Whether what the region held before is overwritten when something is rendered into it. -/
  overwrite : Bool := true
deriving DecidableEq, Repr

namespace Region

/-- The region of this size at the origin. -/
def ofSize (s : Size) : Region := { left := 0, top := 0, width := s.width, height := s.height }

def size (r : Region) : Size := ⟨r.width, r.height⟩

def isEmpty (r : Region) : Bool := r.size.isEmpty

/-- The first column behind the region. -/
def right (r : Region) : Nat := addCells r.left r.width

/-- The first row below the region. -/
def bottom (r : Region) : Nat := addCells r.top r.height

end Region

end TextPane
