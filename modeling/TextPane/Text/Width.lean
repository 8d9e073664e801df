import TextPane.Number
import TextPane.Text.Columns

/-! Display width.

The width of a text is the sum of the columns of its clusters, and a cluster of controls alone has
none. Texts of ASCII characters take a shorter way to the same number. A text is cut to a width
between clusters only. -/
namespace TextPane.Text

/-- Columns of one cluster. -/
def clusterWidth (cluster : List Char) : Nat :=
  if cluster.all isControl then 0 else columns cluster

/-- The sum of the columns of the clusters. -/
def clusteredWidth (cs : List Char) : Nat :=
  ((clusters cs).map clusterWidth).sum

def isAscii (c : Char) : Bool := c.toNat < 0x80

/-- The number of ASCII characters that are not controls. -/
def asciiWidth (cs : List Char) : Nat :=
  cs.countP fun c => !isControl c

/-- Columns that the characters take on a terminal. -/
def charsWidth (cs : List Char) : Nat :=
  if cs.all isAscii then asciiWidth cs else clusteredWidth cs

/-- Columns that the text takes on a terminal. -/
def displayWidth (s : String) : Nat := charsWidth s.toList

/-- The leading clusters that fit in `room` columns, and the columns they take. -/
def fitClusters (room : Nat) : List (List Char) → List Char × Nat
  | [] => ([], 0)
  | cluster :: rest =>
    let w := clusterWidth cluster
    if w ≤ room then
      let (taken, used) := fitClusters (room - w) rest
      (cluster ++ taken, w + used)
    else ([], 0)

/-- The longest run of leading clusters that fits in `max` columns, and its width. -/
def truncate (s : String) (max : Nat) : String × Nat :=
  let (taken, used) := fitClusters max (clusters s.toList)
  (String.ofList taken, used)

end TextPane.Text
