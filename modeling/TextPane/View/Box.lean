import TextPane.Geometry

/-! Boxes: what a layout sees of the things it lays out. -/
namespace TextPane

/-- Something that says which size it takes within limits, and that can be shown in a region. It
may answer more than the limits. -/
structure Box (m : Type → Type) where
  measure : Size → m Size
  render : Region → m Unit

end TextPane
