import TextPane.Main
import TextPane.Scene.Table
import TextPane.Terminal.Screen
import TextPane.View.Network
import TextPane.Proofs.Wrap.Inflow
import TextPane.Proofs.Wrap.Lines
import TextPane.Proofs.Terminal.Calls
import TextPane.Proofs.Render.Calls
import TextPane.Proofs.Render.Delivery
import TextPane.Proofs.Wrap.Words
import TextPane.Proofs.Render.Cells
import TextPane.Proofs.View.Carry
import TextPane.Proofs.View.Work
import TextPane.Proofs.View.Draws
import TextPane.Proofs.View.Paint
import TextPane.Proofs.Scene.Edits
import TextPane.Proofs.Scene.Build
import TextPane.Proofs.Scene.Tree
import TextPane.Proofs.Scene.Sweep
import TextPane.Proofs.Scene.Repaint
import TextPane.Proofs.Scene.Acts
import TextPane.Proofs.Scene.Runs
import TextPane.Proofs.View.Areas
import TextPane.Proofs.View.Modes
import TextPane.Proofs.View.Frame
import TextPane.Proofs.Scene.Rendering
import TextPane.Proofs.Scene.Still
import TextPane.Proofs.Scene.Owners
import TextPane.Proofs.Scene.Taking
import TextPane.Proofs.Scene.Listeners
import TextPane.Proofs.Scene.Waning
import TextPane.Proofs.Scene.Orderly
import TextPane.Proofs.Scene.Events
import TextPane.Proofs.Scene.Overwriting
import TextPane.Proofs.View.Resizing
import TextPane.Proofs.Wrap.Atoms
import TextPane.Proofs.Wrap.Styling
import TextPane.Proofs.Wrap.Fitting
import TextPane.Proofs.Wrap.Narrowing
import TextPane.Proofs.Wrap.Offers
import TextPane.Proofs.Render.Height
import TextPane.Proofs.Wrap.Pieces
import TextPane.Proofs.Scene.Failing
import TextPane.Proofs.View.Overflow
import TextPane.Proofs.Template.Written
import TextPane.Proofs.Scene.Rounds
import TextPane.Proofs.Scene.Retired
import TextPane.Proofs.View.Ends
import TextPane.Proofs.View.Dealing
import TextPane.Proofs.View.Asking
import TextPane.Proofs.View.Tiling
import TextPane.Proofs.View.Serving
import TextPane.Proofs.View.Slots
import TextPane.Proofs.Scene.Filling
import TextPane.Proofs.Template.Grammar
import TextPane.Proofs.Render.Channels
import TextPane.Proofs.Wrap.Greedy
import TextPane.Proofs.Scene.Rebuilding
import TextPane.Proofs.Template.Padding
import TextPane.Proofs.Template.Integers
import TextPane.Proofs.Text.Seams
import TextPane.Proofs.Wrap.Widths
import TextPane.Proofs.Span.Leaves
import TextPane.Proofs.Span.Equality
import TextPane.Proofs.Scene.Vanishing
import TextPane.Proofs.View.Nesting
import TextPane.Proofs.Span.Aborting
import TextPane.Proofs.Text.Cutting
import TextPane.Proofs.Wrap.Splitting
import TextPane.Proofs.Terminal.Columns
