import Dataflow.Layout
import Dataflow.Run

/-!
# Calls on a layout

What can be asked of a layout and done to it, one call at a time.
-/

namespace Dataflow.Layout

/-- A call on a layout. -/
inductive Call
  /-- Replace the sizes. -/
  | set (sizes : List Nat)
  /-- Ask for the size at an axis. -/
  | dim (axis : Nat)
  /-- Ask whether a new layout of these sizes is equal. -/
  | equals (sizes : List Nat)
  /-- Replace the layout by its row-major strides. -/
  | strides
  /-- Replace the layout by the one of no dimension. -/
  | clear

/-- The answer to a call; an answer that may come with a new layout shows the layout. -/
inductive Answer
  | state (layout : Layout)
  | set (result : Except Error Unit) (layout : Layout)
  /-- A size, `none` for an axis that the layout does not have. -/
  | dim (size : Option Nat)
  | equals (result : Except Error Bool)

/-- One call. A layout stays as it is when its new sizes are too many. -/
def perform (l : Layout) : Call → Answer × Layout
  | .set sizes =>
    match l.set sizes with
    | .ok l => (.set (.ok ()) l, l)
    | .error e => (.set (.error e) l, l)
  | .dim axis => (.dim (l.dim? axis), l)
  | .equals sizes => (.equals ((ofDims sizes).map fun other => decide (other = l)), l)
  | .strides => (.state l.naiveStrides, l.naiveStrides)
  | .clear => (.state empty, empty)

/-- The layout of the given sizes and the answers to the calls on it. -/
def script (sizes : List Nat) (calls : List Call) : Except Error (List Answer) :=
  (ofDims sizes).map fun l => .state l :: Run.answers perform l calls

end Dataflow.Layout
