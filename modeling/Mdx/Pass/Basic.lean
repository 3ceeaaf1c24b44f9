import Mdx.Log
import Mdx.Tree

/-!
# Passes

A pass edits an element tree and may fail. What it has edited before failing stays.
-/

namespace Mdx

/-- The failure of a pass. -/
structure PassError where
  message : String
  deriving DecidableEq, Repr

/-- A named edit of element trees, with the lines it writes to the log. -/
structure Pass where
  name : String
  run : Element → Element × Option PassError
  log : Element → List Log := fun _ => []

namespace Pass

/-- The pass that applies an edit and never fails. -/
def ofEdit (name : String) (edit : Edit) : Pass :=
  { name := name, run := fun root => (edit.root root, none) }

end Pass

end Mdx
