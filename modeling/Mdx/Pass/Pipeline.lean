import Mdx.Pass.Builtin

/-!
# Pipelines

The built-in passes in their fixed order, with the caller's passes around them: in front of a
built-in pass, or after all of them. The first failure ends a run.
-/

namespace Mdx

/-- The names of the built-in passes. -/
inductive Builtin where
  | tagNames
  | localAssets
  | tableSpace
  deriving DecidableEq, Repr

namespace Builtin

/-- The order in which the built-in passes run. -/
def order : List Builtin := [.tagNames, .localAssets, .tableSpace]

end Builtin

/-- The passes for one configuration. -/
structure Pipeline where
  tagNames : Pass
  localAssets : Pass
  tableSpace : Pass
  /-- The caller's passes in front of built-in ones, in the order of their registration. -/
  before : List (Builtin × Pass) := []
  /-- The caller's passes after all built-in ones, in the order of their registration. -/
  after : List Pass := []

namespace Pipeline

/-- The built-in passes for a prefix and a test for local files. -/
def new (mark : String) (assets : Pass) : Pipeline :=
  { tagNames := Pass.tagNames mark, localAssets := assets, tableSpace := Pass.tableSpace mark }

/-- Replaces the pass for local assets. -/
def setLocalAssets (p : Pipeline) (pass : Pass) : Pipeline :=
  { p with localAssets := pass }

/-- Adds a pass after all built-in ones. -/
def push (p : Pipeline) (pass : Pass) : Pipeline :=
  { p with after := p.after ++ [pass] }

/-- Adds a pass in front of a built-in one. -/
def insertBefore (p : Pipeline) (slot : Builtin) (pass : Pass) : Pipeline :=
  { p with before := p.before ++ [(slot, pass)] }

/-- A built-in pass as configured. -/
def builtin (p : Pipeline) : Builtin → Pass
  | .tagNames => p.tagNames
  | .localAssets => p.localAssets
  | .tableSpace => p.tableSpace

/-- The caller's passes in front of a built-in one, in the order of their registration. -/
def slotBefore (p : Pipeline) (slot : Builtin) : List Pass :=
  (p.before.filter fun entry => entry.1 == slot).map Prod.snd

/-- The names of all passes in the order in which they run. -/
def passNames (p : Pipeline) : List String :=
  (Builtin.order.flatMap fun slot => (p.slotBefore slot).map (·.name) ++ [(p.builtin slot).name])
    ++ p.after.map (·.name)

/-- What a run leaves: the tree, the pass that failed, and the log. -/
structure Run where
  root : Element
  failure : Option (String × PassError) := none
  log : List Log := []

/-- Applies passes in turn, up to the first failure. -/
def runPasses : List Pass → Element → Run
  | [], root => { root := root }
  | pass :: rest, root =>
    let log := pass.log root
    match pass.run root with
    | (root, some error) => { root := root, failure := some (pass.name, error), log := log }
    | (root, none) =>
      let run := runPasses rest root
      { run with log := log ++ run.log }

/-- Goes on with more passes, unless one has failed. -/
def Run.resume (run : Run) (passes : List Pass) : Run :=
  match run.failure with
  | some _ => run
  | none =>
    let more := runPasses passes run.root
    { more with log := run.log ++ more.log }

/-- Runs the caller's passes in front of a built-in one, and then that one. -/
def runSlot (p : Pipeline) (run : Run) (slot : Builtin) : Run :=
  (run.resume (p.slotBefore slot)).resume [p.builtin slot]

/-- Runs the pipeline on a tree. -/
def run (p : Pipeline) (root : Element) : Run :=
  (Builtin.order.foldl p.runSlot { root := root }).resume p.after

end Pipeline

end Mdx
