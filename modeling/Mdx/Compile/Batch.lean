import Mdx.Compile.Compiler

/-!
# Batches

Compiling many documents with one compiler. The documents are handed out to workers, who do them in
any order and share two counters and a log; or they are done one after another, up to the first
failure.
-/

namespace Mdx

namespace Batch

/-- A document of a batch. -/
structure Input where
  id : String
  source : String
  /-- The path of the document; without one it is the identifier. -/
  filepath : Option String := none
  deriving DecidableEq, Repr

/-- The path that a document is compiled under. -/
def Input.path (input : Input) : String :=
  input.filepath.getD input.id

/-- What the documents are compiled to. -/
inductive Target where
  | module
  | wire
  deriving DecidableEq, Repr

/-- A compiled document. -/
inductive Output where
  | module (text : String)
  | wire (document : Wire.Document)

/-- What there is for one document. -/
structure Result where
  id : String
  /-- The output of a document that could be compiled. -/
  output : Option Output
  /-- The message for a document that could not be compiled. -/
  error : Option String

namespace Result

/-- The document could not be compiled. -/
def failed (r : Result) : Bool :=
  r.error.isSome

/-- The output, or else the message. -/
def outcome (r : Result) : Except String Output :=
  match r.output with
  | some output => .ok output
  | none => .error (r.error.getD "")

end Result

/-- How a batch is compiled. -/
structure Options where
  /-- How many workers there are; by default, and for zero, the pool decides. -/
  maxThreads : Option UInt32 := none
  /-- Go on after a failure. -/
  continueOnError : Bool := true
  target : Target := .module
  deriving DecidableEq, Repr

/-- The number of workers, if it is set. -/
def Options.workers (options : Options) : Option UInt32 :=
  options.maxThreads.filter (0 < ·)

/-! ## One document -/

/-- What the documents of a batch share: the counters and the log. -/
structure Shared where
  succeeded : UInt32 := 0
  failed : UInt32 := 0
  log : List Log := []

/-- Counts a document that is done, and adds its lines to the log. -/
def Shared.note (shared : Shared) (done : Result × List Log) : Shared :=
  let (result, lines) := done
  if result.failed then
    { shared with failed := shared.failed + 1, log := shared.log ++ lines }
  else
    { shared with succeeded := shared.succeeded + 1, log := shared.log ++ lines }

/-- Compiles a text to the given target. -/
def compileTo (compiler : Compiler) (target : Target) (source path : String) : CompileM Output :=
  match target with
  | .module => Output.module <$> compiler.compileModule source path
  | .wire => Output.wire <$> compiler.compileWire source path

/-- The result for a document, with the log lines; a failure adds one of its own. -/
def settle (id : String) : Except CompileError Output × List Log → Result × List Log
  | (.ok output, log) => ({ id := id, output := some output, error := none }, log)
  | (.error error, log) =>
    ({ id := id, output := none, error := some error.message },
      log ++ [.warn ("Batch item \x60" ++ id ++ "\x60 failed: " ++ error.message)])

/-- Compiles one document. -/
def item (compiler : Compiler) (target : Target) (input : Input) : Result × List Log :=
  settle input.id (compileTo compiler target input.source input.path).outcome

/-! ## All documents -/

/-- How documents are handed out: the order in which they are done, for the number of workers if it
is set, and the number of documents. Every document is done once. -/
structure Pool where
  order : Option UInt32 → Nat → List Nat
  perm : ∀ workers n, (order workers n).Perm (List.range n)

/-- The documents are done in the order in which they are given. -/
def Pool.inOrder : Pool where
  order _ n := List.range n
  perm _ _ := .refl _

/-- The results so far, each in the place of its document, and what the documents share. -/
structure Progress where
  slots : List (Option Result)
  shared : Shared := {}

/-- Does the document at a place. -/
def Progress.work (compiler : Compiler) (target : Target) (inputs : List Input) (p : Progress)
    (i : Nat) : Progress :=
  match inputs[i]? with
  | none => p
  | some input =>
    let done := item compiler target input
    { slots := p.slots.set i (some done.1), shared := p.shared.note done }

/-- Does all documents in the given order, and collects their results. -/
def inParallel (compiler : Compiler) (target : Target) (order : List Nat) (inputs : List Input) :
    List Result × Shared :=
  let start : Progress := { slots := List.replicate inputs.length none }
  let p := order.foldl (Progress.work compiler target inputs) start
  (p.slots.filterMap id, p.shared)

/-- Does documents one after another, up to the first failure. -/
def untilFailure (compiler : Compiler) (target : Target) (shared : Shared) :
    List Input → List Result × Shared
  | [] => ([], shared)
  | input :: rest =>
    let done := item compiler target input
    let shared := shared.note done
    if done.1.failed then ([done.1], shared)
    else
      let (results, shared) := untilFailure compiler target shared rest
      (done.1 :: results, shared)

/-- How many documents there were, were compiled, and could not be compiled. -/
structure Stats where
  total : UInt32
  succeeded : UInt32
  failed : UInt32
  deriving DecidableEq, Repr

/-- The results of a batch, with its numbers and the log. -/
structure Report where
  results : List Result
  stats : Stats
  log : List Log

namespace Report

def total (r : Report) : Nat :=
  r.stats.total.toNat

def succeeded (r : Report) : Nat :=
  r.stats.succeeded.toNat

def failures (r : Report) : Nat :=
  r.stats.failed.toNat

end Report

end Batch

/-- Compiles a batch of documents. -/
def Compiler.compileBatch (compiler : Compiler) (options : Batch.Options)
    (inputs : List Batch.Input) (pool : Batch.Pool := .inOrder) : Batch.Report :=
  let (results, shared) :=
    if options.continueOnError then
      let order := pool.order options.workers inputs.length
      Batch.inParallel compiler options.target order inputs
    else
      Batch.untilFailure compiler options.target {} inputs
  { results := results
    stats :=
      { total := UInt32.ofNat inputs.length
        succeeded := shared.succeeded
        failed := shared.failed }
    log := shared.log }

end Mdx
