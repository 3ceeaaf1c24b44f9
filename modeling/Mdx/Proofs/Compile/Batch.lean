import Mdx.Compile.Batch
import Mdx.Proofs.Run

/-!
# Batches and single documents

A batch gives for each document what compiling it alone gives. With workers this holds in whatever
order they do the documents: each result goes to the place of its document (`slots_foldl_work`), and
the counters tell how many documents failed, not which (`foldl_note`). Without them the results end
at the first failure (`untilFailure_eq`). The main statement is `compileBatch_agrees`.
-/

namespace Mdx.Batch

variable (compiler : Compiler) (target : Target)

/-! ## One document -/

/-- What compiling a text gives, on its own. -/
def outcome (source path : String) : Except CompileError Output :=
  match target with
  | .module => (compiler.compileModule source path).outcome.1.map .module
  | .wire => (compiler.compileWire source path).outcome.1.map .wire

/-- The result for a document that is compiled on its own, under its path or else its identifier. -/
def alone (input : Input) : Result :=
  let compiled := outcome compiler target input.source (input.filepath.getD input.id)
  { id := input.id
    output := compiled.toOption
    error :=
      match compiled with
      | .ok _ => none
      | .error e => some e.message }

theorem outcome_map {α β : Type} (f : α → β) (action : CompileM α) :
    CompileM.outcome (f <$> action) = (action.outcome.1.map f, action.outcome.2) := by
  rw [← bind_pure_comp]
  show exec (action >>= pure ∘ f) [] = ((exec action []).1.map f, (exec action []).2)
  match hrun : exec action [] with
  | (.ok a, log) => rw [exec_bind_of_ok hrun]; rfl
  | (.error e, log) => rw [exec_bind_of_error hrun]; rfl

theorem outcome_compileTo (source path : String) :
    (compileTo compiler target source path).outcome.1 = outcome compiler target source path := by
  cases target with
  | module =>
      exact congrArg Prod.fst (outcome_map Output.module (compiler.compileModule source path))
  | wire => exact congrArg Prod.fst (outcome_map Output.wire (compiler.compileWire source path))

/-- A document of a batch is compiled as it is alone. -/
theorem item_result (input : Input) :
    (item compiler target input).1 = alone compiler target input := by
  rw [item, alone, ← outcome_compileTo]
  match (compileTo compiler target input.source input.path).outcome with
  | (.ok output, log) => rfl
  | (.error e, log) => rfl

/-- A document that is done has an output or else an error. -/
theorem settle_exclusive (id : String) (done : Except CompileError Output × List Log) :
    (settle id done).1.output.isSome = !(settle id done).1.failed := by
  match done with
  | (.ok output, log) => rfl
  | (.error e, log) => rfl

theorem alone_exclusive (input : Input) :
    (alone compiler target input).output.isSome = !(alone compiler target input).failed := by
  rw [← item_result]
  exact settle_exclusive input.id _

/-! ## The counters -/

/-- The counters after documents are done. -/
theorem foldl_note (shared : Shared) (done : List (Result × List Log)) :
    (done.foldl Shared.note shared).succeeded
        = shared.succeeded + UInt32.ofNat (done.countP fun d => !d.1.failed)
      ∧ (done.foldl Shared.note shared).failed
        = shared.failed + UInt32.ofNat (done.countP fun d => d.1.failed) := by
  induction done generalizing shared with
  | nil => simp
  | cons d rest ih =>
      obtain ⟨hsucceeded, hfailed⟩ := ih (shared.note d)
      rw [List.foldl_cons, hsucceeded, hfailed, List.countP_cons, List.countP_cons]
      cases hd : d.1.failed with
      | true => simp [Shared.note, hd, UInt32.ofNat_add, UInt32.add_assoc, UInt32.add_comm]
      | false => simp [Shared.note, hd, UInt32.ofNat_add, UInt32.add_assoc, UInt32.add_comm]

/-! ## In any order -/

variable {compiler target} {inputs : List Input}

theorem length_slots_work (p : Progress) (i : Nat) :
    (p.work compiler target inputs i).slots.length = p.slots.length := by
  rw [Progress.work]
  cases inputs[i]? with
  | none => rfl
  | some input => exact List.length_set

/-- One document gets its result, and the others keep theirs. -/
theorem slots_work {p : Progress} (h : p.slots.length = inputs.length) (i j : Nat) :
    (p.work compiler target inputs j).slots[i]?
      = if i = j then inputs[i]?.map fun input => some (alone compiler target input)
        else p.slots[i]? := by
  rw [Progress.work]
  by_cases hij : i = j
  · subst hij
    rw [if_pos rfl]
    cases hinput : inputs[i]? with
    | none =>
        rw [List.getElem?_eq_none_iff, ← h] at hinput
        exact List.getElem?_eq_none hinput
    | some input =>
        obtain ⟨hi, -⟩ := List.getElem?_eq_some_iff.mp hinput
        simp [h, hi, item_result]
  · rw [if_neg hij]
    cases inputs[j]? with
    | none => rfl
    | some input => exact List.getElem?_set_ne (Ne.symm hij)

/-- The documents that are done have their results, and the others keep their places. -/
theorem slots_foldl_work {p : Progress} (h : p.slots.length = inputs.length) (order : List Nat)
    (i : Nat) :
    (order.foldl (Progress.work compiler target inputs) p).slots[i]?
      = if i ∈ order then inputs[i]?.map fun input => some (alone compiler target input)
        else p.slots[i]? := by
  induction order generalizing p with
  | nil => simp
  | cons j rest ih =>
      rw [List.foldl_cons, ih ((length_slots_work p j).trans h), slots_work h]
      by_cases hrest : i ∈ rest
      · simp [hrest]
      · simp [hrest]

theorem shared_foldl_work (p : Progress) (order : List Nat) :
    (order.foldl (Progress.work compiler target inputs) p).shared
      = ((order.filterMap fun i => inputs[i]?).map (item compiler target)).foldl Shared.note
          p.shared := by
  induction order generalizing p with
  | nil => rfl
  | cons i rest ih =>
      rw [List.foldl_cons, ih, List.filterMap_cons, Progress.work]
      cases inputs[i]? <;> rfl

theorem filterMap_range (inputs : List Input) :
    (List.range inputs.length).filterMap (fun i => inputs[i]?) = inputs := by
  induction inputs with
  | nil => rfl
  | cons input rest ih =>
      rw [List.length_cons, List.range_succ_eq_map, List.filterMap_cons, List.filterMap_map]
      exact congrArg (input :: ·) ih

/-- All results are there in the end, in the order of the documents. -/
theorem inParallel_results {order : List Nat} (h : order.Perm (List.range inputs.length)) :
    (inParallel compiler target order inputs).1 = inputs.map (alone compiler target) := by
  have hslots : (order.foldl (Progress.work compiler target inputs)
      { slots := List.replicate inputs.length none }).slots
        = inputs.map fun input => some (alone compiler target input) := by
    apply List.ext_getElem?
    intro i
    rw [slots_foldl_work List.length_replicate, List.getElem?_map]
    by_cases hi : i < inputs.length
    · rw [if_pos (h.mem_iff.mpr (List.mem_range.mpr hi))]
    · have hnone : inputs[i]? = none := List.getElem?_eq_none (by omega)
      rw [if_neg fun hmem => hi (List.mem_range.mp (h.mem_iff.mp hmem)), hnone,
        List.getElem?_eq_none (by simpa using hi)]
      rfl
  have hcollect : (inParallel compiler target order inputs).1
      = (inputs.map fun input => some (alone compiler target input)).filterMap id := by
    rw [← hslots]
    rfl
  rw [hcollect, List.filterMap_map]
  exact congrFun List.filterMap_eq_map inputs

/-- What is shared in the end comes from the documents in the order in which they were done. -/
theorem inParallel_shared (compiler : Compiler) (target : Target) {order : List Nat}
    (h : order.Perm (List.range inputs.length)) :
    ∃ done : List Input, done.Perm inputs ∧ (inParallel compiler target order inputs).2
      = (done.map (item compiler target)).foldl Shared.note {} := by
  refine ⟨order.filterMap fun i => inputs[i]?, ?_, shared_foldl_work _ order⟩
  have hperm := h.filterMap fun i => inputs[i]?
  rwa [filterMap_range] at hperm

/-! ## Up to the first failure -/

/-- The documents up to the first that fails. -/
def upToFailure (compiler : Compiler) (target : Target) (inputs : List Input) : List Input :=
  inputs.take (inputs.findIdx (fun input => (alone compiler target input).failed) + 1)

theorem untilFailure_eq (shared : Shared) (inputs : List Input) :
    untilFailure compiler target shared inputs
      = ((upToFailure compiler target inputs).map (alone compiler target),
        ((upToFailure compiler target inputs).map (item compiler target)).foldl Shared.note
          shared) := by
  induction inputs generalizing shared with
  | nil => rfl
  | cons input rest ih =>
      rw [untilFailure, upToFailure, List.findIdx_cons]
      simp only [item_result]
      cases hfailed : (alone compiler target input).failed with
      | true => simp
      | false =>
          rw [if_neg (by simp), ih]
          simp [upToFailure]

/-! ## Reports -/

/-- What the counters show once documents with the given results are done. -/
theorem counters_eq {done : List Input} {results : List Result}
    (h : (done.map (alone compiler target)).Perm results) (hlength : results.length < UInt32.size) :
    ((done.map (item compiler target)).foldl Shared.note {}).succeeded.toNat
        = results.countP (fun r => !r.failed)
      ∧ ((done.map (item compiler target)).foldl Shared.note {}).failed.toNat
        = results.countP fun r => r.failed := by
  obtain ⟨hsucceeded, hfailed⟩ := foldl_note {} (done.map (item compiler target))
  have hcount : ∀ p : Result → Bool,
      (done.map (item compiler target)).countP (fun d => p d.1) = results.countP p := by
    intro p
    rw [← h.countP_eq, List.countP_map, List.countP_map]
    refine List.countP_congr fun input _ => ?_
    rw [Function.comp_apply, Function.comp_apply, item_result]
  have hfits : ∀ p : Result → Bool, (0 + UInt32.ofNat (results.countP p)).toNat
      = results.countP p := by
    intro p
    rw [UInt32.zero_add, UInt32.toNat_ofNat_of_lt']
    exact Nat.lt_of_le_of_lt List.countP_le_length hlength
  rw [hsucceeded, hfailed, hcount fun r => !r.failed, hcount fun r => r.failed]
  exact ⟨hfits _, hfits _⟩

/-- The results of a batch and what its documents share. -/
def done (compiler : Compiler) (options : Options) (pool : Pool) (inputs : List Input) :
    List Result × Shared :=
  if options.continueOnError then
    inParallel compiler options.target (pool.order options.workers inputs.length) inputs
  else untilFailure compiler options.target {} inputs

/-- The results that a batch is to have: all, or those up to the first failure. -/
def expected (options : Options) (results : List Result) : List Result :=
  if options.continueOnError then results
  else results.take (results.findIdx (·.failed) + 1)

/-- A batch of either kind has the results that it is to have, from documents that are done in some
order. -/
theorem done_eq (compiler : Compiler) (options : Options) (pool : Pool) (inputs : List Input) :
    (done compiler options pool inputs).1
        = expected options (inputs.map (alone compiler options.target))
      ∧ ∃ order : List Input,
        (order.map (alone compiler options.target)).Perm (done compiler options pool inputs).1
          ∧ (done compiler options pool inputs).2
            = (order.map (item compiler options.target)).foldl Shared.note {} := by
  unfold done expected
  cases options.continueOnError with
  | true =>
      have hperm := pool.perm options.workers inputs.length
      obtain ⟨order, horder, hshared⟩ := inParallel_shared compiler options.target hperm
      refine ⟨inParallel_results hperm, order, ?_, hshared⟩
      rw [if_pos rfl, inParallel_results hperm]
      exact horder.map _
  | false =>
      rw [if_neg (by simp), if_neg (by simp), untilFailure_eq]
      refine ⟨?_, _, .refl _, rfl⟩
      simp [upToFailure, List.map_take, List.findIdx_map, Function.comp_def]

/-- The report is what compiling the documents alone tells. -/
structure Report.Agrees (report : Report) (compiler : Compiler) (options : Options)
    (inputs : List Input) : Prop where
  /-- Going on after failures, there is the result of every document alone. -/
  all : options.continueOnError = true →
    report.results = inputs.map (alone compiler options.target)
  /-- Otherwise there are these results up to the first failure. -/
  stopped : options.continueOnError = false →
    report.results = (inputs.map (alone compiler options.target)).take
      ((inputs.map (alone compiler options.target)).findIdx (·.failed) + 1)
  /-- Each result has an output or else an error. -/
  exclusive : ∀ result ∈ report.results, result.output.isSome = !result.error.isSome
  total : report.total = inputs.length
  succeeded : report.succeeded = report.results.countP (·.output.isSome)
  failures : report.failures = report.results.countP (·.error.isSome)
  sum : report.succeeded + report.failures = report.results.length

/-- Batches agree with single documents and with each other, in whatever order the workers of a pool
do the documents. -/
theorem compileBatch_agrees (compiler : Compiler) (options : Options) (pool : Pool)
    (inputs : List Input) (h : inputs.length < UInt32.size) :
    (compiler.compileBatch options inputs pool).Agrees compiler options inputs := by
  obtain ⟨hresults, order, horder, hshared⟩ := done_eq compiler options pool inputs
  have hlength : (done compiler options pool inputs).1.length < UInt32.size := by
    have hle : (done compiler options pool inputs).1.length ≤ inputs.length := by
      rw [hresults, expected]
      split
      · exact Nat.le_of_eq (List.length_map _)
      · exact Nat.le_trans (List.length_take_le' _ _) (Nat.le_of_eq (List.length_map _))
    omega
  obtain ⟨hsucceeded, hfailed⟩ := counters_eq horder hlength
  rw [← hshared] at hsucceeded hfailed
  have hexclusive : ∀ result ∈ (done compiler options pool inputs).1,
      result.output.isSome = !result.failed := by
    intro result hresult
    obtain ⟨input, -, rfl⟩ := List.mem_map.mp (horder.mem_iff.mpr hresult)
    exact alone_exclusive compiler options.target input
  refine
    { all := fun hgo => hresults.trans (by rw [expected, if_pos hgo])
      stopped := fun hstop => hresults.trans (by rw [expected, hstop, if_neg (by simp)])
      exclusive := hexclusive
      total := UInt32.toNat_ofNat_of_lt' h
      succeeded := hsucceeded.trans (List.countP_congr fun result hresult => ?_)
      failures := hfailed
      sum := ?_ }
  · rw [hexclusive result hresult]
  · show (done compiler options pool inputs).2.succeeded.toNat
      + (done compiler options pool inputs).2.failed.toNat = _
    have hcounts := List.length_eq_countP_add_countP (l := (done compiler options pool inputs).1)
      fun result => result.failed
    simp only [Bool.not_eq_true, Bool.decide_eq_false] at hcounts
    rw [hsucceeded, hfailed, Nat.add_comm]
    exact hcounts.symm

/-- Workers that do the last document first. -/
def Pool.reversed : Pool where
  order _ n := (List.range n).reverse
  perm _ n := List.reverse_perm (List.range n)

/-- Three documents, of which one has a path and one cannot be read. -/
def threeInputs : List Input :=
  [⟨"a", "# A", some "a.md"⟩, ⟨"bad.mdx", "Text\n\n<Note>", none⟩, ⟨"c.mdx", "C", none⟩]

theorem compileBatch_agrees_reversed :
    threeInputs.length < UInt32.size
      ∧ ((Compiler.ofConfig {}).compileBatch { maxThreads := some 2, target := .wire } threeInputs
          .reversed).results = threeInputs.map (alone (.ofConfig {}) .wire)
      ∧ ((Compiler.ofConfig {}).compileBatch { continueOnError := false } threeInputs
          .reversed).total = 3 := by
  have hlength : threeInputs.length < UInt32.size := by decide
  exact ⟨hlength,
    (compileBatch_agrees (.ofConfig {}) { maxThreads := some 2, target := .wire } .reversed
      threeInputs hlength).all rfl,
    (compileBatch_agrees (.ofConfig {}) { continueOnError := false } .reversed threeInputs
      hlength).total⟩

end Mdx.Batch
