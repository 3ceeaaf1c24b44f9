import Mdx.Compile.Compiler

/-!
# The order in which passes are declared

A caller registers passes by a sequence of calls. `declared` reads the order of the passes off the
calls alone: in front of each built-in pass those registered there, and after all of them those that
were pushed. Listing the names of a pipeline and running it go through the slots each on its own,
in the same order (`passNames_eq`, `run_eq`). The main statement is `Pipeline.run_follows_declared`:
the names of a pipeline are those of the declared passes, and a run applies these passes one after
the other, up to the first that fails.
-/

namespace Mdx.Pipeline

/-! ## Registering passes -/

/-- A call by which a caller changes a pipeline. -/
inductive Registration where
  | push (pass : Pass)
  | insertBefore (slot : Builtin) (pass : Pass)
  | setLocalAssets (pass : Pass)

namespace Registration

/-- The pass that is put in front of a built-in one. -/
def inFront? (slot : Builtin) : Registration → Option Pass
  | .insertBefore other pass => if other = slot then some pass else none
  | _ => none

/-- The pass that is put after all built-in ones. -/
def pushed? : Registration → Option Pass
  | .push pass => some pass
  | _ => none

/-- The pass that takes the place of the one for local assets. -/
def assets? : Registration → Option Pass
  | .setLocalAssets pass => some pass
  | _ => none

end Registration

/-- The pipeline after a call. -/
def register (p : Pipeline) : Registration → Pipeline
  | .push pass => p.push pass
  | .insertBefore slot pass => p.insertBefore slot pass
  | .setLocalAssets pass => p.setLocalAssets pass

/-- The pipeline after a sequence of calls. -/
def registerAll (p : Pipeline) (calls : List Registration) : Pipeline :=
  calls.foldl register p

/-- The passes that calls put in front of a built-in one, in the order of the calls. -/
def inFront (slot : Builtin) (calls : List Registration) : List Pass :=
  calls.filterMap (Registration.inFront? slot)

/-- The passes that calls put after all built-in ones, in the order of the calls. -/
def pushed (calls : List Registration) : List Pass :=
  calls.filterMap Registration.pushed?

/-- The pass for local assets after calls: of several that were set, the last. -/
def assetsAfter (assets : Pass) (calls : List Registration) : Pass :=
  (calls.filterMap Registration.assets?).getLast?.getD assets

/-- The passes in the order that the calls declare. -/
def declared (mark : String) (assets : Pass) (calls : List Registration) : List Pass :=
  inFront .tagNames calls ++ [Pass.tagNames mark]
    ++ (inFront .localAssets calls ++ [assetsAfter assets calls])
    ++ (inFront .tableSpace calls ++ [Pass.tableSpace mark])
    ++ pushed calls

/-! ## What calls add -/

/-- A call adds its pass to its own slot, at the end, and to no other. -/
theorem slotBefore_register (p : Pipeline) (call : Registration) (slot : Builtin) :
    (p.register call).slotBefore slot = p.slotBefore slot ++ (call.inFront? slot).toList := by
  cases call with
  | push pass => simp [register, push, slotBefore, Registration.inFront?]
  | insertBefore other pass =>
      by_cases h : other = slot
      · simp [register, insertBefore, slotBefore, Registration.inFront?, h]
      · simp [register, insertBefore, slotBefore, Registration.inFront?, h]
  | setLocalAssets pass => simp [register, setLocalAssets, slotBefore, Registration.inFront?]

theorem after_register (p : Pipeline) (call : Registration) :
    (p.register call).after = p.after ++ call.pushed?.toList := by
  cases call <;> simp [register, push, insertBefore, setLocalAssets, Registration.pushed?]

theorem localAssets_register (p : Pipeline) (call : Registration) :
    (p.register call).localAssets = call.assets?.getD p.localAssets := by
  cases call <;> rfl

/-- No call changes the other two built-in passes. -/
theorem fixed_register (p : Pipeline) (call : Registration) :
    (p.register call).tagNames = p.tagNames ∧ (p.register call).tableSpace = p.tableSpace := by
  cases call <;> exact ⟨rfl, rfl⟩

theorem slotBefore_registerAll (p : Pipeline) (calls : List Registration) (slot : Builtin) :
    (p.registerAll calls).slotBefore slot = p.slotBefore slot ++ inFront slot calls := by
  induction calls generalizing p with
  | nil => simp [registerAll, inFront]
  | cons call rest ih =>
      have hrest : (p.registerAll (call :: rest)).slotBefore slot
          = (p.register call).slotBefore slot ++ inFront slot rest := ih (p.register call)
      rw [hrest, slotBefore_register, inFront, inFront, List.append_assoc, List.filterMap_cons]
      cases call.inFront? slot <;> rfl

theorem after_registerAll (p : Pipeline) (calls : List Registration) :
    (p.registerAll calls).after = p.after ++ pushed calls := by
  induction calls generalizing p with
  | nil => simp [registerAll, pushed]
  | cons call rest ih =>
      have hrest : (p.registerAll (call :: rest)).after = (p.register call).after ++ pushed rest :=
        ih (p.register call)
      rw [hrest, after_register, pushed, pushed, List.append_assoc, List.filterMap_cons]
      cases call.pushed? <;> rfl

theorem localAssets_registerAll (p : Pipeline) (calls : List Registration) :
    (p.registerAll calls).localAssets = assetsAfter p.localAssets calls := by
  induction calls generalizing p with
  | nil => rfl
  | cons call rest ih =>
      have hrest : (p.registerAll (call :: rest)).localAssets
          = assetsAfter (p.register call).localAssets rest := ih (p.register call)
      rw [hrest, localAssets_register, assetsAfter, assetsAfter, List.filterMap_cons]
      cases call.assets? with
      | none => rfl
      | some pass =>
          -- Of the passes set from here on, the last is that of the rest, if there is one.
          rw [List.getLast?_cons]
          rfl

theorem fixed_registerAll (p : Pipeline) (calls : List Registration) :
    (p.registerAll calls).tagNames = p.tagNames
      ∧ (p.registerAll calls).tableSpace = p.tableSpace := by
  induction calls generalizing p with
  | nil => exact ⟨rfl, rfl⟩
  | cons call rest ih =>
      obtain ⟨htags, htable⟩ := ih (p.register call)
      obtain ⟨htags', htable'⟩ := fixed_register p call
      exact ⟨htags.trans htags', htable.trans htable'⟩

/-- All passes of a pipeline, slot by slot. -/
def passes (p : Pipeline) : List Pass :=
  (Builtin.order.flatMap fun slot => p.slotBefore slot ++ [p.builtin slot]) ++ p.after

/-- The passes of a pipeline are the declared ones, however the calls were mixed. -/
theorem passes_registerAll (mark : String) (assets : Pass) (calls : List Registration) :
    ((new mark assets).registerAll calls).passes = declared mark assets calls := by
  obtain ⟨htags, htable⟩ := fixed_registerAll (new mark assets) calls
  have hassets := localAssets_registerAll (new mark assets) calls
  have hslot : ∀ slot, ((new mark assets).registerAll calls).slotBefore slot
      = inFront slot calls := fun slot => slotBefore_registerAll (new mark assets) calls slot
  have hafter : ((new mark assets).registerAll calls).after = pushed calls :=
    after_registerAll (new mark assets) calls
  rw [passes, Builtin.order]
  simp only [List.flatMap_cons, List.flatMap_nil, hslot, hafter, builtin, htags, htable, hassets]
  simp [declared, new]

/-! ## Listing and running -/

/-- The names are listed in the order of the passes. -/
theorem passNames_eq (p : Pipeline) : p.passNames = p.passes.map (·.name) := by
  simp [passNames, passes, List.map_flatMap]

theorem resume_of_none {run : Run} (h : run.failure = none) (passes : List Pass) :
    run.resume passes
      = { runPasses passes run.root with log := run.log ++ (runPasses passes run.root).log } := by
  rw [Run.resume, h]

theorem resume_of_failed {run : Run} (h : run.failure ≠ none) (passes : List Pass) :
    run.resume passes = run := by
  obtain ⟨failure, hfailure⟩ := Option.ne_none_iff_exists'.mp h
  rw [Run.resume, hfailure]

theorem resume_nil (run : Run) : run.resume [] = run := by
  by_cases h : run.failure = none
  · rw [resume_of_none h, runPasses, ← h, List.append_nil]
  · exact resume_of_failed h []

/-- What stands before the log stays there. -/
theorem resume_log (run : Run) (lines : List Log) (passes : List Pass) :
    ({ run with log := lines ++ run.log } : Run).resume passes
      = { run.resume passes with log := lines ++ (run.resume passes).log } := by
  by_cases h : run.failure = none
  · rw [resume_of_none h, resume_of_none (by exact h), List.append_assoc]
  · rw [resume_of_failed h, resume_of_failed (by exact h)]

theorem runPasses_append (first second : List Pass) (root : Element) :
    runPasses (first ++ second) root = (runPasses first root).resume second := by
  induction first generalizing root with
  | nil => rw [runPasses, resume_of_none rfl, List.nil_append, List.nil_append]
  | cons pass rest ih =>
      rw [List.cons_append, runPasses, runPasses]
      match pass.run root with
      | (next, some error) => rfl
      | (next, none) =>
          show { runPasses (rest ++ second) next with
            log := pass.log root ++ (runPasses (rest ++ second) next).log } = _
          rw [ih, ← resume_log]

/-- Going on twice is going on with the passes of both. -/
theorem resume_append (run : Run) (first second : List Pass) :
    run.resume (first ++ second) = (run.resume first).resume second := by
  by_cases h : run.failure = none
  · rw [resume_of_none h, resume_of_none h, resume_log, runPasses_append]
  · rw [resume_of_failed h, resume_of_failed h, resume_of_failed h]

/-- Slot after slot, a run goes on with the passes of each. -/
theorem foldl_runSlot (p : Pipeline) (slots : List Builtin) (run : Run) :
    slots.foldl p.runSlot run
      = run.resume (slots.flatMap fun slot => p.slotBefore slot ++ [p.builtin slot]) := by
  induction slots generalizing run with
  | nil => exact (resume_nil run).symm
  | cons slot rest ih =>
      rw [List.foldl_cons, ih, runSlot, List.flatMap_cons, resume_append, resume_append]

/-- A run applies the passes in the order in which their names are listed. -/
theorem run_eq (p : Pipeline) (root : Element) : p.run root = runPasses p.passes root := by
  rw [run, foldl_runSlot, ← resume_append, resume_of_none rfl]
  rfl

/-! ## Runs -/

/-- The passes succeed one after the other: each gets the tree that the one before it left, and the
log has the lines of each. -/
inductive Succeeds : List Pass → Element → Element → List Log → Prop where
  | nil (root : Element) : Succeeds [] root root []
  | cons {pass : Pass} {rest : List Pass} {root next last : Element} {log : List Log} :
      pass.run root = (next, none) → Succeeds rest next last log →
        Succeeds (pass :: rest) root last (pass.log root ++ log)

/-- A run applies all passes, or those up to the first that fails and none after it. -/
theorem runPasses_cases (passes : List Pass) (root : Element) :
    ((runPasses passes root).failure = none
        ∧ Succeeds passes root (runPasses passes root).root (runPasses passes root).log)
      ∨ ∃ (applied : List Pass) (failing : Pass) (rest : List Pass) (tree : Element)
          (log : List Log) (cause : PassError),
        passes = applied ++ failing :: rest
          ∧ Succeeds applied root tree log
          ∧ failing.run tree = ((runPasses passes root).root, some cause)
          ∧ (runPasses passes root).log = log ++ failing.log tree
          ∧ (runPasses passes root).failure = some (failing.name, cause) := by
  induction passes generalizing root with
  | nil => exact .inl ⟨rfl, .nil root⟩
  | cons pass rest ih =>
      rw [runPasses]
      match hpass : pass.run root with
      | (next, some cause) =>
          exact .inr ⟨[], pass, rest, root, [], cause, rfl, .nil root, hpass, rfl, rfl⟩
      | (next, none) =>
          rcases ih next with
            ⟨hfailure, hrest⟩
            | ⟨applied, failing, more, tree, log, cause, rfl, happlied, hrun, hlog, hfailure⟩
          · exact .inl ⟨hfailure, .cons hpass hrest⟩
          · refine .inr ⟨pass :: applied, failing, more, tree, pass.log root ++ log, cause, rfl,
              .cons hpass happlied, hrun, ?_, hfailure⟩
            show pass.log root ++ (runPasses (applied ++ failing :: more) next).log = _
            rw [hlog, List.append_assoc]

/-- After any sequence of calls, the names of a pipeline are those of the declared passes, and a run
applies the declared passes in turn. Either all succeed; or some of them do, the next one fails and
is the last to be applied, and the error has its name, the path of the document and its cause. -/
theorem run_follows_declared (mark : String) (assets : Pass) (calls : List Registration)
    (root : Element) (path : String) :
    let p := (new mark assets).registerAll calls
    let run := p.run root
    p.passNames = (declared mark assets calls).map (·.name)
      ∧ (run.error path = none ∧ Succeeds (declared mark assets calls) root run.root run.log
        ∨ ∃ (applied : List Pass) (failing : Pass) (rest : List Pass) (tree : Element)
            (log : List Log) (cause : PassError),
          declared mark assets calls = applied ++ failing :: rest
            ∧ Succeeds applied root tree log
            ∧ failing.run tree = (run.root, some cause)
            ∧ run.log = log ++ failing.log tree
            ∧ run.error path = some (.pass failing.name path cause)) := by
  intro p run
  have hpasses : p.passes = declared mark assets calls := passes_registerAll mark assets calls
  have hrun : run = runPasses (declared mark assets calls) root := by rw [← hpasses, ← run_eq]
  refine ⟨by rw [passNames_eq, hpasses], ?_⟩
  rw [hrun]
  rcases runPasses_cases (declared mark assets calls) root with
    ⟨hfailure, hall⟩ | ⟨applied, failing, rest, tree, log, cause, hsplit, happlied, hlast, hlog,
      hfailure⟩
  · exact .inl ⟨by rw [Run.error, hfailure]; rfl, hall⟩
  · exact .inr ⟨applied, failing, rest, tree, log, cause, hsplit, happlied, hlast, hlog,
      by rw [Run.error, hfailure]; rfl⟩

end Mdx.Pipeline
