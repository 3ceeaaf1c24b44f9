import Mdx.Module.Binding
import Mdx.Proofs.Text

/-!
# Scanning host blocks

The statements of a block are found in one scan over its characters (`statements_eq_scan`): a line
feed ends a line, a semicolon ends a statement as well, and a line continues the statement before it
unless it opens one. White space and semicolons between statements leave the statements before them
alone (`Scan.finish_run`), and a line feed with white space around it ends a line and nothing else
(`Scan.run_feed`).
-/

namespace Mdx.Module

open Text

/-! ## The scan -/

/-- The state of a scan: the statements that have ended, the one that is open, and the text since
the last line feed or semicolon. -/
structure Scan where
  done : List (List Char) := []
  current : Option (List Char) := none
  piece : List Char := []

namespace Scan

/-- The statements that were met, the open one last. -/
def all (σ : Scan) : List (List Char) :=
  σ.done ++ σ.current.toList

/-- The end of a line. -/
def endLine (σ : Scan) : Scan :=
  let text := trim σ.piece
  if text.isEmpty then { σ with piece := [] }
  else
    match σ.current with
    | some statement =>
      if opens text then { done := σ.done ++ [statement], current := some text }
      else { done := σ.done, current := some (statement ++ ' ' :: text) }
    | none => { done := σ.done, current := some text }

/-- The statements when the text ends here. -/
def finish (σ : Scan) : List (List Char) :=
  σ.endLine.all

/-- The end of a statement. -/
def endStatement (σ : Scan) : Scan :=
  { done := σ.finish }

def step (σ : Scan) (c : Char) : Scan :=
  if c = ';' then σ.endStatement
  else if c = '\n' then σ.endLine
  else { σ with piece := σ.piece ++ [c] }

def run (σ : Scan) (s : List Char) : Scan :=
  s.foldl step σ

theorem run_append (σ : Scan) (s t : List Char) : σ.run (s ++ t) = (σ.run s).run t :=
  List.foldl_append

theorem run_cons (σ : Scan) (c : Char) (s : List Char) : σ.run (c :: s) = (σ.step c).run s := rfl

variable {σ : Scan}

/-- A line of white space changes nothing. -/
theorem endLine_blank (h : trim σ.piece = []) : σ.endLine = { σ with piece := [] } := by
  simp [endLine, h]

theorem endLine_none (h : trim σ.piece ≠ []) (hcurrent : σ.current = none) :
    σ.endLine = ⟨σ.done, some (trim σ.piece), []⟩ := by
  simp [endLine, h, hcurrent]

/-- A line that opens a statement ends the one before it. -/
theorem endLine_opens {statement : List Char} (h : trim σ.piece ≠ [])
    (hcurrent : σ.current = some statement) (hopens : opens (trim σ.piece) = true) :
    σ.endLine = ⟨σ.done ++ [statement], some (trim σ.piece), []⟩ := by
  simp [endLine, h, hcurrent, hopens]

/-- A line that opens a statement leaves those before it alone. -/
theorem endLine_start (h : trim σ.piece ≠ []) (hopens : opens (trim σ.piece) = true) :
    σ.endLine = ⟨σ.all, some (trim σ.piece), []⟩ := by
  cases hcurrent : σ.current with
  | none => simp [endLine_none h hcurrent, all, hcurrent]
  | some statement => simp [endLine_opens h hcurrent hopens, all, hcurrent]

/-- Any other line continues it. -/
theorem endLine_continues {statement : List Char} (h : trim σ.piece ≠ [])
    (hcurrent : σ.current = some statement) (hopens : opens (trim σ.piece) = false) :
    σ.endLine = ⟨σ.done, some (statement ++ ' ' :: trim σ.piece), []⟩ := by
  simp [endLine, h, hcurrent, hopens]

@[simp] theorem piece_endLine (σ : Scan) : σ.endLine.piece = [] := by
  by_cases h : trim σ.piece = []
  · rw [endLine_blank h]
  · cases hcurrent : σ.current with
    | none => rw [endLine_none h hcurrent]
    | some statement =>
        cases hopens : opens (trim σ.piece) with
        | true => rw [endLine_opens h hcurrent hopens]
        | false => rw [endLine_continues h hcurrent hopens]

end Scan

/-! ### Agreement with the statements of a block -/

/-- A line feed or a semicolon. -/
def isBreak (c : Char) : Bool :=
  c = ';' || c = '\n'

theorem trim_ne_semicolon {p : List Char} (h : ';' ∉ p) : ';' ∉ trim p := by
  obtain ⟨b, b', -, -, hp⟩ := exists_trim p
  intro hmem
  apply h
  rw [hp]
  simp [hmem]

theorem bare_piece {p : List Char} (h : ';' ∉ p) : bare p = trim p := by
  rw [bare, dropEndWhile_of_notMem (trim_ne_semicolon h), trimRight_trim]

theorem bare_ended {p : List Char} (h : ';' ∉ p) : bare (p ++ [';']) = trim p := by
  have hleft : ';' ∉ trimLeft p := fun hmem => h ((List.dropWhile_suffix _).subset hmem)
  have htrim : trim (p ++ [';']) = trimLeft p ++ [';'] := by
    rw [trim, trimLeft_concat p (by decide)]
    exact dropEndWhile_concat _ (by decide)
  rw [bare, htrim, dropEndWhile_append _ (by simp), dropEndWhile_of_notMem hleft, trim]

/-- One piece is gathered as a line or a statement that ends. -/
theorem gather_cons {σ : Scan} {piece : List Char} (h : bare piece = trim σ.piece) (ended : Bool)
    (rest : List (List Char × Bool)) :
    σ.done ++ gather σ.current ((piece, ended) :: rest)
      = if ended then σ.endStatement.done ++ gather none rest
        else σ.endLine.done ++ gather σ.endLine.current rest := by
  rw [gather.eq_def]
  simp only [h, Scan.endStatement, Scan.finish, Scan.all]
  by_cases hblank : trim σ.piece = []
  · rw [Scan.endLine_blank hblank]
    cases ended <;> simp [hblank]
  · have hne : (trim σ.piece).isEmpty = false := by simpa using hblank
    cases hcurrent : σ.current with
    | none =>
        rw [Scan.endLine_none hblank hcurrent]
        cases ended <;> simp [hne]
    | some statement =>
        cases hopens : opens (trim σ.piece) with
        | true =>
            rw [Scan.endLine_opens hblank hcurrent hopens]
            cases ended <;> simp [hne]
        | false =>
            rw [Scan.endLine_continues hblank hcurrent hopens]
            cases ended <;> simp [hne]

/-- A text without line feeds is one line. -/
theorem splitLines_of_notMem {p : List Char} (hne : p ≠ []) (h : '\n' ∉ p) :
    splitLines p = [p] := by
  induction p with
  | nil => exact absurd rfl hne
  | cons c p ih =>
      simp only [List.mem_cons, not_or] at h
      obtain ⟨hc, hp⟩ := h
      have hc : (c == '\n') = false := by simpa using Ne.symm hc
      rw [splitLines, hc, if_neg (by simp)]
      by_cases hnil : p = []
      · rw [hnil]
        rfl
      · rw [ih hnil hp]

theorem splitLines_feed {p : List Char} (h : '\n' ∉ p) (s : List Char) :
    splitLines (p ++ '\n' :: s) = (p ++ ['\n']) :: splitLines s := by
  induction p with
  | nil => rfl
  | cons c p ih =>
      simp only [List.mem_cons, not_or] at h
      obtain ⟨hc, hp⟩ := h
      have hc : (c == '\n') = false := by simpa using Ne.symm hc
      rw [List.cons_append, splitLines, hc, if_neg (by simp), ih hp]
      rfl

theorem splitLines_append {p s line : List Char} {more : List (List Char)} (h : '\n' ∉ p)
    (hs : splitLines s = line :: more) : splitLines (p ++ s) = (p ++ line) :: more := by
  induction p with
  | nil => exact hs
  | cons c p ih =>
      simp only [List.mem_cons, not_or] at h
      obtain ⟨hc, hp⟩ := h
      have hc : (c == '\n') = false := by simpa using Ne.symm hc
      rw [List.cons_append, splitLines, hc, if_neg (by simp), ih hp]
      rfl

/-- What follows a semicolon in a line is not a part of its piece. -/
theorem pieces_semicolon {p : List Char} (h : ';' ∉ p) (s : List Char) :
    pieces (p ++ ';' :: s) = (p ++ [';'], true) :: pieces s := by
  induction p with
  | nil => rfl
  | cons c p ih =>
      simp only [List.mem_cons, not_or] at h
      obtain ⟨hc, hp⟩ := h
      rw [List.cons_append, pieces, if_neg (Ne.symm hc), ih hp]
      rfl

theorem pieces_of_notMem {p : List Char} (hne : p ≠ []) (h : ';' ∉ p) :
    pieces p = [(p, false)] := by
  induction p with
  | nil => exact absurd rfl hne
  | cons c p ih =>
      simp only [List.mem_cons, not_or] at h
      obtain ⟨hc, hp⟩ := h
      rw [pieces, if_neg (Ne.symm hc)]
      by_cases hnil : p = []
      · rw [hnil]
        rfl
      · rw [ih hnil hp]

/-- The pieces of a text, line by line. -/
def allPieces (s : List Char) : List (List Char × Bool) :=
  (lines s).flatMap pieces

theorem chomp_of_notMem {p : List Char} (h : '\n' ∉ p) : chomp p = p := by
  have hmem : ∀ rest, p.reverse ≠ '\n' :: rest := fun rest hrest =>
    h (List.mem_reverse.mp (hrest ▸ List.mem_cons_self))
  rw [chomp.eq_def]
  split
  · exact absurd ‹_› (hmem _)
  · exact absurd ‹_› (hmem _)
  · rfl

/-- The end of a line is white space. -/
theorem chomp_feed (p : List Char) : ∃ b, Blank b ∧ p = chomp (p ++ ['\n']) ++ b := by
  rcases List.eq_nil_or_concat p with rfl | ⟨t, c, rfl⟩
  · exact ⟨[], .nil, rfl⟩
  · rw [List.concat_eq_append]
    by_cases hc : c = '\r'
    · subst hc
      refine ⟨['\r'], by simp [Blank, isBlank], ?_⟩
      simp [chomp]
    · refine ⟨[], .nil, ?_⟩
      simp [chomp, hc]

theorem trim_chomp (p : List Char) : trim (chomp (p ++ ['\n'])) = trim p := by
  obtain ⟨b, hb, hp⟩ := chomp_feed p
  calc
    trim (chomp (p ++ ['\n'])) = trim (chomp (p ++ ['\n']) ++ b) := (trim_append _ hb).symm
    _ = trim p := by rw [← hp]

theorem chomp_semicolon (p line : List Char) :
    chomp (p ++ ';' :: line) = p ++ ';' :: chomp line := by
  rcases List.eq_nil_or_concat line with rfl | ⟨t, c, rfl⟩
  · simp [chomp]
  · rw [List.concat_eq_append]
    by_cases hc : c = '\n'
    · subst hc
      rcases List.eq_nil_or_concat t with rfl | ⟨t, c, rfl⟩
      · simp [chomp]
      · by_cases hc : c = '\r' <;> simp [chomp, hc]
    · simp [chomp, hc]

theorem allPieces_of_notMem {p : List Char} (hfeed : '\n' ∉ p) (hsemicolon : ';' ∉ p) :
    allPieces p = if p = [] then [] else [(p, false)] := by
  by_cases hnil : p = []
  · rw [hnil]
    rfl
  · rw [allPieces, lines, splitLines_of_notMem hnil hfeed, if_neg hnil, List.map_singleton,
      chomp_of_notMem hfeed, List.flatMap_singleton, pieces_of_notMem hnil hsemicolon]

theorem allPieces_feed {p : List Char} (hfeed : '\n' ∉ p) (s : List Char) :
    allPieces (p ++ '\n' :: s) = pieces (chomp (p ++ ['\n'])) ++ allPieces s := by
  rw [allPieces, lines, splitLines_feed hfeed, List.map_cons, List.flatMap_cons]
  rfl

theorem allPieces_semicolon {p : List Char} (hfeed : '\n' ∉ p) (hsemicolon : ';' ∉ p)
    (s : List Char) : allPieces (p ++ ';' :: s) = (p ++ [';'], true) :: allPieces s := by
  have hfeed' : '\n' ∉ p ++ [';'] := by simp [hfeed]
  have hsplit : p ++ ';' :: s = (p ++ [';']) ++ s := by simp
  rw [hsplit, allPieces, allPieces, lines, lines]
  cases hs : splitLines s with
  | nil =>
      have hnil : s = [] := by
        cases s with
        | nil => rfl
        | cons c s =>
            rw [splitLines] at hs
            split at hs
            · cases hs
            · split at hs <;> cases hs
      rw [hnil, List.append_nil, splitLines_of_notMem (by simp) hfeed', List.map_singleton,
        chomp_of_notMem hfeed', List.flatMap_singleton, pieces_semicolon hsemicolon]
      rfl
  | cons line more =>
      rw [splitLines_append hfeed' hs, List.map_cons, List.flatMap_cons, List.append_assoc,
        List.singleton_append, chomp_semicolon, pieces_semicolon hsemicolon, List.map_cons,
        List.flatMap_cons, List.cons_append]

/-- A scan finds the statements that are gathered from the pieces of the text. -/
theorem finish_run_eq_gather (s : List Char) {σ : Scan} (hfeed : '\n' ∉ σ.piece)
    (hsemicolon : ';' ∉ σ.piece) :
    (σ.run s).finish = σ.done ++ gather σ.current (allPieces (σ.piece ++ s)) := by
  induction s generalizing σ with
  | nil =>
      rw [List.append_nil, allPieces_of_notMem hfeed hsemicolon]
      by_cases hnil : σ.piece = []
      · have hblank : trim σ.piece = [] := by rw [hnil]; rfl
        rw [if_pos hnil]
        simp [Scan.run, Scan.finish, Scan.endLine_blank hblank, Scan.all, gather]
      · rw [if_neg hnil, gather_cons (bare_piece hsemicolon)]
        simp [Scan.run, Scan.finish, Scan.all, gather]
  | cons c s ih =>
      rw [Scan.run_cons, Scan.step]
      by_cases hend : c = ';'
      · subst hend
        rw [if_pos rfl, ih (by simp [Scan.endStatement]) (by simp [Scan.endStatement]),
          allPieces_semicolon hfeed hsemicolon, gather_cons (bare_ended hsemicolon)]
        rfl
      · by_cases hline : c = '\n'
        · subst hline
          obtain ⟨b, -, hpiece⟩ := chomp_feed σ.piece
          have hchomp : ';' ∉ chomp (σ.piece ++ ['\n']) := by
            intro hmem
            apply hsemicolon
            rw [hpiece]
            exact List.mem_append_left _ hmem
          -- A carriage return before the line feed is taken off, but it is white space anyway.
          have htrim := trim_chomp σ.piece
          rw [if_neg hend, if_pos rfl, ih (by simp) (by simp), allPieces_feed hfeed]
          by_cases hnil : chomp (σ.piece ++ ['\n']) = []
          · rw [hnil] at htrim ⊢
            rw [Scan.endLine_blank htrim.symm]
            rfl
          · rw [pieces_of_notMem hnil hchomp, List.singleton_append,
              gather_cons ((bare_piece hchomp).trans htrim)]
            simp
        · have hnew : ∀ d : Char, d ≠ c → d ∉ σ.piece → d ∉ σ.piece ++ [c] := by
            intro d hd hmem
            simp [hmem, hd]
          rw [if_neg hend, if_neg hline, ih (hnew _ (Ne.symm hline) hfeed)
            (hnew _ (Ne.symm hend) hsemicolon)]
          simp

/-- The statements of a block are found in one scan. -/
theorem statements_eq_scan (block : List Char) : statements block = (Scan.run {} block).finish := by
  have hrun := finish_run_eq_gather block (σ := {}) (by simp) (by simp)
  rw [hrun]
  rfl

/-! ## Plain text and white space -/

/-- White space or a semicolon: what may stand between statements. -/
def isIdle (c : Char) : Bool :=
  isBlank c || c = ';'

theorem blank_of_idle {c : Char} (h : isIdle c = true) (hbreak : isBreak c = false) :
    isBlank c = true := by
  rw [isBreak, Bool.or_eq_false_iff, decide_eq_false_iff_not] at hbreak
  rw [isIdle, Bool.or_eq_true, decide_eq_true_eq] at h
  exact h.resolve_right hbreak.1

namespace Scan

variable {σ : Scan}

/-- A line feed or a semicolon ends the line. -/
theorem step_break {c : Char} (h : isBreak c = true) :
    (σ.step c).all = σ.finish ∧ (σ.step c).piece = [] := by
  rw [isBreak, Bool.or_eq_true, decide_eq_true_eq, decide_eq_true_eq] at h
  rw [step]
  split
  · simp [endStatement, all]
  · rw [if_pos (h.resolve_left ‹_›), piece_endLine]
    exact ⟨rfl, rfl⟩

theorem step_plain {c : Char} (h : isBreak c = false) :
    σ.step c = { σ with piece := σ.piece ++ [c] } := by
  rw [isBreak, Bool.or_eq_false_iff, decide_eq_false_iff_not, decide_eq_false_iff_not] at h
  rw [step, if_neg h.1, if_neg h.2]

/-- Text without line feeds and semicolons is added to the piece. -/
theorem run_plain {s : List Char} (h : ∀ c ∈ s, isBreak c = false) :
    σ.run s = { σ with piece := σ.piece ++ s } := by
  induction s generalizing σ with
  | nil => simp [run]
  | cons c s ih =>
      obtain ⟨hc, hs⟩ := List.forall_mem_cons.mp h
      rw [run_cons, step_plain hc, ih hs]
      simp

/-- White space at the end of a line does not matter. -/
theorem endLine_append {b : List Char} (hb : Blank b) :
    endLine { σ with piece := σ.piece ++ b } = σ.endLine := by
  simp only [endLine, trim_append _ hb]

theorem finish_blank (h : Blank σ.piece) : σ.finish = σ.all := by
  rw [finish, endLine_blank (trim_blank h)]
  rfl

/-- What may stand between statements leaves the statements before it alone. -/
theorem finish_step {c : Char} (h : isIdle c = true) : (σ.step c).finish = σ.finish := by
  cases hbreak : isBreak c with
  | true =>
      obtain ⟨hall, hpiece⟩ := step_break (σ := σ) hbreak
      rw [finish_blank (by simp [hpiece, Blank]), hall]
  | false =>
      rw [step_plain hbreak, finish, endLine_append (.singleton (blank_of_idle h hbreak)), finish]

theorem finish_run {s : List Char} (h : ∀ c ∈ s, isIdle c = true) :
    (σ.run s).finish = σ.finish := by
  induction s generalizing σ with
  | nil => rfl
  | cons c s ih =>
      obtain ⟨hc, hs⟩ := List.forall_mem_cons.mp h
      rw [run_cons, ih hs, finish_step hc]

theorem blank_step {c : Char} (hblank : Blank σ.piece) (h : isIdle c = true) :
    Blank (σ.step c).piece := by
  cases hbreak : isBreak c with
  | true => simp [(step_break (σ := σ) hbreak).2, Blank]
  | false =>
      rw [step_plain hbreak]
      exact hblank.append (.singleton (blank_of_idle h hbreak))

theorem blank_run {s : List Char} (hblank : Blank σ.piece) (h : ∀ c ∈ s, isIdle c = true) :
    Blank (σ.run s).piece := by
  induction s generalizing σ with
  | nil => exact hblank
  | cons c s ih =>
      obtain ⟨hc, hs⟩ := List.forall_mem_cons.mp h
      exact ih (blank_step hblank hc) hs

/-- After a line feed or a semicolon there is only white space. -/
theorem blank_run_stop {s : List Char} (h : ∀ c ∈ s, isIdle c = true)
    (hbreak : ∃ c ∈ s, isBreak c = true) : Blank (σ.run s).piece := by
  induction s generalizing σ with
  | nil => simp at hbreak
  | cons c s ih =>
      obtain ⟨hc, hs⟩ := List.forall_mem_cons.mp h
      rw [run_cons]
      by_cases hhere : isBreak c = true
      · exact blank_run (by simp [(step_break (σ := σ) hhere).2, Blank]) hs
      · obtain ⟨d, hd, hdbreak⟩ := hbreak
        rcases List.mem_cons.mp hd with rfl | hd
        · exact absurd hdbreak hhere
        · exact ih hs ⟨d, hd, hdbreak⟩

theorem step_blank {c : Char} (h : isBlank c = true) (hline : c ≠ '\n') :
    σ.step c = { σ with piece := σ.piece ++ [c] } := by
  have hsemicolon : c ≠ ';' := by
    rintro rfl
    exact absurd h (by decide)
  exact step_plain (by simp [isBreak, hsemicolon, hline])

/-- White space in an empty line changes nothing else. -/
theorem run_blank {s : List Char} (hblank : Blank σ.piece) (h : Blank s) :
    ∃ ws, Blank ws ∧ σ.run s = { σ with piece := ws } := by
  induction s generalizing σ with
  | nil => exact ⟨σ.piece, hblank, rfl⟩
  | cons c s ih =>
      obtain ⟨hc, hs⟩ := List.forall_mem_cons.mp h
      have hstep : ∃ ws, Blank ws ∧ σ.step c = { σ with piece := ws } := by
        by_cases hline : c = '\n'
        · subst hline
          refine ⟨[], .nil, ?_⟩
          rw [← endLine_blank (trim_blank hblank)]
          simp [step]
        · exact ⟨σ.piece ++ [c], hblank.append (.singleton hc), step_blank hc hline⟩
      obtain ⟨ws, hws, hstep⟩ := hstep
      rw [run_cons, hstep]
      exact ih hws hs

/-- A line feed with white space around it ends the line and nothing else. -/
theorem run_feed {g : List Char} (hblank : Blank g) (hfeed : '\n' ∈ g) :
    ∃ ws, Blank ws ∧ σ.run g = { σ.endLine with piece := ws } := by
  induction g generalizing σ with
  | nil => simp at hfeed
  | cons c g ih =>
      obtain ⟨hc, hg⟩ := List.forall_mem_cons.mp hblank
      by_cases hline : c = '\n'
      · subst hline
        have hstep : σ.step '\n' = σ.endLine := by simp [step]
        rw [run_cons, hstep]
        exact run_blank (by simp [Blank]) hg
      · have hrest : '\n' ∈ g := (List.mem_cons.mp hfeed).resolve_left (Ne.symm hline)
        obtain ⟨ws, hws, hrun⟩ := ih (σ := σ.step c) hg hrest
        refine ⟨ws, hws, ?_⟩
        rw [run_cons, hrun, step_blank hc hline, endLine_append (.singleton hc)]

end Scan

end Mdx.Module
