import Mdx.Proofs.Module.Scan

/-!
# Import and export statements

The statements that host blocks are made of, with the ways they can be laid out: words are separated
by a gap, which is one space or a line feed with white space around it, and there may be a gap on
either side of a brace or a comma. A scan of a block finds, in order,

* for an import, one statement in which every gap is a single space (`Import.finish_run`);
* for an export, one statement that begins with its head, and then statements without any of the
  words that matter at the start of a statement (`Export.finish_run`).
-/

namespace Mdx.Module

open Text

/-! ## Words -/

/-- The runs of name characters in a text. -/
def runs (s : List Char) : List (List Char) :=
  splitAt (fun c => !isNameChar c) s

/-- The code points of white space. -/
def blankCodes : List Nat :=
  [0x09, 0x0a, 0x0b, 0x0c, 0x0d, 0x20, 0x85, 0xa0, 0x1680, 0x2000, 0x2001, 0x2002, 0x2003, 0x2004,
    0x2005, 0x2006, 0x2007, 0x2008, 0x2009, 0x200a, 0x2028, 0x2029, 0x202f, 0x205f, 0x3000]

theorem isNameChar_blank {c : Char} (h : isBlank c = true) : isNameChar c = false := by
  have hranges : blankCodes = List.range' 0x09 5 ++ [0x20, 0x85, 0xa0, 0x1680]
      ++ List.range' 0x2000 11 ++ [0x2028, 0x2029, 0x202f, 0x205f, 0x3000] := rfl
  have hcode : c.toNat ∈ blankCodes := by
    simp only [isBlank, Bool.or_eq_true, Bool.and_eq_true, decide_eq_true_eq, beq_iff_eq] at h
    simp only [hranges, List.mem_append, List.mem_range'_1, List.mem_cons, List.not_mem_nil,
      or_false]
    omega
  have hcodes : ∀ n ∈ blankCodes, isNameChar (Char.ofNat n) = false := by decide +kernel
  have hc := hcodes c.toNat hcode
  rwa [Char.ofNat_toNat] at hc

theorem isBlank_nameChar {c : Char} (h : isNameChar c = true) : isBlank c = false := by
  cases hblank : isBlank c with
  | true => rw [isNameChar_blank hblank] at h; cases h
  | false => rfl

theorem isBreak_nameChar {c : Char} (h : isNameChar c = true) : isBreak c = false := by
  have hsemicolon : c ≠ ';' := by rintro rfl; exact absurd h (by decide)
  have hfeed : c ≠ '\n' := by rintro rfl; exact absurd h (by decide)
  simp [isBreak, hsemicolon, hfeed]

theorem isNameChar_space : isNameChar ' ' = false :=
  isNameChar_blank rfl

/-- A text that does not go on with a name. -/
def Apart (s : List Char) : Prop :=
  ∀ c ∈ s.head?, isNameChar c = false

theorem Apart.nil : Apart [] := by
  simp [Apart]

theorem Apart.cons {c : Char} (h : isNameChar c = false) (s : List Char) : Apart (c :: s) := by
  simpa [Apart] using h

theorem Apart.left {s t : List Char} (h : Apart (s ++ t)) : Apart s := by
  cases s with
  | nil => exact .nil
  | cons c s => exact .cons (h c rfl) s

theorem takeWhile_apart {word rest : List Char} (hword : ∀ c ∈ word, isNameChar c = true)
    (hrest : Apart rest) : (word ++ rest).takeWhile isNameChar = word := by
  rw [List.takeWhile_append_of_pos hword]
  cases rest with
  | nil => simp
  | cons c rest => simp [hrest c rfl]

theorem runs_append {c : Char} (hc : isNameChar c = false) (s t : List Char) :
    runs (s ++ c :: t) = runs s ++ runs t :=
  splitAt_append (by simp [hc]) s t

theorem runs_word {word : List Char} (h : ∀ c ∈ word, isNameChar c = true) : runs word = [word] :=
  splitAt_of_forall fun c hc => by simp [h c hc]

/-! ## The parts of statements -/

/-- The words that are not used as names. -/
def reserved : List String := ["from", "as", "import", "export", "const"]

/-- A character that a name may start with. -/
def startsName (c : Char) : Bool :=
  isAlphabetic c || c = '_' || c = '$'

/-- A name that statements can bind. -/
structure Name where
  chars : List Char
  start : ∃ c rest, chars = c :: rest ∧ startsName c = true
  nameChars : ∀ c ∈ chars, isNameChar c = true
  free : String.ofList chars ∉ reserved

/-- One space, or a line feed with white space around it. -/
structure Gap where
  chars : List Char
  layout : chars = [' '] ∨ Blank chars ∧ '\n' ∈ chars

def Gap.space : Gap := ⟨[' '], .inl rfl⟩

/-- A module in quotes. -/
structure Quoted where
  quote : Char
  module : List Char
  isQuote : quote = '\'' ∨ quote = '"'
  oneLine : ∀ c ∈ module, isBreak c = false
  noFrom : ¬ " from ".toList <:+: module

def Quoted.chars (q : Quoted) : List Char :=
  q.quote :: (q.module ++ [q.quote])

/-- The parts that an import is made of. -/
inductive Lexeme where
  | name (n : Name)
  | asWord
  | fromWord
  | star
  | opening
  | closing
  | comma
  | quoted (q : Quoted)

namespace Lexeme

def chars : Lexeme → List Char
  | name n => n.chars
  | asWord => "as".toList
  | fromWord => "from".toList
  | star => ['*']
  | opening => ['\x7b']
  | closing => ['\x7d']
  | comma => [',']
  | quoted q => q.chars

/-- A part that is not a word. -/
def isMark : Lexeme → Bool
  | name _ | asWord | fromWord => false
  | star | opening | closing | comma | quoted _ => true

end Lexeme

/-- A part with the gap before it. -/
structure Token where
  gap : Option Gap
  lexeme : Lexeme

def gapChars (gap : Option Gap) : List Char :=
  gap.elim [] Gap.chars

/-- A gap on one line. -/
def gapFlat (gap : Option Gap) : List Char :=
  gap.elim [] fun _ => [' ']

def tokensChars (tokens : List Token) : List Char :=
  tokens.flatMap fun t => gapChars t.gap ++ t.lexeme.chars

/-- Tokens on one line. -/
def tokensFlat (tokens : List Token) : List Char :=
  tokens.flatMap fun t => gapFlat t.gap ++ t.lexeme.chars

@[simp] theorem gapFlat_none : gapFlat none = [] := rfl

@[simp] theorem gapFlat_some (g : Gap) : gapFlat (some g) = [' '] := rfl

@[simp] theorem tokensFlat_nil : tokensFlat [] = [] := rfl

@[simp] theorem tokensFlat_cons (t : Token) (ts : List Token) :
    tokensFlat (t :: ts) = gapFlat t.gap ++ (t.lexeme.chars ++ tokensFlat ts) := by
  simp [tokensFlat]

@[simp] theorem tokensFlat_append (ts us : List Token) :
    tokensFlat (ts ++ us) = tokensFlat ts ++ tokensFlat us :=
  List.flatMap_append

/-- Of two tokens without a gap between them one is a mark; `mark` is what stands before the first
token. -/
def Linked (mark : Bool) : List Token → Prop
  | [] => True
  | t :: ts => (t.gap = none → t.lexeme.isMark = true ∨ mark = true) ∧ Linked t.lexeme.isMark ts

/-! ## Imports -/

/-- One name that is imported, perhaps under an alias. -/
structure Specifier where
  imported : Name
  alias? : Option (Gap × Gap × Name)

/-- What follows an opening brace. -/
inductive Items where
  | close (before : Option Gap)
  | last (before : Option Gap) (item : Specifier) (after : Option Gap)
  | more (before : Option Gap) (item : Specifier) (after : Option Gap) (rest : Items)

/-- Names in braces, or a name for the whole module. -/
inductive Group where
  | named (items : Items)
  | whole (before after : Gap) (name : Name)

/-- What an import binds. -/
inductive Clause where
  | default (name : Name)
  | group (g : Group)
  | both (name : Name) (before after : Option Gap) (g : Group)

def Specifier.tokens (before : Option Gap) (s : Specifier) : List Token :=
  ⟨before, .name s.imported⟩ ::
    match s.alias? with
    | none => []
    | some (gap, gap', name) => [⟨some gap, .asWord⟩, ⟨some gap', .name name⟩]

/-- The name that is bound. -/
def Specifier.bound (s : Specifier) : Name :=
  match s.alias? with
  | none => s.imported
  | some (_, _, name) => name

def Items.tokens : Items → List Token
  | close before => [⟨before, .closing⟩]
  | last before item after => item.tokens before ++ [⟨after, .closing⟩]
  | more before item after rest => item.tokens before ++ ⟨after, .comma⟩ :: rest.tokens

def Items.names : Items → List Name
  | close _ => []
  | last _ item _ => [item.bound]
  | more _ item _ rest => item.bound :: rest.names

def Group.tokens (before : Option Gap) : Group → List Token
  | named items => ⟨before, .opening⟩ :: items.tokens
  | whole gap gap' name => [⟨before, .star⟩, ⟨some gap, .asWord⟩, ⟨some gap', .name name⟩]

def Group.isBraced : Group → Bool
  | named _ => true
  | whole .. => false

def Group.names : Group → List Name
  | named items => items.names
  | whole _ _ name => [name]

def Clause.tokens (before : Option Gap) : Clause → List Token
  | default name => [⟨before, .name name⟩]
  | group g => g.tokens before
  | both name gap gap' g => ⟨before, .name name⟩ :: ⟨gap, .comma⟩ :: g.tokens gap'

/-- The clause ends with a brace. -/
def Clause.isBraced : Clause → Bool
  | default _ => false
  | group g | both _ _ _ g => g.isBraced

def Clause.names : Clause → List Name
  | default name => [name]
  | group g => g.names
  | both name _ _ g => name :: g.names

/-- An import. The word `from` can touch a brace before it, but not a name. -/
structure Import where
  clause : Clause
  before : Option Gap
  after : Option Gap
  quoted : Quoted
  apart : before = none → clause.isBraced = true

def Import.tokens (i : Import) : List Token :=
  i.clause.tokens (some .space) ++ [⟨i.before, .fromWord⟩, ⟨i.after, .quoted i.quoted⟩]

def Import.chars (i : Import) : List Char :=
  "import".toList ++ tokensChars i.tokens

/-- The import on one line. -/
def Import.flat (i : Import) : List Char :=
  "import".toList ++ tokensFlat i.tokens

/-! ## Exports -/

/-- The words that matter at the start of a statement. -/
def heeded : List String := ["import", "export", layoutName]

/-- A text without the words that matter at the start of a statement. -/
def Silent (s : List Char) : Prop :=
  ∀ word ∈ heeded, word.toList ∉ runs s

/-- An export of a declaration, with any text after the name but for the words that matter. -/
structure Export where
  declarator : String
  name : Name
  rest : List Char
  declares : declarator ∈ declarators
  apart : Apart rest
  silent : Silent rest

def Export.head (e : Export) : List Char :=
  "export ".toList ++ (e.declarator.toList ++ e.name.chars)

def Export.chars (e : Export) : List Char :=
  e.head ++ e.rest

/-! ## Blocks -/

inductive Statement where
  | imports (i : Import)
  | exports (e : Export)

/-- White space and semicolons. -/
structure Idle where
  chars : List Char
  idle : ∀ c ∈ chars, isIdle c = true

/-- What ends a statement. -/
structure Stop extends Idle where
  breaks : ∃ c ∈ chars, isBreak c = true

inductive Body where
  | nil
  | last (s : Statement) (tail : Idle)
  | more (s : Statement) (stop : Stop) (rest : Body)

structure Block where
  lead : Idle
  body : Body

def Statement.chars : Statement → List Char
  | imports i => i.chars
  | exports e => e.chars

/-- The names that a statement binds. -/
def Statement.names : Statement → List String
  | imports i => i.clause.names.map fun name => String.ofList name.chars
  | exports e => [String.ofList e.name.chars]

def Body.chars : Body → List Char
  | nil => []
  | last s tail => s.chars ++ tail.chars
  | more s stop rest => s.chars ++ (stop.chars ++ rest.chars)

def Body.statements : Body → List Statement
  | nil => []
  | last s _ => [s]
  | more s _ rest => s :: rest.statements

def Block.chars (b : Block) : List Char :=
  b.lead.chars ++ b.body.chars

def Block.statements (b : Block) : List Statement :=
  b.body.statements

/-! ## Scanning an import -/

theorem Name.solid (n : Name) : Solid n.chars := by
  refine .of_forall ?_ fun c hc => isBlank_nameChar (n.nameChars c hc)
  obtain ⟨c, rest, hchars, -⟩ := n.start
  simp [hchars]

/-- The words of the openers. -/
def openingWords : List (List Char) := ["import".toList, "export".toList, "const".toList]

theorem Name.notMem_openingWords (n : Name) : n.chars ∉ openingWords := by
  have hreserved : ∀ word ∈ openingWords, String.ofList word ∈ reserved := by decide
  exact fun hmem => n.free (hreserved _ hmem)

/-- A line opens a statement only if its first word is that of an opener. -/
theorem opens_eq_false {s : List Char} (h : s.takeWhile isNameChar ∉ openingWords) :
    opens s = false := by
  cases hopens : opens s with
  | false => rfl
  | true =>
      refine absurd ?_ h
      obtain ⟨word, hword, hbegins⟩ := List.any_eq_true.mp hopens
      obtain ⟨rest, rfl⟩ := begins_iff.mp hbegins
      have hopeners : openers.map String.toList = openingWords.map (· ++ [' ']) := rfl
      have hnames : ∀ word ∈ openingWords, word.all isNameChar = true := by decide
      obtain ⟨name, hname, hspaced⟩ := List.mem_map.mp (hopeners ▸ List.mem_map_of_mem hword)
      rw [← hspaced, List.append_assoc, List.singleton_append,
        takeWhile_apart (List.all_eq_true.mp (hnames name hname)) (.cons isNameChar_space rest)]
      exact hname

namespace Lexeme

/-- A mark begins with a character that is not in names. -/
theorem mark_chars {l : Lexeme} (h : l.isMark = true) :
    ∃ c rest, l.chars = c :: rest ∧ isNameChar c = false := by
  cases l with
  | name | asWord | fromWord => cases h
  | star | opening | closing | comma => exact ⟨_, _, rfl, by decide⟩
  | quoted q =>
      refine ⟨_, _, rfl, ?_⟩
      rcases q.isQuote with hq | hq <;> rw [hq] <;> decide

theorem word_chars {l : Lexeme} (h : l.isMark = false) :
    (∀ c ∈ l.chars, isNameChar c = true) ∧ l.chars ∉ openingWords := by
  cases l with
  | name n => exact ⟨n.nameChars, n.notMem_openingWords⟩
  | asWord | fromWord => exact ⟨List.all_eq_true.mp rfl, by decide⟩
  | star | opening | closing | comma | quoted => cases h

theorem solid (l : Lexeme) : Solid l.chars := by
  cases l with
  | name n => exact n.solid
  | asWord | fromWord | star | opening | closing | comma =>
      exact .of_forall (by decide) (forall_of_all rfl)
  | quoted q =>
      have hq : isBlank q.quote = false := by rcases q.isQuote with hq | hq <;> rw [hq] <;> decide
      exact ⟨⟨_, _, rfl, hq⟩, ⟨q.quote :: q.module, _, rfl, hq⟩⟩

theorem oneLine (l : Lexeme) : ∀ c ∈ l.chars, isBreak c = false := by
  cases l with
  | name n => exact fun c hc => isBreak_nameChar (n.nameChars c hc)
  | asWord | fromWord | star | opening | closing | comma => exact forall_of_all rfl
  | quoted q =>
      have hq : isBreak q.quote = false := by rcases q.isQuote with hq | hq <;> rw [hq] <;> decide
      intro c hc
      simp only [chars, Quoted.chars, List.mem_cons, List.mem_append, List.not_mem_nil,
        or_false] at hc
      rcases hc with rfl | hc | rfl
      · exact hq
      · exact q.oneLine c hc
      · exact hq

end Lexeme

/-- A line that does not open a statement, whatever is added to it as a token; `mark` says that its
last token is a mark. -/
structure Calm (mark : Bool) (line : List Char) : Prop where
  first : line.takeWhile isNameChar ∉ openingWords
  ended : mark = true → ∃ c ∈ line, isNameChar c = false

namespace Calm

variable {mark : Bool} {line : List Char}

theorem lexeme (l : Lexeme) : Calm l.isMark l.chars := by
  cases hmark : l.isMark with
  | true =>
      obtain ⟨c, rest, hchars, hc⟩ := l.mark_chars hmark
      refine ⟨?_, fun _ => ⟨c, by simp [hchars], hc⟩⟩
      rw [hchars, List.takeWhile_cons, if_neg (by simp [hc])]
      decide
  | false =>
      obtain ⟨hchars, hopening⟩ := l.word_chars hmark
      refine ⟨?_, fun h => by cases h⟩
      have hword := takeWhile_apart hchars .nil
      rw [List.append_nil] at hword
      rwa [hword]

/-- Once the first word has ended, nothing changes it. -/
theorem takeWhile_append {s t : List Char} (h : (∃ c ∈ s, isNameChar c = false) ∨ Apart t) :
    (s ++ t).takeWhile isNameChar = s.takeWhile isNameChar := by
  induction s with
  | nil =>
      rcases h with ⟨c, hc, -⟩ | ht
      · simp at hc
      · exact takeWhile_apart (by simp) ht
  | cons d s ih =>
      rw [List.cons_append, List.takeWhile_cons, List.takeWhile_cons]
      split
      · rename_i hd
        rw [ih]
        refine h.imp_left fun ⟨c, hc, hname⟩ => ⟨c, ?_, hname⟩
        rcases List.mem_cons.mp hc with rfl | hc
        · rw [hd] at hname
          cases hname
        · exact hc
      · rfl

theorem glue (h : Calm mark line) {l : Lexeme} (hlink : l.isMark = true ∨ mark = true) :
    Calm l.isMark (line ++ l.chars) := by
  refine ⟨?_, fun hmark => ?_⟩
  · rw [takeWhile_append]
    · exact h.first
    · rcases hlink with hlink | hlink
      · obtain ⟨c, rest, hchars, hc⟩ := l.mark_chars hlink
        exact .inr (hchars ▸ .cons hc rest)
      · exact .inl (h.ended hlink)
  · obtain ⟨c, rest, hchars, hc⟩ := l.mark_chars hmark
    exact ⟨c, by simp [hchars], hc⟩

theorem space (h : Calm mark line) (mark' : Bool) (more : List Char) :
    Calm mark' (line ++ ' ' :: more) := by
  refine ⟨?_, fun _ => ⟨' ', by simp, isNameChar_space⟩⟩
  rw [takeWhile_append (.inr (.cons isNameChar_space more))]
  exact h.first

end Calm

/-- In the middle of a statement: `flat` is what was read of it, on one line, and `mark` says that
its last token is a mark. Either the line that opened it goes on, or a later one. -/
inductive Within (done : List (List Char)) : List Char → Bool → Scan → Prop where
  | first {σ : Scan} {ws flat : List Char} {mark : Bool} (hws : Blank ws) (hall : σ.all = done)
      (hpiece : σ.piece = ws ++ flat) (hsolid : Solid flat)
      (hopens : ∀ more, opens (flat ++ more) = true) : Within done flat mark σ
  | later {σ : Scan} {ws s line : List Char} {mark : Bool} (hws : Blank ws) (hdone : σ.done = done)
      (hcurrent : σ.current = some s) (hpiece : σ.piece = ws ++ line) (hsolid : Solid line)
      (hcalm : Calm mark line) : Within done (s ++ ' ' :: line) mark σ

namespace Within

variable {done : List (List Char)} {flat : List Char} {mark : Bool} {σ : Scan}

theorem trim_piece {ws line : List Char} (hws : Blank ws) (hpiece : σ.piece = ws ++ line)
    (hsolid : Solid line) : trim σ.piece = line := by
  have htrim := trim_solid_append hws hsolid []
  rw [List.append_nil] at htrim
  rw [hpiece, htrim]
  exact List.append_nil line

/-- At the end of a line all that was read is one statement. -/
theorem endLine (h : Within done flat mark σ) : σ.endLine = ⟨done, some flat, []⟩ := by
  cases h with
  | first hws hall hpiece hsolid hopens =>
      have htrim := trim_piece hws hpiece hsolid
      have hne : trim σ.piece ≠ [] := by rw [htrim]; exact hsolid.ne_nil
      have hopens : opens (trim σ.piece) = true := by simpa [htrim] using hopens []
      rw [Scan.endLine_start hne hopens, htrim, hall]
  | later hws hdone hcurrent hpiece hsolid hcalm =>
      have htrim := trim_piece hws hpiece hsolid
      have hne : trim σ.piece ≠ [] := by rw [htrim]; exact hsolid.ne_nil
      have hopens : opens (trim σ.piece) = false := by rw [htrim]; exact opens_eq_false hcalm.first
      rw [Scan.endLine_continues hne hcurrent hopens, htrim, hdone]

theorem finish (h : Within done flat mark σ) : σ.finish = done ++ [flat] := by
  rw [Scan.finish, h.endLine]
  rfl

/-- One token is read. -/
theorem token (h : Within done flat mark σ) {t : Token}
    (hlink : t.gap = none → t.lexeme.isMark = true ∨ mark = true) :
    Within done (flat ++ (gapFlat t.gap ++ t.lexeme.chars)) t.lexeme.isMark
      (σ.run (gapChars t.gap ++ t.lexeme.chars)) := by
  obtain ⟨gap, l⟩ := t
  have hspaced : ∀ c ∈ ' ' :: l.chars, isBreak c = false :=
    List.forall_mem_cons.mpr ⟨rfl, l.oneLine⟩
  cases gap with
  | none =>
      rw [gapChars, gapFlat, Option.elim_none, Option.elim_none, List.nil_append,
        Scan.run_plain l.oneLine]
      cases h with
      | first hws hall hpiece hsolid hopens =>
          refine .first hws hall (by simp [hpiece]) (hsolid.append l.solid) fun more => ?_
          rw [List.append_assoc]
          exact hopens _
      | later hws hdone hcurrent hpiece hsolid hcalm =>
          rw [List.append_assoc, List.cons_append]
          exact .later hws hdone hcurrent (by simp [hpiece]) (hsolid.append l.solid)
            (hcalm.glue (hlink rfl))
  | some g =>
      rw [gapChars, gapFlat, Option.elim_some, Option.elim_some, List.singleton_append]
      rcases g.layout with hspace | ⟨hblank, hfeed⟩
      · rw [hspace, List.singleton_append, Scan.run_plain hspaced]
        cases h with
        | first hws hall hpiece hsolid hopens =>
            refine .first hws hall (by simp [hpiece]) (hsolid.join [' '] l.solid) fun more => ?_
            rw [List.append_assoc]
            exact hopens _
        | later hws hdone hcurrent hpiece hsolid hcalm =>
            rw [List.append_assoc, List.cons_append]
            exact .later hws hdone hcurrent (by simp [hpiece]) (hsolid.join [' '] l.solid)
              (hcalm.space _ _)
      · -- What was read so far is now the open statement, and the token starts a line of its own.
        obtain ⟨ws, hws, hrun⟩ := Scan.run_feed (σ := σ) hblank hfeed
        rw [Scan.run_append, hrun, h.endLine, Scan.run_plain l.oneLine]
        exact .later hws rfl rfl rfl l.solid (.lexeme l)

theorem tokens {ts : List Token} (h : Within done flat mark σ) (hlinked : Linked mark ts) :
    ∃ mark', Within done (flat ++ tokensFlat ts) mark' (σ.run (tokensChars ts)) := by
  induction ts generalizing flat mark σ with
  | nil => exact ⟨mark, by simpa [tokensFlat, tokensChars, Scan.run] using h⟩
  | cons t ts ih =>
      obtain ⟨mark', hmore⟩ := ih (h.token hlinked.1) hlinked.2
      refine ⟨mark', ?_⟩
      have hchars : tokensChars (t :: ts) = (gapChars t.gap ++ t.lexeme.chars) ++ tokensChars ts :=
        List.flatMap_cons
      rw [tokensFlat_cons, hchars, Scan.run_append]
      simpa using hmore

/-- The first token after the word that opens a statement. -/
theorem start (hblank : Blank σ.piece) (l : Lexeme) :
    Within σ.all ("import ".toList ++ l.chars) l.isMark (σ.run ("import ".toList ++ l.chars)) := by
  have hplain : ∀ c ∈ "import ".toList ++ l.chars, isBreak c = false :=
    List.forall_mem_append.mpr ⟨forall_of_all rfl, l.oneLine⟩
  have hword : Solid "import".toList := .of_forall (by decide) (forall_of_all rfl)
  rw [Scan.run_plain hplain]
  refine .first hblank rfl rfl (hword.join [' '] l.solid) fun more => ?_
  rw [List.append_assoc]
  exact List.any_eq_true.mpr
    ⟨"import ", by simp [openers], begins_iff.mpr (List.prefix_append _ _)⟩

end Within

/-! ### Imports -/

theorem Specifier.linked {before : Option Gap} {mark : Bool} (hmark : before = none → mark = true)
    (s : Specifier) {rest : List Token} (hrest : Linked false rest) :
    Linked mark (s.tokens before ++ rest) := by
  obtain ⟨imported, alias?⟩ := s
  refine ⟨fun h => .inr (hmark h), ?_⟩
  cases alias? with
  | none => exact hrest
  | some a => exact ⟨by simp, by simp, hrest⟩

theorem Items.linked (items : Items) {rest : List Token} (hrest : Linked true rest) :
    Linked true (items.tokens ++ rest) := by
  induction items with
  | close before => exact ⟨fun _ => .inl rfl, hrest⟩
  | last before item after =>
      rw [tokens, List.append_assoc]
      exact item.linked (by simp) ⟨fun _ => .inl rfl, hrest⟩
  | more before item after items ih =>
      rw [tokens, List.append_assoc]
      exact item.linked (by simp) ⟨fun _ => .inl rfl, ih⟩

theorem Group.linked (g : Group) (before : Option Gap) (mark : Bool) {rest : List Token}
    (hrest : Linked g.isBraced rest) : Linked mark (g.tokens before ++ rest) := by
  cases g with
  | named items => exact ⟨fun _ => .inl rfl, items.linked hrest⟩
  | whole gap gap' name => exact ⟨fun _ => .inl rfl, by simp, by simp, hrest⟩

theorem Clause.linked (c : Clause) (before : Option Gap) {rest : List Token}
    (hrest : Linked c.isBraced rest) : Linked true (c.tokens before ++ rest) := by
  cases c with
  | default name => exact ⟨fun _ => .inr rfl, hrest⟩
  | group g => exact g.linked _ _ hrest
  | both name gap gap' g => exact ⟨fun _ => .inr rfl, fun _ => .inl rfl, g.linked _ _ hrest⟩

theorem Clause.tokens_cons (c : Clause) :
    ∃ l rest, ∀ before, c.tokens before = ⟨before, l⟩ :: rest := by
  cases c with
  | default name => exact ⟨_, _, fun _ => rfl⟩
  | group g => cases g <;> exact ⟨_, _, fun _ => rfl⟩
  | both name gap gap' g => exact ⟨_, _, fun _ => rfl⟩

theorem Import.linked (i : Import) : Linked true i.tokens := by
  exact i.clause.linked _ ⟨fun h => .inr (i.apart h), fun _ => .inl rfl, trivial⟩

/-- An import is found as one statement on one line. -/
theorem Import.finish_run (i : Import) {σ : Scan} (hblank : Blank σ.piece) :
    (σ.run i.chars).finish = σ.all ++ [i.flat] := by
  obtain ⟨l, rest, hclause⟩ := i.clause.tokens_cons
  have htokens : i.tokens = ⟨some .space, l⟩ ::
      (rest ++ [⟨i.before, .fromWord⟩, ⟨i.after, .quoted i.quoted⟩]) := by
    rw [tokens, hclause, List.cons_append]
  have hlinked := i.linked
  rw [htokens] at hlinked
  obtain ⟨mark, hwithin⟩ := (Within.start hblank l).tokens hlinked.2
  have hchars : i.chars = ("import ".toList ++ l.chars) ++ tokensChars i.tokens.tail := by
    unfold chars
    rw [htokens]
    rfl
  have hflat : i.flat = ("import ".toList ++ l.chars) ++ tokensFlat i.tokens.tail := by
    unfold flat
    rw [htokens]
    rfl
  rw [hchars, Scan.run_append, hflat, htokens]
  exact hwithin.finish

/-! ## Scanning an export -/

theorem Silent.append {c : Char} (hc : isNameChar c = false) {s t : List Char} :
    Silent (s ++ c :: t) ↔ Silent s ∧ Silent t := by
  simp only [Silent, runs_append hc, List.mem_append, not_or]
  exact ⟨fun h => ⟨fun w hw => (h w hw).1, fun w hw => (h w hw).2⟩,
    fun h w hw => ⟨h.1 w hw, h.2 w hw⟩⟩

/-- White space around a text holds no words. -/
theorem Silent.trim {s : List Char} (h : Silent s) : Silent (trim s) := by
  obtain ⟨b, b', hb, hb', hs⟩ := exists_trim s
  have h : Silent (b ++ (Text.trim s ++ b')) := hs ▸ h
  have hright : Silent (Text.trim s ++ b') := by
    clear hs
    induction b with
    | nil => exact h
    | cons c b ih =>
        obtain ⟨hc, hb⟩ := List.forall_mem_cons.mp hb
        exact ih hb ((append (isNameChar_blank hc) (s := [])).mp h).2
  cases b' with
  | nil => rwa [List.append_nil] at hright
  | cons c b' => exact ((append (isNameChar_blank (hb' c (by simp)))).mp hright).1

theorem isNameChar_break {c : Char} (h : isBreak c = true) : isNameChar c = false := by
  cases hname : isNameChar c with
  | false => rfl
  | true => rw [isBreak_nameChar hname] at h; cases h

/-- After `done` there is a statement that begins with `head`, and then silent ones. -/
def Declared (done : List (List Char)) (head : List Char) (found : List (List Char)) : Prop :=
  ∃ rest silent, found = done ++ (head ++ rest) :: silent ∧ Apart rest ∧ ∀ s ∈ silent, Silent s

namespace Declared

variable {done : List (List Char)} {head : List Char} {σ : Scan}

theorem concat {found : List (List Char)} (h : Declared done head found) {s : List Char}
    (hs : Silent s) : Declared done head (found ++ [s]) := by
  obtain ⟨rest, silent, rfl, hrest, hsilent⟩ := h
  refine ⟨rest, silent ++ [s], by simp, hrest, ?_⟩
  exact List.forall_mem_append.mpr ⟨hsilent, by simpa using hs⟩

/-- A line that continues the last statement. -/
theorem continues {found : List (List Char)} {last line : List Char}
    (h : Declared done head (found ++ [last])) (hline : Silent line) :
    Declared done head (found ++ [last ++ ' ' :: line]) := by
  obtain ⟨rest, silent, hfound, hrest, hsilent⟩ := h
  rcases List.eq_nil_or_concat silent with rfl | ⟨before, s, rfl⟩
  · obtain ⟨rfl, hlast⟩ := List.append_inj' hfound rfl
    obtain rfl : last = head ++ rest := by simpa using hlast
    refine ⟨rest ++ ' ' :: line, [], by simp, ?_, by simp⟩
    cases rest with
    | nil => exact .cons isNameChar_space line
    | cons c rest => exact .cons (hrest c rfl) _
  · rw [List.concat_eq_append, ← List.cons_append, ← List.append_assoc] at hfound
    obtain ⟨rfl, hlast⟩ := List.append_inj' hfound rfl
    obtain rfl : last = s := by simpa using hlast
    rw [List.concat_eq_append, List.forall_mem_append] at hsilent
    refine ⟨rest, before ++ [last ++ ' ' :: line], by simp, hrest, ?_⟩
    refine List.forall_mem_append.mpr ⟨hsilent.1, ?_⟩
    simpa [Silent.append isNameChar_space] using And.intro (hsilent.2 last (by simp)) hline

/-- The end of a line without the words that matter. -/
theorem finish (h : Declared done head σ.all) (hpiece : Silent σ.piece) :
    Declared done head σ.finish := by
  have hline := hpiece.trim
  by_cases hblank : trim σ.piece = []
  · rw [Scan.finish, Scan.endLine_blank hblank]
    exact h
  · cases hcurrent : σ.current with
    | none =>
        have hall : σ.all = σ.done := by simp [Scan.all, hcurrent]
        rw [Scan.finish, Scan.endLine_none hblank hcurrent, ← hall]
        exact h.concat hline
    | some s =>
        have hall : σ.all = σ.done ++ [s] := by simp [Scan.all, hcurrent]
        cases hopens : opens (trim σ.piece) with
        | true =>
            rw [Scan.finish, Scan.endLine_opens hblank hcurrent hopens, ← hall]
            exact h.concat hline
        | false =>
            rw [Scan.finish, Scan.endLine_continues hblank hcurrent hopens]
            rw [hall] at h
            exact h.continues hline

/-- A text without the words that matter declares nothing more. -/
theorem run {s : List Char} (h : Declared done head σ.all) (hs : Silent (σ.piece ++ s)) :
    Declared done head (σ.run s).finish := by
  induction s generalizing σ with
  | nil => exact h.finish (by simpa using hs)
  | cons c s ih =>
      rw [Scan.run_cons]
      cases hbreak : isBreak c with
      | true =>
          obtain ⟨hall, hpiece⟩ := Scan.step_break (σ := σ) hbreak
          obtain ⟨hhere, hmore⟩ := (Silent.append (isNameChar_break hbreak)).mp hs
          refine ih ?_ (by simpa [hpiece] using hmore)
          rw [hall]
          exact h.finish hhere
      | false =>
          rw [Scan.step_plain hbreak]
          exact ih h (by simpa using hs)

/-- The first line of the statement with the head, and what follows it. -/
theorem start {ws x s : List Char} (hws : Blank ws) (hhead : Solid head)
    (hopens : ∀ more, opens (head ++ more) = true) (hpiece : σ.piece = ws ++ (head ++ x))
    (hapart : Apart (x ++ s)) (hsilent : Silent (x ++ s)) :
    Declared σ.all head (σ.run s).finish := by
  -- The line ends at the first break of `s`; `x` is what stands before it so far.
  have hfinish : ∀ {σ : Scan} {x : List Char}, σ.piece = ws ++ (head ++ x) → Apart x →
      Declared σ.all head σ.finish := by
    intro σ x hpiece hapart
    have htrim := trim_solid_append hws hhead x
    rw [← hpiece] at htrim
    have hne : trim σ.piece ≠ [] := by
      rw [htrim]
      exact List.append_ne_nil_of_left_ne_nil hhead.ne_nil _
    have hopens : opens (trim σ.piece) = true := by rw [htrim]; exact hopens _
    rw [Scan.finish, Scan.endLine_start hne hopens, htrim]
    obtain ⟨y, hy⟩ := trimRight_isPrefix x
    rw [← hy] at hapart
    exact ⟨trimRight x, [], by simp [Scan.all], hapart.left, by simp⟩
  induction s generalizing σ x with
  | nil => exact hfinish hpiece (by simpa using hapart)
  | cons c s ih =>
      rw [Scan.run_cons]
      cases hbreak : isBreak c with
      | true =>
          obtain ⟨hall, hnil⟩ := Scan.step_break (σ := σ) hbreak
          obtain ⟨-, hmore⟩ := (Silent.append (isNameChar_break hbreak)).mp hsilent
          refine Declared.run ?_ (by simpa [hnil] using hmore)
          rw [hall]
          exact hfinish hpiece hapart.left
      | false =>
          rw [Scan.step_plain hbreak]
          exact ih (σ := { σ with piece := σ.piece ++ [c] }) (x := x ++ [c]) (by simp [hpiece])
            (by simpa using hapart) (by simpa using hsilent)

end Declared

theorem Export.head_solid (e : Export) : Solid e.head := by
  have hword : Solid "export".toList := .of_forall (by decide) (forall_of_all rfl)
  exact hword.join (' ' :: e.declarator.toList) e.name.solid

theorem Export.head_oneLine (e : Export) : ∀ c ∈ e.head, isBreak c = false := by
  have hdeclarators : ∀ d ∈ declarators, d.toList.all (isBreak · == false) = true := by decide
  refine List.forall_mem_append.mpr
    ⟨forall_of_all rfl, List.forall_mem_append.mpr ⟨?_, fun c hc => ?_⟩⟩
  · exact forall_of_all (hdeclarators _ e.declares)
  · exact isBreak_nameChar (e.name.nameChars c hc)

/-- An export is found, and after it statements without the words that matter. -/
theorem Export.finish_run (e : Export) {σ : Scan} (hblank : Blank σ.piece) :
    Declared σ.all e.head (σ.run e.chars).finish := by
  have hopens : ∀ more, opens (e.head ++ more) = true := by
    intro more
    unfold head
    rw [List.append_assoc]
    exact List.any_eq_true.mpr
      ⟨"export ", by simp [openers], begins_iff.mpr (List.prefix_append _ _)⟩
  rw [chars, Scan.run_append, Scan.run_plain e.head_oneLine]
  exact Declared.start (σ := { σ with piece := σ.piece ++ e.head }) (x := []) hblank e.head_solid
    hopens (by simp) e.apart e.silent

end Mdx.Module
