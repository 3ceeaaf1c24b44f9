import Mdx.Asset
import Mdx.Proofs.Text

/-!
# Percent encoding of components

A component of an address is encoded in two steps: all bytes but the unreserved ones are escaped,
and then the escapes of five marks are replaced by the marks, one mark after the other over the
whole text. An encoded text is made of pieces, each of them an escape or free of percent signs, so
every replacement changes whole pieces and leaves pieces behind (`replaceAll_flatten`). The main
statement is `encodeSvg_decodes`: what is encoded is told byte by byte, and can be decoded.
-/

namespace Mdx

namespace Text

/-! ## Replacing -/

theorem replaceFrom_skip (mark new : List Char) (skip : Nat) (s : List Char) :
    replaceFrom mark new skip s = replaceAll mark new (s.drop skip) := by
  induction skip generalizing s with
  | zero => rfl
  | succ skip ih =>
      cases s with
      | nil => rfl
      | cons c s => exact ih s

/-- Nothing is replaced where the mark cannot begin. -/
theorem replaceAll_append {c : Char} {piece : List Char} (h : c ∉ piece)
    (mark new rest : List Char) :
    replaceAll (c :: mark) new (piece ++ rest) = piece ++ replaceAll (c :: mark) new rest := by
  induction piece with
  | nil => rfl
  | cons d piece ih =>
      obtain ⟨hd, hpiece⟩ : c ≠ d ∧ c ∉ piece := by simpa using h
      have hbegins : begins (c :: mark) (d :: (piece ++ rest)) = false := by
        simp [begins, after?, hd]
      rw [List.cons_append, replaceAll, replaceFrom, hbegins, if_neg (by decide)]
      exact congrArg (d :: ·) (ih hpiece)

/-- The mark is replaced, and the search goes on after it. -/
theorem replaceAll_mark {mark : List Char} (hmark : mark ≠ []) (new rest : List Char) :
    replaceAll mark new (mark ++ rest) = new ++ replaceAll mark new rest := by
  obtain ⟨c, cs, rfl⟩ := List.exists_cons_of_ne_nil hmark
  have hbegins : begins (c :: cs) (c :: (cs ++ rest)) = true :=
    begins_iff.mpr ⟨rest, rfl⟩
  rw [List.cons_append, replaceAll, replaceFrom, if_pos hbegins, replaceFrom_skip]
  simp

/-! ## Pieces -/

/-- A part of an encoded text: it has no percent sign, or it is an escape. -/
def IsPiece (piece : List Char) : Prop :=
  '%' ∉ piece ∨ ∃ a b, piece = ['%', a, b] ∧ a ≠ '%' ∧ b ≠ '%'

/-- A piece with a mark in place of its escape. -/
def restored (escape mark piece : List Char) : List Char :=
  if piece = escape then mark else piece

theorem replaceAll_piece {piece : List Char} (h : IsPiece piece) (x y : Char)
    (new rest : List Char) :
    replaceAll ['%', x, y] new (piece ++ rest)
      = restored ['%', x, y] new piece ++ replaceAll ['%', x, y] new rest := by
  rcases h with hfree | ⟨a, b, rfl, ha, hb⟩
  · have hne : piece ≠ ['%', x, y] := by
      rintro rfl
      simp at hfree
    rw [restored, if_neg hne, replaceAll_append hfree]
  · rw [restored]
    split
    · rename_i heq
      rw [heq]
      exact replaceAll_mark (by simp) new rest
    · -- Another escape begins like the mark, but there is no percent sign in the rest of it.
      rename_i hne
      have hbegins : begins ['%', x, y] ('%' :: a :: b :: rest) = false := by
        rw [← Bool.not_eq_true, begins_iff]
        intro hstart
        obtain ⟨rfl, rfl⟩ : x = a ∧ y = b := by simpa using hstart
        exact hne rfl
      have hrest : replaceAll ['%', x, y] new ([a, b] ++ rest)
          = [a, b] ++ replaceAll ['%', x, y] new rest :=
        replaceAll_append (by simp [ha.symm, hb.symm]) _ new rest
      rw [List.cons_append, replaceAll, replaceFrom, List.cons_append, List.cons_append,
        List.nil_append, hbegins, if_neg (by decide)]
      exact congrArg ('%' :: ·) hrest

/-- In a text made of pieces, those that are the escape are replaced. -/
theorem replaceAll_flatten {pieces : List (List Char)} (h : ∀ piece ∈ pieces, IsPiece piece)
    (x y : Char) (new : List Char) :
    replaceAll ['%', x, y] new pieces.flatten
      = (pieces.map (restored ['%', x, y] new)).flatten := by
  induction pieces with
  | nil => rfl
  | cons piece rest ih =>
      obtain ⟨hpiece, hrest⟩ := List.forall_mem_cons.mp h
      rw [List.flatten_cons, replaceAll_piece hpiece, ih hrest, List.map_cons, List.flatten_cons]

/-- Marks that are no percent signs, each with an escape. -/
def AreMarks (marks : List (String × String)) : Prop :=
  ∀ entry ∈ marks, '%' ∉ entry.2.toList ∧ ∃ x y, entry.1.toList = ['%', x, y]

/-- A piece with the marks in place of their escapes. -/
def restoredAll (marks : List (String × String)) (piece : List Char) : List Char :=
  marks.foldl (fun piece (escape, mark) => restored escape.toList mark.toList piece) piece

/-- Several marks are restored one after the other, since every piece stays a piece. -/
theorem foldl_replaceAll {marks : List (String × String)} (hmarks : AreMarks marks)
    {pieces : List (List Char)} (h : ∀ piece ∈ pieces, IsPiece piece) :
    marks.foldl (fun text (escape, mark) => replaceAll escape.toList mark.toList text)
        pieces.flatten
      = (pieces.map (restoredAll marks)).flatten := by
  induction marks generalizing pieces with
  | nil => rw [List.foldl_nil, show restoredAll [] = id from rfl, List.map_id]
  | cons entry rest ih =>
      obtain ⟨escape, mark⟩ := entry
      obtain ⟨⟨hmark, x, y, hescape⟩, hrest⟩ := List.forall_mem_cons.mp hmarks
      have hpieces : ∀ piece ∈ pieces.map (restored escape.toList mark.toList),
          IsPiece piece := by
        intro piece hpiece
        obtain ⟨piece, hmem, rfl⟩ := List.mem_map.mp hpiece
        rw [restored]
        split
        · exact .inl hmark
        · exact h piece hmem
      have hstep : replaceAll escape.toList mark.toList pieces.flatten
          = (pieces.map (restored escape.toList mark.toList)).flatten := by
        rw [show escape.toList = ['%', x, y] from hescape]
        exact replaceAll_flatten h x y mark.toList
      rw [List.foldl_cons]
      show rest.foldl _ (replaceAll escape.toList mark.toList pieces.flatten) = _
      rw [hstep, ih hrest hpieces, List.map_map]
      rfl

/-! ## Bytes -/

/-- Letters, digits and nine marks stand for themselves in a component of an address. -/
def isComponentChar (c : Char) : Bool :=
  c.isAlphanum || ['-', '_', '.', '!', '~', '*', '\'', '(', ')'].contains c

def hexDigits : List Char :=
  ['0', '1', '2', '3', '4', '5', '6', '7', '8', '9', 'A', 'B', 'C', 'D', 'E', 'F']

/-- A byte in a component of an address: the character that it stands for, or a percent sign and
two hexadecimal digits. -/
def componentByte (byte : UInt8) : List Char :=
  if isComponentChar (Char.ofNat byte.toNat) then [Char.ofNat byte.toNat]
  else ['%', hexDigits.getD (byte.toNat / 16) '0', hexDigits.getD (byte.toNat % 16) '0']

theorem areMarks_componentMarks : AreMarks componentMarks := by
  intro entry hentry
  simp only [componentMarks, List.mem_cons, List.not_mem_nil, or_false] at hentry
  rcases hentry with rfl | rfl | rfl | rfl | rfl <;> exact ⟨by decide, _, _, rfl⟩

/-- What holds of all numbers below 256 holds of all bytes. -/
theorem forall_byte {p : UInt8 → Prop} (h : ∀ n < 256, p (UInt8.ofNat n)) (byte : UInt8) :
    p byte := by
  have hbyte := h byte.toNat byte.toNat_lt
  rwa [UInt8.ofNat_toNat] at hbyte

theorem isPiece_percentByte (byte : UInt8) : IsPiece (percentByte byte) := by
  have hunreserved : isUnreserved byte = true → '%' ∉ [Char.ofNat byte.toNat] := by
    revert byte
    exact forall_byte (by decide +kernel)
  have hdigit : ∀ n < 16, upperHex n ≠ '%' := by decide
  have hlt := byte.toNat_lt
  rw [percentByte]
  split
  · exact .inl (hunreserved ‹_›)
  · exact .inr ⟨_, _, rfl, hdigit _ (by omega), hdigit _ (by omega)⟩

theorem restoredAll_componentMarks (piece : List Char) :
    restoredAll componentMarks piece
      = restored ['%', '2', 'A'] ['*'] (restored ['%', '2', '9'] [')']
          (restored ['%', '2', '8'] ['('] (restored ['%', '2', '7'] ['\'']
            (restored ['%', '2', '1'] ['!'] piece)))) := rfl

theorem restoredAll_percentByte (byte : UInt8) :
    restoredAll componentMarks (percentByte byte) = componentByte byte := by
  rw [restoredAll_componentMarks]
  revert byte
  exact forall_byte (by decide +kernel)

/-- A component is encoded byte by byte. -/
theorem encodeComponent_eq (s : String) :
    encodeComponent s = String.ofList (s.toUTF8.data.toList.flatMap componentByte) := by
  have hpieces : ∀ piece ∈ s.toUTF8.data.toList.map percentByte, IsPiece piece := by
    intro piece hpiece
    obtain ⟨byte, -, rfl⟩ := List.mem_map.mp hpiece
    exact isPiece_percentByte byte
  have hbytes : restoredAll componentMarks ∘ percentByte = componentByte := by
    funext byte
    rw [Function.comp_apply, restoredAll_percentByte]
  rw [encodeComponent, percentEncode, List.flatMap_def,
    foldl_replaceAll areMarks_componentMarks hpieces, List.map_map, ← List.flatMap_def, hbytes]

/-! ## Decoding -/

/-- The bytes of an encoded text: an escape is the byte of its number, and every other character
stands for itself. A percent sign has to begin an escape. -/
def percentBytes? : List Char → Option (List UInt8)
  | [] => some []
  | '%' :: high :: low :: rest => do
    let high ← Json.Spelling.hex? high
    let low ← Json.Spelling.hex? low
    (percentBytes? rest).map (UInt8.ofNat (high * 16 + low) :: ·)
  | c :: rest =>
    if c = '%' then none
    else (percentBytes? rest).map ((String.singleton c).toUTF8.data.toList ++ ·)

/-- The text that was encoded. -/
def percentDecode? (s : String) : Option String := do
  let bytes ← percentBytes? s.toList
  String.fromUTF8? ⟨bytes.toArray⟩

theorem percentBytes?_char {c : Char} (hc : c ≠ '%') (rest : List Char) :
    percentBytes? (c :: rest)
      = (percentBytes? rest).map ((String.singleton c).toUTF8.data.toList ++ ·) := by
  rw [percentBytes?]
  · rw [if_neg hc]
  · simp [hc]

theorem hex?_hexDigits : ∀ n < 16, Json.Spelling.hex? (hexDigits.getD n '0') = some n := by
  decide

theorem percentBytes?_escape {high low : Nat} (hhigh : high < 16) (hlow : low < 16)
    (rest : List Char) :
    percentBytes? ('%' :: hexDigits.getD high '0' :: hexDigits.getD low '0' :: rest)
      = (percentBytes? rest).map (UInt8.ofNat (high * 16 + low) :: ·) := by
  rw [percentBytes?, hex?_hexDigits high hhigh, hex?_hexDigits low hlow]
  rfl

/-- Characters that stand for themselves are in ASCII. -/
theorem lt_of_isComponentChar {c : Char} (h : isComponentChar c = true) : c.toNat < 0x80 := by
  rw [isComponentChar, Bool.or_eq_true, List.contains_iff_mem] at h
  have hlow : c ≤ '~' := by
    rcases h with halphanum | hmark
    · have hclasses : ((c.isUpper || c.isLower) || c.isDigit) = true := halphanum
      rw [Bool.or_eq_true, Bool.or_eq_true] at hclasses
      have hbelow : c.val ≤ 'Z'.val ∨ c.val ≤ 'z'.val ∨ c.val ≤ '9'.val := by
        rcases hclasses with (hupper | hlower) | hdigit
        · exact .inl (of_decide_eq_true hupper).2
        · exact .inr (.inl (of_decide_eq_true (Bool.and_eq_true_iff.mp hlower).2))
        · exact .inr (.inr (of_decide_eq_true (Bool.and_eq_true_iff.mp hdigit).2))
      rcases hbelow with hle | hle | hle <;> exact UInt32.le_trans hle (by decide)
    · have hmarks : ∀ c ∈ ['-', '_', '.', '!', '~', '*', '\'', '(', ')'], c ≤ '~' := by simp
      exact hmarks c hmark
  exact Nat.lt_of_le_of_lt hlow (by decide)

/-- A character that stands for itself is one byte, and no percent sign. -/
theorem isComponentChar_byte (byte : UInt8) :
    isComponentChar (Char.ofNat byte.toNat) = true →
      Char.ofNat byte.toNat ≠ '%'
        ∧ (String.singleton (Char.ofNat byte.toNat)).toUTF8.data.toList = [byte] := by
  intro h
  have hvalid : byte.toNat.isValidChar := .inl (Nat.lt_trans byte.toNat_lt (by decide))
  have hval : (Char.ofNat byte.toNat).val.toNat = byte.toNat := by
    rw [Char.ofNat, dif_pos hvalid]
    rfl
  have hlow : byte.toNat < 0x80 := hval ▸ lt_of_isComponentChar h
  have hone : byte.toNat ≤ 127 := by omega
  refine ⟨?_, ?_⟩
  · intro hpercent
    rw [hpercent] at h
    exact absurd h (by decide)
  · rw [String.toUTF8_eq_toByteArray, String.toByteArray_singleton]
    simp [List.utf8Encode, String.utf8EncodeChar, hval, hone]

/-- One encoded byte is read back, whatever follows it. -/
theorem percentBytes?_componentByte (byte : UInt8) (rest : List Char) :
    percentBytes? (componentByte byte ++ rest) = (percentBytes? rest).map (byte :: ·) := by
  have hlt := byte.toNat_lt
  rw [componentByte]
  split
  · obtain ⟨hne, hbyte⟩ := isComponentChar_byte byte ‹_›
    rw [List.singleton_append, percentBytes?_char hne, hbyte]
    rfl
  · have hbyte : UInt8.ofNat (byte.toNat / 16 * 16 + byte.toNat % 16) = byte := by
      rw [Nat.div_add_mod', UInt8.ofNat_toNat]
    rw [List.cons_append, List.cons_append, List.cons_append, List.nil_append,
      percentBytes?_escape (by omega) (by omega), hbyte]

theorem percentBytes?_flatMap (bytes : List UInt8) :
    percentBytes? (bytes.flatMap componentByte) = some bytes := by
  induction bytes with
  | nil => rfl
  | cons byte bytes ih =>
      rw [List.flatMap_cons, percentBytes?_componentByte, ih]
      rfl

theorem fromUTF8?_toUTF8 (s : String) : String.fromUTF8? s.toUTF8 = some s := by
  unfold String.fromUTF8?
  rw [dif_pos (by rw [String.toUTF8_eq_toByteArray]; exact s.isValidUTF8)]
  rfl

/-- Nothing is lost when a component is encoded. -/
theorem percentDecode?_encodeComponent (s : String) :
    percentDecode? (encodeComponent s) = some s := by
  rw [encodeComponent_eq, percentDecode?, String.toList_ofList, percentBytes?_flatMap]
  exact fromUTF8?_toUTF8 s

end Text

namespace Asset

theorem encodeSvg?_append (s : String) :
    encodeSvg? (svgPrefix ++ s) = some (svgPrefix ++ Text.encodeComponent s) := by
  simp [encodeSvg?, Text.afterPrefix?, Text.after?_append]

/-- An SVG image in an address is encoded byte by byte, with letters, digits and nine marks as they
are. The image can be decoded, so different images stay different. Other addresses are left
alone. -/
theorem encodeSvg_decodes :
    (∀ s : String, ∃ payload : String,
        encodeSvg? (svgPrefix ++ s) = some (svgPrefix ++ payload)
          ∧ payload.toList = s.toUTF8.data.toList.flatMap Text.componentByte
          ∧ Text.percentDecode? payload = some s)
      ∧ (∀ s t : String, encodeSvg? (svgPrefix ++ s) = encodeSvg? (svgPrefix ++ t) ↔ s = t)
      ∧ ∀ uri : String, encodeSvg? uri = none ↔ ∀ s : String, uri ≠ svgPrefix ++ s := by
  refine ⟨fun s => ⟨Text.encodeComponent s, encodeSvg?_append s, ?_,
    Text.percentDecode?_encodeComponent s⟩, fun s t => ⟨fun h => ?_, fun h => h ▸ rfl⟩,
    fun uri => ⟨?_, fun h => ?_⟩⟩
  · rw [Text.encodeComponent_eq, String.toList_ofList]
  · rw [encodeSvg?_append, encodeSvg?_append, Option.some.injEq, String.append_right_inj] at h
    have hdecode := Text.percentDecode?_encodeComponent s
    rw [h, Text.percentDecode?_encodeComponent t] at hdecode
    exact (Option.some.inj hdecode).symm
  · rintro h s rfl
    rw [encodeSvg?_append] at h
    exact Option.some_ne_none _ h
  · rw [encodeSvg?, Text.afterPrefix?, Text.after?_eq_none]
    · rfl
    · rintro ⟨s, hs⟩
      exact h (String.ofList s) (String.toList_inj.mp (by simp [← hs]))

end Asset

end Mdx
