import LinkIndex.Proofs.Report.Markup
import LinkIndex.Proofs.Text.Lines
import LinkIndex.Report.Wrap
import Mathlib.Data.List.DropRight

/-!
Texts that fit into one line. Words lose nothing when they are put together again, and
a printable text that is no longer than the width is one line, as it is.
-/

namespace LinkIndex

namespace Text

theorem cells_trimEndBy_le (p : Char → Bool) (text : List Char) :
    cells (trimEndBy p text) ≤ cells text := by
  obtain ⟨behind, hbehind⟩ := List.rdropWhile_prefix p (l := text)
  nth_rewrite 2 [← hbehind]
  rw [cells_append]
  exact Nat.le_add_right _ _

end Text

namespace Report

variable {text line : List Char} {overflow : Overflow} {width : Nat}

/-! ### Words -/

theorem flatten_cutBeforeWords (text : List Char) : (cutBeforeWords text).flatten = text := by
  fun_induction cutBeforeWords text with
  | case1 => rfl
  | case2 c rest hnil ih =>
      rw [hnil, List.flatten_nil] at ih
      rw [← ih]
      rfl
  | case3 c rest piece others hcut hbreak ih =>
      rw [List.flatten_cons, ← hcut, ih, List.singleton_append]
  | case4 c rest piece others hcut hbreak ih =>
      rw [hcut, List.flatten_cons] at ih
      rw [List.flatten_cons, List.cons_append, ih]

/-- The words make up the text, but that a blank text has none. -/
theorem flatten_spacedWords (h : spacedWords text ≠ []) : (spacedWords text).flatten = text := by
  have hflatten := flatten_cutBeforeWords text
  unfold spacedWords at h ⊢
  split at h
  · rename_i first second others hcut
    rw [hcut] at hflatten
    split <;> simpa using hflatten
  · rename_i only hcut
    rw [hcut] at hflatten
    split at h
    · contradiction
    · rename_i hblank
      rw [if_neg hblank, hflatten]
  · contradiction

/-- Words that fit go into the line at hand. -/
theorem foldl_add (words : List (List Char)) (l : Lines)
    (h : Text.cells (l.current ++ words.flatten) ≤ width) :
    words.foldl (Lines.add overflow width) l =
      { l with current := l.current ++ words.flatten } := by
  induction words generalizing l with
  | nil => simp
  | cons word rest ih =>
      rw [List.flatten_cons, ← List.append_assoc] at h
      have hword : Text.cells l.current + Text.cells (Text.trimEndBy isBlank word) ≤ width := by
        have htrim := Text.cells_trimEndBy_le isBlank word
        rw [Text.cells_append, Text.cells_append] at h
        omega
      rw [List.foldl_cons, Lines.add, if_pos hword, ih _ h]
      simp

theorem breakLine_of_cells_le (h : Text.cells line ≤ width) :
    breakLine overflow width line = [line] := by
  unfold breakLine
  split
  · rfl
  · rename_i hwords
    have hflatten := flatten_spacedWords hwords
    rw [← hflatten] at h
    rw [foldl_add _ _ (by simpa using h)]
    simpa using hflatten

/-! ### Lines -/

theorem expandTabs_of_not_mem (place : Nat) (h : '\t' ∉ text) : expandTabs place text = text := by
  induction text generalizing place with
  | nil => rfl
  | cons c rest ih =>
      rw [List.mem_cons, not_or] at h
      rw [expandTabs, ih _ h.2]
      rintro rfl
      exact h.1 rfl

theorem dropExcessBlanks_of_length_le (h : line.length ≤ width) :
    dropExcessBlanks width line = line := by
  simp [dropExcessBlanks, Nat.sub_eq_zero_of_le h]

theorem IsPrintable.cells (h : IsPrintable text) : Text.cells text = text.length := by
  induction text with
  | nil => rfl
  | cons c rest ih =>
      obtain ⟨hc, hrest⟩ := List.forall_mem_cons.1 h
      rw [Text.cells_cons, ih hrest, Text.cellsOf, if_pos hc, List.length_cons, Nat.add_comm]

theorem IsPrintable.not_mem {c : Char} (h : IsPrintable text) (hc : c.toNat < 0x20) :
    c ∉ text := by
  intro hmem
  have hrange := h c hmem
  omega

/-- A printable text that is no longer than the width is one line. -/
theorem wrap_of_printable (h : IsPrintable text) (hfits : text.length ≤ width) :
    wrap overflow width text = [text] := by
  have hcells : Text.cells text ≤ width := h.cells.symm ▸ hfits
  have hlines : Text.lines text = [text] := Text.lines_of_not_mem (h.not_mem (by decide))
  have htabs : expandTabs 0 text = text := expandTabs_of_not_mem 0 (h.not_mem (by decide))
  rw [wrap, hlines, List.flatMap_singleton, htabs, breakLine_of_cells_le hcells, List.map_singleton,
    dropExcessBlanks_of_length_le hfits, crop.eq_def, if_pos hcells]

end Report

end LinkIndex
