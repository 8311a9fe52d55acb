import LinkIndex.Text.Blank
import Mathlib.Data.List.Forall2

/-!
Lines of a text. A line feed between two texts parts their lines, and joining pairs of
a carriage return and a line feed changes no more than the ends of lines: where a pair
ended a line, the line loses its carriage return.
-/

namespace LinkIndex.Text

/-! ### A run of characters of one kind and the character that ends it -/

section Run

variable {p : Char → Bool} {run : List Char} {c : Char}

theorem takeWhile_append_cons (hrun : ∀ x ∈ run, p x = true) (hc : p c = false)
    (rest : List Char) : (run ++ c :: rest).takeWhile p = run := by
  rw [List.takeWhile_append_of_pos hrun, List.takeWhile_cons_of_neg (by simp [hc]),
    List.append_nil]

theorem dropWhile_append_cons (hrun : ∀ x ∈ run, p x = true) (hc : p c = false)
    (rest : List Char) : (run ++ c :: rest).dropWhile p = c :: rest := by
  rw [List.dropWhile_append_of_pos hrun, List.dropWhile_cons_of_neg (by simp [hc])]

end Run

/-! ### Cutting a text into lines -/

/-- Cutting in front of a further character: it stands alone in a piece of its own, or
in front of the first piece. -/
theorem exists_cutAt_cons (p : Char → Bool) (c : Char) (text : List Char) :
    ∃ first others, cutAt p text = first :: others ∧
      cutAt p (c :: text) = if p c then [] :: first :: others else (c :: first) :: others := by
  rw [cutAt]
  cases hcut : cutAt p text with
  | nil => exact absurd hcut (cutAt_ne_nil _ _)
  | cons first others => exact ⟨first, others, rfl, rfl⟩

/-- A character to cut at between two texts parts their pieces. -/
theorem cutAt_append_cons {p : Char → Bool} {c : Char} (hc : p c = true) (text rest : List Char) :
    cutAt p (text ++ c :: rest) = cutAt p text ++ cutAt p rest := by
  induction text with
  | nil =>
      obtain ⟨first, others, hrest, hcons⟩ := exists_cutAt_cons p c rest
      rw [List.nil_append, hcons, if_pos hc, hrest]
      rfl
  | cons d text ih =>
      obtain ⟨first, others, htext, hcons⟩ := exists_cutAt_cons p d text
      obtain ⟨first', others', hall, hcons'⟩ := exists_cutAt_cons p d (text ++ c :: rest)
      rw [ih, htext, List.cons_append, List.cons.injEq] at hall
      obtain ⟨rfl, rfl⟩ := hall
      rw [List.cons_append, hcons, hcons']
      split <;> rfl

theorem exists_lines_cons (c : Char) (text : List Char) :
    ∃ first others, lines text = first :: others ∧
      lines (c :: text) = if c = '\n' then [] :: first :: others else (c :: first) :: others := by
  simpa [lines] using exists_cutAt_cons (· = '\n') c text

theorem lines_append_feed (text rest : List Char) :
    lines (text ++ '\n' :: rest) = lines text ++ lines rest :=
  cutAt_append_cons (by simp) text rest

theorem cutAt_of_forall {p : Char → Bool} {text : List Char} (h : ∀ c ∈ text, p c = false) :
    cutAt p text = [text] := by
  induction text with
  | nil => rfl
  | cons c rest ih =>
      obtain ⟨hc, hrest⟩ := List.forall_mem_cons.1 h
      simp [cutAt, hc, ih hrest]

theorem lines_of_not_mem {line : List Char} (h : '\n' ∉ line) : lines line = [line] := by
  refine cutAt_of_forall fun c hc => ?_
  simpa using ne_of_mem_of_not_mem hc h

theorem joinCrLf_append {text : List Char} (h : '\r' ∉ text) (rest : List Char) :
    joinCrLf (text ++ rest) = text ++ joinCrLf rest := by
  induction text with
  | nil => rfl
  | cons c text ih =>
      rw [List.mem_cons, not_or] at h
      rw [List.cons_append, joinCrLf, ih h.2, List.cons_append]
      rintro rest rfl
      exact absurd rfl h.1

def IsJoined (line joined : List Char) : Prop :=
  line = joined ∨ line = joined ++ ['\r']

/-- Joining keeps the lines, but for the carriage returns that end them. -/
theorem lines_joinCrLf (text : List Char) :
    List.Forall₂ IsJoined (lines text) (lines (joinCrLf text)) := by
  fun_induction joinCrLf text with
  | case1 => exact .cons (.inl rfl) .nil
  | case2 rest ih =>
      -- the carriage return is all that its line has
      obtain ⟨first, others, hrest, hfeed⟩ := exists_lines_cons '\n' rest
      obtain ⟨first', others', hfeed', hpair⟩ := exists_lines_cons '\r' ('\n' :: rest)
      obtain ⟨last, more, hjoined, hcons⟩ := exists_lines_cons '\n' (joinCrLf rest)
      rw [if_pos rfl, ← hrest] at hfeed
      rw [if_pos rfl, ← hjoined] at hcons
      rw [hfeed, List.cons.injEq] at hfeed'
      obtain ⟨rfl, rfl⟩ := hfeed'
      rw [hpair, if_neg (by decide), hcons]
      exact .cons (.inr rfl) ih
  | case3 c rest hpair ih =>
      obtain ⟨first, others, hrest, hcons⟩ := exists_lines_cons c rest
      obtain ⟨first', others', hjoined, hcons'⟩ := exists_lines_cons c (joinCrLf rest)
      rw [hrest, hjoined] at ih
      cases ih with
      | cons hfirst hothers =>
          rw [hcons, hcons']
          split
          · exact .cons (.inl rfl) (.cons hfirst hothers)
          · refine .cons ?_ hothers
            rcases hfirst with rfl | rfl
            · exact .inl rfl
            · exact .inr rfl

end LinkIndex.Text
