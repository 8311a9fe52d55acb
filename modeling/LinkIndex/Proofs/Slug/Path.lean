import LinkIndex.Slug.Document
import Mathlib.Data.List.Infix

/-!
Keys of documents by their paths. The key of a path below a directory is what stands
behind the directory, without the one extension of a document at its end.
-/

namespace LinkIndex

namespace Text

theorem dropPrefix?_eq_some_iff {start text rest : List Char} :
    dropPrefix? start text = some rest ↔ text = start ++ rest := by
  induction start generalizing text with
  | nil => simp [dropPrefix?]
  | cons p start ih =>
      cases text with
      | nil => simp [dropPrefix?]
      | cons c text =>
          by_cases hpc : p = c
          · simp [dropPrefix?, hpc, ih]
          · simp [dropPrefix?, hpc, Ne.symm hpc]

theorem dropSuffix?_eq_some_iff {ending text front : List Char} :
    dropSuffix? ending text = some front ↔ text = front ++ ending := by
  rw [dropSuffix?, Option.map_eq_some_iff]
  constructor
  · rintro ⟨back, hback, rfl⟩
    rw [← List.reverse_inj, dropPrefix?_eq_some_iff.1 hback]
    simp
  · rintro rfl
    exact ⟨front.reverse, dropPrefix?_eq_some_iff.2 (by simp), by simp⟩

theorem dropSuffix?_eq_none_iff {ending text : List Char} :
    dropSuffix? ending text = none ↔ ¬ending <:+ text := by
  rw [← not_iff_not, not_not, ← ne_eq, Option.ne_none_iff_exists']
  simp only [dropSuffix?_eq_some_iff]
  exact ⟨fun ⟨front, h⟩ => ⟨front, h.symm⟩, fun ⟨front, h⟩ => ⟨front, h.symm⟩⟩

end Text

namespace Slug

open Text

variable {e e' front front' text cwd : List Char}

/-- No text has two extensions of documents at its end. -/
theorem extension_unique (he : e ∈ documentExtensions) (he' : e' ∈ documentExtensions)
    (h : front ++ e = front' ++ e') : front = front' ∧ e = e' := by
  have hends : e <:+ e' ∨ e' <:+ e :=
    List.suffix_or_suffix_of_suffix (List.suffix_append front e) (h ▸ List.suffix_append front' e')
  have hdistinct : ∀ a ∈ documentExtensions, ∀ b ∈ documentExtensions, a <:+ b → a = b := by
    decide
  obtain rfl : e = e' := by
    rcases hends with hend | hend
    · exact hdistinct e he e' he' hend
    · exact (hdistinct e' he' e he hend).symm
  exact ⟨List.append_cancel_right h, rfl⟩

/-- No extension reaches back over a slash. -/
theorem extension_suffix_iff (he : e ∈ documentExtensions) :
    e <:+ cwd ++ '/' :: text ↔ e <:+ text := by
  have hslash : '/' ∉ e := by
    have hall : ∀ a ∈ documentExtensions, '/' ∉ a := by decide
    exact hall e he
  constructor
  · intro h
    have htext : '/' :: text <:+ cwd ++ '/' :: text := List.suffix_append _ _
    rcases List.suffix_or_suffix_of_suffix h htext with hend | hend
    · rcases List.suffix_cons_iff.1 hend with rfl | hend
      · exact absurd List.mem_cons_self hslash
      · exact hend
    · exact absurd (hend.subset List.mem_cons_self) hslash
  · intro h
    exact (h.trans (List.suffix_cons '/' text)).trans (List.suffix_append cwd _)

theorem splitFinalLineFeed_eq (h : text.getLast? ≠ some '\n') :
    splitFinalLineFeed text = (text, []) := by
  have hnone : dropSuffix? ['\n'] text = none := by
    rw [dropSuffix?_eq_none_iff]
    rintro ⟨front, rfl⟩
    simp at h
  rw [splitFinalLineFeed, hnone]

theorem dropExtension_append (he : e ∈ documentExtensions) (front : List Char) :
    dropExtension (front ++ e) = front := by
  have hlast : (front ++ e).getLast? ≠ some '\n' := by
    have hends : ∀ a ∈ documentExtensions, a ≠ [] ∧ a.getLast? ≠ some '\n' := by decide
    rw [List.getLast?_append_of_ne_nil _ (hends e he).1]
    exact (hends e he).2
  have hfound : documentExtensions.findSome? (dropSuffix? · (front ++ e)) = some front := by
    cases h : documentExtensions.findSome? (dropSuffix? · (front ++ e)) with
    | none =>
        have hnone := List.findSome?_eq_none_iff.1 h e he
        rw [dropSuffix?_eq_some_iff.2 rfl] at hnone
        contradiction
    | some front' =>
        obtain ⟨e', he', hdrop⟩ := List.exists_of_findSome?_eq_some h
        rw [(extension_unique he he' (dropSuffix?_eq_some_iff.1 hdrop)).1]
  simp only [dropExtension, dropEnding, splitFinalLineFeed_eq hlast, dropFirstEnding, hfound,
    Option.getD_some, List.append_nil]

theorem dropExtension_of_plain (hlast : text.getLast? ≠ some '\n')
    (hplain : ∀ e ∈ documentExtensions, ¬e <:+ text) : dropExtension text = text := by
  have hnone : documentExtensions.findSome? (dropSuffix? · text) = none :=
    List.findSome?_eq_none_iff.2 fun e he => dropSuffix?_eq_none_iff.2 (hplain e he)
  simp only [dropExtension, dropEnding, splitFinalLineFeed_eq hlast, dropFirstEnding, hnone,
    Option.getD_none, List.append_nil]

theorem dropDirectory_append (cwd text : List Char) : dropDirectory cwd (cwd ++ text) = text := by
  rw [dropDirectory, dropPrefix?_eq_some_iff.2 rfl, Option.getD_some]

theorem ofPathChars_append (he : e ∈ documentExtensions) (cwd front : List Char) :
    ofPathChars (cwd ++ '/' :: (front ++ e)) cwd = front := by
  have hsplit : cwd ++ '/' :: (front ++ e) = (cwd ++ '/' :: front) ++ e := by simp
  rw [ofPathChars, hsplit, dropExtension_append he, dropDirectory_append, dropLeadingSlash]

/-- A text without the one extension of a document at its end, if it has one. -/
def IsWithoutExtension (text front : String) : Prop :=
  (∃ e ∈ documentExtensions, text.toList = front.toList ++ e) ∨
    front = text ∧ ∀ e ∈ documentExtensions, ¬e <:+ text.toList

/-- The key of a path below a directory is the rest of the path without its extension. -/
theorem ofPath_below (cwd : String) {r : String} (hlast : r.toList.getLast? ≠ some '\n') :
    IsWithoutExtension r (ofPath (cwd ++ "/" ++ r) cwd) := by
  have hchars : (cwd ++ "/" ++ r).toList = cwd.toList ++ '/' :: r.toList := by simp
  rw [ofPath, hchars]
  by_cases hext : ∃ e ∈ documentExtensions, e <:+ r.toList
  · obtain ⟨e, he, front, hfront⟩ := hext
    refine .inl ⟨e, he, ?_⟩
    rw [← hfront, ofPathChars_append he, String.toList_ofList]
  · have hplain : ∀ e ∈ documentExtensions, ¬e <:+ cwd.toList ++ '/' :: r.toList := by
      intro e he hend
      exact hext ⟨e, he, (extension_suffix_iff he).1 hend⟩
    have hlast' : (cwd.toList ++ '/' :: r.toList).getLast? ≠ some '\n' := by
      rw [List.getLast?_append_of_ne_nil _ (List.cons_ne_nil _ _), List.getLast?_cons]
      cases h : r.toList.getLast? with
      | none => decide
      | some c => exact h ▸ hlast
    refine .inr ⟨?_, fun e he hend => hext ⟨e, he, hend⟩⟩
    rw [ofPathChars, dropExtension_of_plain hlast' hplain, dropDirectory_append, dropLeadingSlash,
      String.ofList_toList]

end Slug

end LinkIndex
