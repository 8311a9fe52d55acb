import LinkIndex.Proofs.Text.Lowercase
import LinkIndex.Slug.Heading

/-!
Anchors in normal form: hyphens, underscores, letters, marks and numbers, all of them in
lower case. A text in this form is its own anchor, and all that is made of headings has it,
also behind the numbers that keep the anchors of one document distinct.
-/

namespace LinkIndex

/-- A text that consists of hyphens, underscores, letters, marks and numbers in lower case. -/
def IsAnchor (text : List Char) : Prop :=
  ∀ c ∈ text, (c = '-' ∨ c = '_' ∨ isLetterMarkNumber c = true) ∧ IsLower c

namespace IsAnchor

variable {text rest : List Char}

theorem append (htext : IsAnchor text) (hrest : IsAnchor rest) : IsAnchor (text ++ rest) := by
  intro c hc
  rcases List.mem_append.1 hc with h | h
  · exact htext c h
  · exact hrest c h

/-- Nothing of an anchor is in upper case, none of it is left out, and it has no space. -/
theorem anchorChars_eq_self (h : IsAnchor text) : anchorChars text = text := by
  have hkept : ∀ c ∈ text, isAnchorChar c = true := by
    intro c hc
    obtain rfl | rfl | hletter := (h c hc).1
    · rfl
    · rfl
    · simp [isAnchorChar, hletter]
  have hsame : ∀ c ∈ text, hyphenate c = c := by
    intro c hc
    refine if_neg ?_
    rintro rfl
    have hblank := (h ' ' hc).1
    revert hblank
    decide +kernel
  rw [anchorChars, lowercase_eq_self fun c hc => (h c hc).2, List.filter_eq_self.2 hkept,
    List.map_congr_left hsame, List.map_id']

end IsAnchor

theorem isAnchor_hyphen : IsAnchor ['-'] := by
  intro c hc
  obtain rfl := List.mem_singleton.1 hc
  exact ⟨.inl rfl, isLower_of_ascii (by decide) rfl⟩

theorem isAnchor_decimal (n : Nat) : IsAnchor (Text.decimal n) := by
  intro c hc
  have hdigit := Text.isDigit_of_mem_decimal hc
  refine ⟨.inr (.inr ?_), isLower_of_isDigit hdigit⟩
  exact Ranges.contains_iff.2 ⟨(0x30, 0x39), List.mem_cons_self, Char.isDigit_iff_toNat.1 hdigit⟩

theorem isAnchor_anchorChars (text : List Char) : IsAnchor (anchorChars text) := by
  intro d hd
  obtain ⟨c, hc, rfl⟩ := List.mem_map.1 hd
  obtain ⟨hlower, hkept⟩ := List.mem_filter.1 hc
  rw [hyphenate]
  split
  · exact isAnchor_hyphen '-' List.mem_cons_self
  · rename_i hspace
    simp only [isAnchorChar, hspace, decide_false, Bool.false_or, Bool.or_eq_true,
      decide_eq_true_eq, or_assoc] at hkept
    exact ⟨hkept, isLower_of_mem_lowercase hlower⟩

theorem isAnchor_headingSlug (text : String) : IsAnchor (headingSlug text).toList := by
  rw [headingSlug, String.toList_ofList]
  exact isAnchor_anchorChars text.toList

theorem headingSlug_eq_self_iff {slug : String} :
    headingSlug slug = slug ↔ IsAnchor slug.toList := by
  constructor
  · intro h
    rw [← h]
    exact isAnchor_headingSlug slug
  · intro h
    rw [headingSlug, h.anchorChars_eq_self, String.ofList_toList]

namespace Slugger

theorem isAnchor_candidate {base : String} (h : IsAnchor base.toList) (k : Nat) :
    IsAnchor (candidate base k).toList := by
  rw [candidate]
  split
  · exact h
  · have hnumber : IsAnchor (String.ofList (Text.decimal k)).toList := by
      rw [String.toList_ofList]
      exact isAnchor_decimal k
    rw [String.toList_append, String.toList_append]
    exact (h.append isAnchor_hyphen).append hnumber

/-- Whatever a slugger has handed out before, it hands out an anchor. -/
theorem isAnchor_slug (s : Slugger) (text : String) : IsAnchor (s.slug text).1.toList := by
  have hbase := isAnchor_headingSlug text
  rw [slug]
  split
  · exact hbase
  · exact isAnchor_candidate hbase _

end Slugger

/-- Anchors are in normal form. The anchor of a heading is its own anchor; all that it has is
hyphens, underscores, letters, marks and numbers that no lower-casing changes, one by one or
together; and whatever a slugger has handed out before, what it hands out for a heading, with
a number behind it or without, is its own anchor too. -/
theorem headingSlug_normal (text : String) :
    headingSlug (headingSlug text) = headingSlug text ∧
      (∀ c ∈ (headingSlug text).toList,
        (c = '-' ∨ c = '_' ∨ isLetterMarkNumber c = true) ∧ IsLower c) ∧
      lowercase (headingSlug text).toList = (headingSlug text).toList ∧
      ∀ s : Slugger, headingSlug (s.slug text).1 = (s.slug text).1 := by
  have hanchor : IsAnchor (headingSlug text).toList := isAnchor_headingSlug text
  refine ⟨headingSlug_eq_self_iff.2 hanchor, hanchor, ?lower, fun s => ?slugger⟩
  case lower => exact lowercase_eq_self fun c hc => (hanchor c hc).2
  case slugger => exact headingSlug_eq_self_iff.2 (s.isAnchor_slug text)

/-- A sigma at the end of a word, a letter whose image has two characters, and a heading whose
anchor was handed out before. -/
theorem headingSlug_normal_sigma :
    let s := (({} : Slugger).slug "οδος i\u0307").2
    headingSlug "ΟΔΟΣ İ!" = "οδος-i\u0307" ∧ headingSlug "οδος-i\u0307" = "οδος-i\u0307" ∧
      'ς' ∈ "οδος-i\u0307".toList ∧ IsLower 'ς' ∧
      (s.slug "ΟΔΟΣ İ!").1 = "οδος-i\u0307-1" ∧
      headingSlug "οδος-i\u0307-1" = "οδος-i\u0307-1" := by
  intro s
  have hslug : headingSlug "ΟΔΟΣ İ!" = "οδος-i\u0307" := by decide +kernel
  have hnumbered : (s.slug "ΟΔΟΣ İ!").1 = "οδος-i\u0307-1" := by decide +kernel
  have hmem : 'ς' ∈ "οδος-i\u0307".toList := by decide
  obtain ⟨hself, hchars, -, hslugger⟩ := headingSlug_normal "ΟΔΟΣ İ!"
  rw [hslug] at hself hchars
  have hself' := hslugger s
  rw [hnumbered] at hself'
  exact ⟨hslug, hself, hmem, (hchars 'ς' hmem).2, hnumbered, hself'⟩

end LinkIndex
