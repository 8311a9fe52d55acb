import LinkIndex.Frontmatter
import LinkIndex.Proofs.Slug.Path

/-!
The key that the frontmatter of a document gives it: its slug without a slash at the end.
The end is that of the text or that of its last line, so a slash goes also where one line
feed stands behind it, and the line feed stays. All other slugs lose a slash only where it is
their very last character.
-/

namespace LinkIndex

namespace Slug

open Text

variable {front text : List Char} {s t : String}

def withoutLastSlash (s : String) : String :=
  if s.toList.getLast? = some '/' then String.ofList s.toList.dropLast else s

theorem dropFirstEnding_slash :
    dropFirstEnding [['/']] text = (dropSuffix? ['/'] text).getD text := by
  rw [dropFirstEnding, List.findSome?_cons]
  cases dropSuffix? ['/'] text <;> rfl

theorem dropSuffix?_slash_of_getLast? (hlast : text.getLast? ≠ some '/') :
    dropSuffix? ['/'] text = none := by
  rw [dropSuffix?_eq_none_iff]
  rintro ⟨front, rfl⟩
  simp at hlast

theorem dropEnding_slash (front : List Char) : dropEnding [['/']] (front ++ ['/']) = front := by
  have hfeed : (front ++ ['/']).getLast? ≠ some '\n' := by simp
  have hdrop : dropSuffix? ['/'] (front ++ ['/']) = some front := dropSuffix?_eq_some_iff.2 rfl
  simp only [dropEnding, splitFinalLineFeed_eq hfeed, dropFirstEnding_slash, hdrop,
    Option.getD_some, List.append_nil]

theorem dropEnding_slash_lineFeed (front : List Char) :
    dropEnding [['/']] (front ++ ['/', '\n']) = front ++ ['\n'] := by
  have hfeed : dropSuffix? ['\n'] (front ++ ['/', '\n']) = some (front ++ ['/']) :=
    dropSuffix?_eq_some_iff.2 (by simp)
  have hdrop : dropSuffix? ['/'] (front ++ ['/']) = some front := dropSuffix?_eq_some_iff.2 rfl
  simp only [dropEnding, splitFinalLineFeed, hfeed, dropFirstEnding_slash, hdrop, Option.getD_some]

theorem dropEnding_of_no_slash (hlast : text.getLast? ≠ some '/')
    (hfeed : ¬['/', '\n'] <:+ text) : dropEnding [['/']] text = text := by
  cases hsplit : dropSuffix? ['\n'] text with
  | none =>
      simp only [dropEnding, splitFinalLineFeed, hsplit, dropFirstEnding_slash,
        dropSuffix?_slash_of_getLast? hlast, Option.getD_none, List.append_nil]
  | some body =>
      obtain rfl := dropSuffix?_eq_some_iff.1 hsplit
      have hbody : body.getLast? ≠ some '/' := by
        intro hslash
        obtain ⟨front, rfl⟩ := List.getLast?_eq_some_iff.1 hslash
        exact hfeed ⟨front, by simp⟩
      simp only [dropEnding, splitFinalLineFeed, hsplit, dropFirstEnding_slash,
        dropSuffix?_slash_of_getLast? hbody, Option.getD_none]

theorem ofFrontmatter?_eq (s : String) : ofFrontmatter? s =
    if dropEnding [['/']] s.toList = [] then none
    else some (String.ofList (dropEnding [['/']] s.toList)) := by
  rw [ofFrontmatter?]
  cases dropEnding [['/']] s.toList <;> simp

theorem ofFrontmatter?_of_no_lineFeed (hfeed : ¬['/', '\n'] <:+ s.toList) :
    ofFrontmatter? s = if s = "" ∨ s = "/" then none else some (withoutLastSlash s) := by
  rw [ofFrontmatter?_eq, withoutLastSlash]
  by_cases hlast : s.toList.getLast? = some '/'
  · obtain ⟨front, hfront⟩ := List.getLast?_eq_some_iff.1 hlast
    have hempty : front = [] ↔ s = "" ∨ s = "/" := by
      rw [← String.toList_inj, ← String.toList_inj, hfront]
      simp
    rw [if_pos hlast, hfront, dropEnding_slash, List.dropLast_concat]
    simp only [hempty]
  · have hslash : s ≠ "/" := by
      rintro rfl
      exact hlast rfl
    rw [if_neg hlast, dropEnding_of_no_slash hlast hfeed]
    simp [hslash]

theorem ofFrontmatter?_lineFeed (t : String) : ofFrontmatter? (t ++ "/\n") = some (t ++ "\n") := by
  have hchars : (t ++ "/\n").toList = t.toList ++ ['/', '\n'] := by simp
  rw [ofFrontmatter?_eq, hchars, dropEnding_slash_lineFeed, if_neg (by simp), Option.some_inj,
    ← String.toList_inj]
  simp

/-- Nothing is left of a slug just where there was nothing, or nothing but the slash. -/
theorem ofFrontmatter?_eq_none_iff {s : String} : ofFrontmatter? s = none ↔ s = "" ∨ s = "/" := by
  by_cases hfeed : ['/', '\n'] <:+ s.toList
  · obtain ⟨front, hfront⟩ := hfeed
    have hs : s = String.ofList front ++ "/\n" := by
      rw [← String.toList_inj, ← hfront]
      simp
    have hlength : 2 ≤ s.toList.length := by simp [← hfront]
    rw [hs, ofFrontmatter?_lineFeed, ← hs]
    constructor
    · intro h
      cases h
    · rintro (rfl | rfl) <;> simp at hlength
  · rw [ofFrontmatter?_of_no_lineFeed hfeed]
    split <;> simp [*]

end Slug

namespace Frontmatter

open Slug

/-- The key that the value of a slug gives by the rule: a text without a slash at its very end,
unless nothing is left of it; none where the value is no text or is missing. -/
def keyOfSlug? : Option Yaml.Value → Option String
  | some (.str s) => if s = "" ∨ s = "/" then none else some (withoutLastSlash s)
  | _ => none

theorem documentSlug?_of_str {f : Frontmatter} {s : String} (h : f.get? "slug" = some (.str s)) :
    f.documentSlug? = ofFrontmatter? s := by
  rw [documentSlug?, slug?, h]
  rfl

theorem documentSlug?_of_not_str {f : Frontmatter} (h : ∀ s, f.get? "slug" ≠ some (.str s)) :
    f.documentSlug? = none := by
  rw [documentSlug?, slug?]
  split
  · rename_i s hslug
    exact absurd hslug (h s)
  · rfl

/-- No key comes of a slug that is no text, and none of one that has no more than a slash. -/
theorem documentSlug?_eq_none_iff {f : Frontmatter} :
    f.documentSlug? = none ↔ ∀ s, f.get? "slug" = some (.str s) → s = "" ∨ s = "/" := by
  by_cases htext : ∃ s, f.get? "slug" = some (.str s)
  · obtain ⟨s, hslug⟩ := htext
    rw [documentSlug?_of_str hslug, ofFrontmatter?_eq_none_iff, hslug]
    simp
  · have hother : ∀ s, f.get? "slug" ≠ some (.str s) := fun s hslug => htext ⟨s, hslug⟩
    simp [documentSlug?_of_not_str hother, hother]

theorem keyOfSlug?_of_not_str {v : Option Yaml.Value} (h : ∀ s, v ≠ some (.str s)) :
    keyOfSlug? v = none := by
  rw [keyOfSlug?]
  exact h

theorem keyOfSlug?_lineFeed (t : String) :
    keyOfSlug? (some (.str (t ++ "/\n"))) = some (t ++ "/\n") := by
  have hlast : (t ++ "/\n").toList.getLast? ≠ some '/' := by simp
  have hother : ∀ s ∈ ["", "/"], t ++ "/\n" ≠ s := by
    intro s hs heq
    have hmem : '\n' ∈ s.toList := by simp [← heq]
    obtain rfl | rfl := List.mem_pair.1 hs <;> simp at hmem
  rw [keyOfSlug?, withoutLastSlash, if_neg hlast, if_neg]
  rintro (hempty | hslash)
  · exact hother _ (by simp) hempty
  · exact hother _ (by simp) hslash

/-- A frontmatter gives the key of the rule just where its slug is no text with a slash in front of
a line feed at its end. Of such a text the slash is dropped, though it is not the last character. -/
theorem documentSlug?_eq_keyOfSlug?_iff (f : Frontmatter) :
    (f.documentSlug? = keyOfSlug? (f.get? "slug") ↔
      ∀ t, f.get? "slug" ≠ some (.str (t ++ "/\n"))) ∧
    ∀ t, f.get? "slug" = some (.str (t ++ "/\n")) → f.documentSlug? = some (t ++ "\n") := by
  have hfeed : ∀ t, f.get? "slug" = some (.str (t ++ "/\n")) →
      f.documentSlug? = some (t ++ "\n") := by
    intro t hslug
    rw [documentSlug?_of_str hslug, ofFrontmatter?_lineFeed]
  refine ⟨⟨fun hrule t hslug => ?differs, fun hplain => ?agrees⟩, hfeed⟩
  case differs =>
    rw [hfeed t hslug, hslug, keyOfSlug?_lineFeed, Option.some_inj, ← String.toList_inj] at hrule
    have hlength := congrArg List.length hrule
    simp at hlength
  case agrees =>
    by_cases htext : ∃ s, f.get? "slug" = some (.str s)
    · obtain ⟨s, hslug⟩ := htext
      rw [documentSlug?_of_str hslug, hslug, keyOfSlug?]
      refine ofFrontmatter?_of_no_lineFeed ?_
      rintro ⟨front, hfront⟩
      refine hplain (String.ofList front) ?_
      rw [hslug, Option.some_inj, Yaml.Value.str.injEq, ← String.toList_inj, ← hfront]
      simp
    · have hother : ∀ s, f.get? "slug" ≠ some (.str s) := fun s hslug => htext ⟨s, hslug⟩
      rw [documentSlug?_of_not_str hother, keyOfSlug?_of_not_str hother]

/-- Of two slashes one is dropped, and with a line feed behind them too. -/
theorem documentSlug?_eq_keyOfSlug?_iff_slashes :
    ((∀ t, get? [(.str "slug", .str "double//")] "slug" ≠ some (.str (t ++ "/\n"))) ∧
      documentSlug? [(.str "slug", .str "double//")] = some "double/") ∧
    get? [(.str "slug", .str "double//\n")] "slug" = some (.str ("double/" ++ "/\n")) ∧
      documentSlug? [(.str "slug", .str "double//\n")] = some ("double/" ++ "\n") := by
  have hplain : ∀ t, get? [(.str "slug", .str "double//")] "slug" ≠ some (.str (t ++ "/\n")) := by
    intro t hslug
    have htext : "double//" = t ++ "/\n" := by simpa [get?, Yaml.Value.lookup?] using hslug
    have hlast := congrArg (·.toList.getLast?) htext
    simp at hlast
  have hfeed : get? [(.str "slug", .str "double//\n")] "slug" =
      some (.str ("double/" ++ "/\n")) := rfl
  exact ⟨⟨hplain, (documentSlug?_eq_keyOfSlug?_iff _).1.2 hplain⟩, hfeed,
    (documentSlug?_eq_keyOfSlug?_iff _).2 _ hfeed⟩

/-- A slug that is written as a block of lines ends in a line feed, and loses the slash in front
of it. -/
theorem documentSlug?_block :
    (load "slug: |\n  guides/\n".toList).toOption.bind slug? = some "guides/\n" ∧
      keyOfSlug? (some (.str "guides/\n")) = some "guides/\n" ∧
      (load "slug: |\n  guides/\n".toList).toOption.bind documentSlug? = some "guides\n" := by
  refine ⟨?_, ?_, ?_⟩ <;> decide +kernel

end Frontmatter

end LinkIndex
