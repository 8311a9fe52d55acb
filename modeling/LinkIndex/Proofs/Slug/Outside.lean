import LinkIndex.Path
import LinkIndex.Proofs.Slug.Path
import LinkIndex.Proofs.Text.Lines
import Mathlib.Data.List.TakeWhile

/-!
Keys of documents outside of the directory that paths are taken relative to. The directory
is taken off as a text, without regard to where its last name ends, so a path beside it
loses a part of a name where it begins with the same characters. Such a key is the key of
another document, one in the directory.
-/

namespace LinkIndex

/-! ### Paths and their parts -/

namespace Path

/-- The slashes in front of a path, if there are any, and its names. -/
def parts (p : Path) : List String :=
  if p.isAbsolute then p.anchor :: p.names else p.names

/-- Part by part, a path begins as a directory does. -/
def IsWithin (path directory : String) : Prop :=
  (ofString directory).parts <+: (ofString path).parts

instance (path directory : String) : Decidable (IsWithin path directory) :=
  inferInstanceAs (Decidable (_ <+: _))

def EndsInName (directory : String) : Prop :=
  ∃ c, directory.toList.getLast? = some c ∧ c ≠ '/'

variable {directory : String}

theorem pieces_append_slash (directory rest : String) :
    pieces (directory ++ "/" ++ rest) = pieces directory ++ pieces rest := by
  have hchars : (directory ++ "/" ++ rest).toList = directory.toList ++ '/' :: rest.toList := by
    simp
  rw [pieces, hchars, Text.cutAt_append_cons (by simp), List.map_append, pieces, pieces]

theorem anchorOf_append (h : EndsInName directory) (rest : String) :
    anchorOf (directory ++ rest) = anchorOf directory := by
  obtain ⟨c, hlast, hc⟩ := h
  have hends : (directory.toList.takeWhile (· = '/')).length ≠ directory.toList.length := by
    intro hlength
    have hself := (List.takeWhile_prefix (· = '/')).eq_of_length hlength
    have hslash := List.mem_takeWhile_imp (hself ▸ List.mem_of_getLast? hlast)
    exact hc (by simpa using hslash)
  rw [anchorOf, anchorOf, String.toList_append, List.takeWhile_append, if_neg hends]

theorem isWithin_append_slash (h : EndsInName directory) (rest : String) :
    IsWithin (directory ++ "/" ++ rest) directory := by
  have hnames : (ofString (directory ++ "/" ++ rest)).names =
      (ofString directory).names ++ (ofString rest).names := by
    simp [ofString, pieces_append_slash]
  have hanchor : (ofString (directory ++ "/" ++ rest)).anchor = (ofString directory).anchor := by
    rw [String.append_assoc]
    exact anchorOf_append h _
  refine ⟨(ofString rest).names, ?_⟩
  by_cases habsolute : (ofString directory).anchor = "" <;>
    simp [parts, isAbsolute, hanchor, hnames, habsolute]

end Path

/-! ### Keys -/

namespace Slug

def withoutExtension (path : String) : String :=
  String.ofList (dropExtension path.toList)

/-- The key of a path from which no directory is taken off. -/
def wholeKey (path : String) : String :=
  String.ofList (dropLeadingSlash (withoutExtension path).toList)

variable {path cwd rest : String} {text : List Char}

theorem ofPath_eq (path cwd : String) :
    ofPath path cwd = String.ofList
      (dropLeadingSlash (dropDirectory cwd.toList (withoutExtension path).toList)) := by
  rw [ofPath, ofPathChars, withoutExtension, String.toList_ofList]

theorem isWithoutExtension_withoutExtension (hlast : path.toList.getLast? ≠ some '\n') :
    IsWithoutExtension path (withoutExtension path) := by
  by_cases hext : ∃ e ∈ documentExtensions, e <:+ path.toList
  · obtain ⟨e, he, front, hfront⟩ := hext
    refine .inl ⟨e, he, ?_⟩
    rw [withoutExtension, ← hfront, dropExtension_append he, String.toList_ofList]
  · have hplain : ∀ e ∈ documentExtensions, ¬e <:+ path.toList :=
      fun e he hend => hext ⟨e, he, hend⟩
    refine .inr ⟨?_, hplain⟩
    rw [withoutExtension, dropExtension_of_plain hlast hplain, String.ofList_toList]

/-- What an extension stands in front of has no slash. -/
theorem exists_append_of_dropExtension (text : List Char) :
    ∃ front e tail,
      text = front ++ e ++ tail ∧ dropExtension text = front ++ tail ∧ '/' ∉ tail := by
  obtain ⟨body, tail, htext, hsplit, htail⟩ :
      ∃ body tail, text = body ++ tail ∧ splitFinalLineFeed text = (body, tail) ∧ '/' ∉ tail := by
    rw [splitFinalLineFeed]
    cases hfeed : Text.dropSuffix? ['\n'] text with
    | none => exact ⟨text, [], by simp, rfl, by simp⟩
    | some body => exact ⟨body, ['\n'], Text.dropSuffix?_eq_some_iff.1 hfeed, rfl, by simp⟩
  have hdrop : dropExtension text = dropFirstEnding documentExtensions body ++ tail := by
    rw [dropExtension, dropEnding, hsplit]
  cases hfound : documentExtensions.findSome? (Text.dropSuffix? · body) with
  | none =>
      refine ⟨body, [], tail, by simpa using htext, ?_, htail⟩
      rw [hdrop, dropFirstEnding, hfound, Option.getD_none]
  | some front =>
      obtain ⟨e, -, he⟩ := List.exists_of_findSome?_eq_some hfound
      refine ⟨front, e, tail, ?_, ?_, htail⟩
      · rw [htext, Text.dropSuffix?_eq_some_iff.1 he]
      · rw [hdrop, dropFirstEnding, hfound, Option.getD_some]

/-- The names of a directory are in front of an extension or nowhere. -/
theorem exists_eq_append_slash {directory : List Char}
    (h : directory ++ ['/'] <+: dropExtension text) : directory ++ ['/'] <+: text := by
  obtain ⟨front, e, tail, htext, hdrop, htail⟩ := exists_append_of_dropExtension text
  rw [hdrop] at h
  have hfront : directory ++ ['/'] <+: front := by
    rcases List.prefix_or_prefix_of_prefix h (List.prefix_append front tail) with hin | hout
    · exact hin
    rcases List.prefix_concat_iff.1 hout with rfl | ⟨more, rfl⟩
    · exact List.prefix_rfl
    · -- the slash would stand behind the extension
      rw [List.append_assoc, List.prefix_append_right_inj] at h
      exact absurd (h.subset (by simp)) htail
  rw [htext, List.append_assoc]
  exact hfront.trans (List.prefix_append _ _)

/-- Behind a directory that a path does not lie in no further name begins. -/
theorem head?_ne_slash (hcwd : Path.EndsInName cwd) (hout : ¬Path.IsWithin path cwd)
    (hrest : withoutExtension path = cwd ++ rest) : rest.toList.head? ≠ some '/' := by
  intro hhead
  obtain ⟨more, hmore⟩ : ∃ more, rest.toList = '/' :: more := by
    cases h : rest.toList with
    | nil => simp [h] at hhead
    | cons c more => exact ⟨more, by simpa [h] using hhead⟩
  have hchars : dropExtension path.toList = cwd.toList ++ ['/'] ++ more := by
    have heq := congrArg String.toList hrest
    simpa [withoutExtension, hmore] using heq
  obtain ⟨further, hfurther⟩ := exists_eq_append_slash ⟨more, hchars.symm⟩
  have hpath : path = cwd ++ "/" ++ String.ofList further := by
    rw [← String.toList_inj, ← hfurther]
    simp
  exact hout (hpath ▸ Path.isWithin_append_slash hcwd _)

theorem dropLeadingSlash_of_head? (h : text.head? ≠ some '/') : dropLeadingSlash text = text := by
  cases text with
  | nil => rfl
  | cons c text =>
      rw [dropLeadingSlash]
      rintro rest ⟨⟩
      simp at h

theorem length_le_dropLeadingSlash (text : List Char) :
    text.length ≤ (dropLeadingSlash text).length + 1 ∧
      (dropLeadingSlash text).length ≤ text.length := by
  rw [dropLeadingSlash.eq_def]
  split <;> simp

theorem ofPath_of_append (hrest : withoutExtension path = cwd ++ rest) :
    ofPath path cwd = String.ofList (dropLeadingSlash rest.toList) := by
  rw [ofPath_eq, hrest, String.toList_append, dropDirectory_append]

theorem ofPath_of_not_append (hnone : ∀ rest, withoutExtension path ≠ cwd ++ rest) :
    ofPath path cwd = wholeKey path := by
  have hdrop : Text.dropPrefix? cwd.toList (withoutExtension path).toList = none := by
    rw [Option.eq_none_iff_forall_ne_some]
    intro rest hrest
    have hchars := Text.dropPrefix?_eq_some_iff.1 hrest
    refine hnone (String.ofList rest) ?_
    rw [← String.toList_inj, hchars]
    simp
  rw [ofPath_eq, dropDirectory, hdrop, Option.getD_none, wholeKey]

/-- A key from which the directory was taken off is shorter than the whole one. -/
theorem ofPath_ne_wholeKey (hcwd : Path.EndsInName cwd)
    (hrest : withoutExtension path = cwd ++ rest) : ofPath path cwd ≠ wholeKey path := by
  intro heq
  rw [ofPath_of_append hrest, wholeKey, hrest, String.ofList_inj, String.toList_append] at heq
  have hlength := congrArg List.length heq
  obtain ⟨c, hlast, hc⟩ := hcwd
  obtain ⟨front, hfront⟩ := List.getLast?_eq_some_iff.1 hlast
  rw [hfront] at hlength
  cases front with
  | nil =>
      have hwhole : dropLeadingSlash ([] ++ [c] ++ rest.toList) = c :: rest.toList :=
        dropLeadingSlash_of_head? (by simpa using hc)
      rw [hwhole, List.length_cons] at hlength
      have hle := (length_le_dropLeadingSlash rest.toList).2
      omega
  | cons d front =>
      have hle := (length_le_dropLeadingSlash rest.toList).2
      have hge := (length_le_dropLeadingSlash (d :: front ++ [c] ++ rest.toList)).1
      simp only [List.length_append, List.length_cons, List.length_nil] at hge
      omega

/-- A document that does not lie in the directory has its whole path for its key, without
extension and leading slash, just where that path does not begin with the text of the
directory. Where it does, what follows is the rest of a name that is longer than the last
name of the directory; the key is this rest, and the directory may hold documents of the
same key. -/
theorem ofPath_outside_iff (hcwd : Path.EndsInName cwd) (hout : ¬Path.IsWithin path cwd) :
    (path.toList.getLast? ≠ some '\n' → IsWithoutExtension path (withoutExtension path)) ∧
      (ofPath path cwd = wholeKey path ↔ ∀ rest, withoutExtension path ≠ cwd ++ rest) ∧
      ∀ rest, withoutExtension path = cwd ++ rest →
        rest.toList.head? ≠ some '/' ∧ ofPath path cwd = rest ∧
          ∀ e ∈ documentExtensions,
            Path.IsWithin (cwd ++ "/" ++ (rest ++ String.ofList e)) cwd ∧
              ofPath (cwd ++ "/" ++ (rest ++ String.ofList e)) cwd = rest := by
  refine ⟨isWithoutExtension_withoutExtension, ⟨?whole, ofPath_of_not_append⟩, ?cut⟩
  case whole =>
    intro hwhole rest hrest
    exact ofPath_ne_wholeKey hcwd hrest hwhole
  case cut =>
    intro rest hrest
    have hhead := head?_ne_slash hcwd hout hrest
    refine ⟨hhead, ?_, ?_⟩
    · rw [ofPath_of_append hrest, dropLeadingSlash_of_head? hhead, String.ofList_toList]
    · intro e he
      refine ⟨Path.isWithin_append_slash hcwd _, ?_⟩
      have hchars : (cwd ++ "/" ++ (rest ++ String.ofList e)).toList =
          cwd.toList ++ '/' :: (rest.toList ++ e) := by simp
      rw [ofPath, hchars, ofPathChars_append he, String.ofList_toList]

/-- A document of a directory whose name goes on where the other one ends; it has the key of a
document in that one. -/
theorem ofPath_outside_longerName :
    Path.EndsInName "/site" ∧ ¬Path.IsWithin "/site2/a.md" "/site" ∧
      withoutExtension "/site2/a.md" = "/site" ++ "2/a" ∧
      ofPath "/site2/a.md" "/site" = "2/a" ∧ ofPath "/site/2/a.md" "/site" = "2/a" := by
  have hcwd : Path.EndsInName "/site" := ⟨'e', by decide, by decide⟩
  have hout : ¬Path.IsWithin "/site2/a.md" "/site" := by decide +kernel
  have hrest : withoutExtension "/site2/a.md" = "/site" ++ "2/a" := by decide +kernel
  obtain ⟨-, hkey, hinside⟩ := (ofPath_outside_iff hcwd hout).2.2 "2/a" hrest
  exact ⟨hcwd, hout, hrest, hkey, (hinside ".md".toList (by decide)).2⟩

/-- Beside the directory, a document loses a part of the name of its own directory, and one
loses its whole name. -/
theorem beside_loses_name :
    Path.EndsInName "/site" ∧
      (¬Path.IsWithin "/site2/a.md" "/site" ∧ wholeKey "/site2/a.md" = "site2/a" ∧
        ofPath "/site2/a.md" "/site" = "2/a") ∧
      ¬Path.IsWithin "/site.md" "/site" ∧ wholeKey "/site.md" = "site" ∧
        ofPath "/site.md" "/site" = "" := by
  refine ⟨⟨'e', by decide, by decide⟩, ⟨?_, ?_, ?_⟩, ?_, ?_, ?_⟩ <;> decide +kernel

end Slug

end LinkIndex
