import LinkIndex.Proofs.Text.Lines
import LinkIndex.Proofs.Url.Authority
import Mathlib.Data.List.Basic
import Mathlib.Data.List.TakeWhile

/-!
Which URLs count as absolute. A scheme is a letter with further letters, digits, plus signs,
hyphens and points behind it, up to a colon. All of these are of ASCII in the standard; but
the decimal digits of every script are passed over on the way to the colon. A text with such
a digit in what would be its scheme counts as absolute where it can be taken apart, and no
other text does that the standard gives no scheme.
-/

namespace LinkIndex

namespace Url

/-- A digit of a script other than that of ASCII. -/
def isForeignDigit (c : Char) : Bool :=
  isDecimalDigit c && !c.isDigit

/-- A text that begins with a letter, a name of a given kind behind it, and a colon. -/
def BeginsWith (kind : List Char → Prop) (u : String) : Prop :=
  ∃ c name rest, u.toList = c :: (name ++ ':' :: rest) ∧ c.isAlpha = true ∧ kind name

def HasStandardScheme (u : String) : Prop :=
  BeginsWith (fun name => ∀ x ∈ name, isSchemeChar x = true) u

/-- A text that begins with what would be a scheme but for digits of other scripts in it. -/
def HasForeignScheme (u : String) : Prop :=
  BeginsWith (fun name => (∀ x ∈ name, isSchemeChar x = true ∨ isForeignDigit x = true) ∧
    ∃ x ∈ name, isForeignDigit x = true) u

/-- A text that begins with the root of a drive: its letter, a colon and a slash of either kind. -/
def IsOnDrive (u : String) : Prop :=
  ∃ c slash rest, u.toList = c :: ':' :: slash :: rest ∧ c.isAlpha = true ∧
    (slash = '\\' ∨ slash = '/')

variable {p : Char → Bool} {text : List Char} {u : String} {c : Char}

/-! ### Characters of schemes -/

theorem isDecimalDigit_of_isDigit (hc : c.isDigit = true) : isDecimalDigit c = true :=
  Ranges.contains_iff.2 ⟨(0x30, 0x39), List.mem_cons_self, Char.isDigit_iff_toNat.1 hc⟩

/-- The table of decimal digits holds those of ASCII in one interval, and no other of ASCII. -/
theorem le_of_isForeignDigit (hc : isForeignDigit c = true) : 0x80 ≤ c.toNat := by
  rw [isForeignDigit, Bool.and_eq_true, Bool.not_eq_true', ← Bool.not_eq_true,
    Char.isDigit_iff_toNat] at hc
  obtain ⟨r, hr, hlow, hhigh⟩ := Ranges.contains_iff.1 hc.1
  have htable : decimalDigitRanges.all (fun r => r == (0x30, 0x39) || 0x80 ≤ r.1) = true := by
    decide
  have hmember := List.all_eq_true.1 htable r hr
  rw [Bool.or_eq_true, beq_iff_eq, decide_eq_true_iff] at hmember
  obtain rfl | hforeign := hmember
  · exact absurd ⟨hlow, hhigh⟩ hc.2
  · omega

theorem toNat_lt_of_isAlpha (hc : c.isAlpha = true) : c.toNat < 0x80 := by
  rcases Bool.or_eq_true_iff.1 hc with hupper | hlower
  · have hZ : c.val ≤ 90 := (of_decide_eq_true hupper).2
    exact Nat.lt_of_le_of_lt (UInt32.le_iff_toNat_le.1 hZ) (by decide)
  · have hz : c.val ≤ 122 := of_decide_eq_true (Bool.and_eq_true_iff.1 hlower).2
    exact Nat.lt_of_le_of_lt (UInt32.le_iff_toNat_le.1 hz) (by decide)

theorem toNat_lt_of_isSchemeChar (hc : isSchemeChar c = true) : c.toNat < 0x80 := by
  simp only [isSchemeChar, Bool.or_eq_true, decide_eq_true_eq] at hc
  rcases hc with (((hletter | hdigit) | rfl) | rfl) | rfl
  · exact toNat_lt_of_isAlpha hletter
  · exact Nat.lt_of_le_of_lt (Char.isDigit_iff_toNat.1 hdigit).2 (by decide)
  all_goals decide

theorem not_isForeignDigit (hc : isSchemeChar c = true) : isForeignDigit c = false := by
  by_contra hforeign
  have hlow := le_of_isForeignDigit (by simpa using hforeign)
  have hhigh := toNat_lt_of_isSchemeChar hc
  omega

theorem isLooseSchemeChar_iff :
    isLooseSchemeChar c = true ↔ isSchemeChar c = true ∨ isForeignDigit c = true := by
  have hdigit := @isDecimalDigit_of_isDigit c
  rw [isLooseSchemeChar, isSchemeChar, isForeignDigit]
  cases hd : c.isDigit <;> cases hn : isDecimalDigit c <;> simp_all

/-! ### What is recognised -/

/-- What the characters of a kind are followed by is what stands behind a run of them. -/
theorem head?_dropWhile_eq_some_iff (hc : p c = false) :
    (text.dropWhile p).head? = some c ↔
      ∃ name rest, text = name ++ c :: rest ∧ ∀ x ∈ name, p x = true := by
  constructor
  · intro hhead
    obtain ⟨rest, hrest⟩ := List.head?_eq_some_iff.1 hhead
    refine ⟨text.takeWhile p, rest, ?_, fun x hx => List.mem_takeWhile_imp hx⟩
    rw [← hrest, List.takeWhile_append_dropWhile]
  · rintro ⟨name, rest, rfl, hname⟩
    rw [Text.dropWhile_append_cons hname hc, List.head?_cons]

theorem hasScheme_iff : hasScheme u.toList = true ↔
    BeginsWith (fun name => ∀ x ∈ name, isLooseSchemeChar x = true) u := by
  rw [BeginsWith]
  cases u.toList with
  | nil => simp [hasScheme]
  | cons c text =>
      rw [hasScheme, Bool.and_eq_true, decide_eq_true_iff, head?_dropWhile_eq_some_iff rfl]
      constructor
      · rintro ⟨hletter, name, rest, rfl, hname⟩
        exact ⟨c, name, rest, rfl, hletter, hname⟩
      · rintro ⟨_, name, rest, hchars, hletter, hname⟩
        obtain ⟨rfl, rfl⟩ := List.cons.inj hchars
        exact ⟨hletter, name, rest, rfl, hname⟩

theorem hasScheme_iff_or :
    hasScheme u.toList = true ↔ HasStandardScheme u ∨ HasForeignScheme u := by
  rw [hasScheme_iff]
  simp only [isLooseSchemeChar_iff]
  constructor
  · rintro ⟨c, name, rest, hchars, hletter, hname⟩
    by_cases hforeign : ∃ x ∈ name, isForeignDigit x = true
    · exact .inr ⟨c, name, rest, hchars, hletter, hname, hforeign⟩
    · refine .inl ⟨c, name, rest, hchars, hletter, fun x hx => ?_⟩
      exact (hname x hx).resolve_right fun hx' => hforeign ⟨x, hx, hx'⟩
  · rintro (⟨c, name, rest, hchars, hletter, hname⟩ | ⟨c, name, rest, hchars, hletter, hname, -⟩)
    · exact ⟨c, name, rest, hchars, hletter, fun x hx => .inl (hname x hx)⟩
    · exact ⟨c, name, rest, hchars, hletter, hname⟩

theorem isDrivePath_iff : isDrivePath u.toList = true ↔ IsOnDrive u := by
  rw [IsOnDrive, isDrivePath.eq_def]
  split
  · rename_i c slash rest hchars
    rw [hchars]
    simp
  · rename_i hother
    constructor
    · simp
    · rintro ⟨c, slash, rest, hchars, -⟩
      exact absurd hchars (hother c slash rest)

theorem takeWhile_ne_colon {name rest : List Char} (hname : ':' ∉ name) :
    (name ++ ':' :: rest).takeWhile (· ≠ ':') = name := by
  have hall : ∀ x ∈ name, decide (x ≠ ':') = true := by
    intro x hx
    exact decide_eq_true fun hcolon => hname (hcolon ▸ hx)
  exact Text.takeWhile_append_cons hall (by simp) rest

/-- The characters up to the first colon are of one kind or of the other. -/
theorem HasForeignScheme.not_standard (h : HasForeignScheme u) : ¬HasStandardScheme u := by
  rintro ⟨c', name', rest', hchars', -, hname'⟩
  obtain ⟨c, name, rest, hchars, -, hname, x, hx, hforeign⟩ := h
  have hcolon : ':' ∉ name := fun hmem => absurd (hname _ hmem) (by decide)
  have hcolon' : ':' ∉ name' := fun hmem => absurd (hname' _ hmem) (by decide)
  have htail : name ++ ':' :: rest = name' ++ ':' :: rest' :=
    (List.cons.inj (hchars.symm.trans hchars')).2
  obtain rfl : name = name' := by
    rw [← takeWhile_ne_colon hcolon, htail, takeWhile_ne_colon hcolon']
  simp [not_isForeignDigit (hname' x hx)] at hforeign

/-- Between the letter of a drive and its colon stands nothing. -/
theorem HasForeignScheme.not_isOnDrive (h : HasForeignScheme u) : ¬IsOnDrive u := by
  rintro ⟨c', slash, rest', hchars', -⟩
  obtain ⟨c, name, rest, hchars, -, hname, x, hx, -⟩ := h
  rw [hchars', List.cons.injEq] at hchars
  cases name with
  | nil => simp at hx
  | cons y name =>
      have hcolon : y = ':' := (List.cons.inj hchars.2).1.symm
      exact absurd (hname y List.mem_cons_self) (hcolon ▸ by decide)

theorem IsOfWeb.hasStandardScheme (h : IsOfWeb u) : HasStandardScheme u := by
  obtain ⟨s, hs, rest, rfl⟩ := h
  have hname : ∀ x ∈ ['t', 't', 'p', 's'], isSchemeChar x = true :=
    List.all_eq_true.1 (by decide)
  obtain rfl | rfl := List.mem_pair.1 hs
  · exact ⟨'h', ['t', 't', 'p'], '/' :: '/' :: rest.toList, toList_web _ _, rfl,
      fun x hx => hname x (List.mem_append_left ['s'] hx)⟩
  · exact ⟨'h', ['t', 't', 'p', 's'], '/' :: '/' :: rest.toList, toList_web _ _, rfl, hname⟩

theorem isAbsolute_iff : isAbsolute u.toList = true ↔
    (HasStandardScheme u ∨ HasForeignScheme u) ∧ ¬IsOnDrive u ∧ splits u.toList = true := by
  rw [isAbsolute, Bool.and_eq_true, Bool.and_eq_true, Bool.not_eq_true', ← Bool.not_eq_true,
    isDrivePath_iff, hasScheme_iff_or, and_right_comm, and_comm]

/-- A text counts as absolute where it begins with a scheme, is no path of a drive and can be
taken apart. A scheme is one of the standard, or one with digits of other scripts; with the
standard's schemes alone the same texts count just if no text with a foreign one can be
taken apart. None of these is taken for a link that leads out. -/
theorem isAbsolute_standard_iff (u : String) :
    (isAbsolute u.toList = true ↔
      (HasStandardScheme u ∨ HasForeignScheme u) ∧ ¬IsOnDrive u ∧ splits u.toList = true) ∧
    ((isAbsolute u.toList = true ↔
        HasStandardScheme u ∧ ¬IsOnDrive u ∧ splits u.toList = true) ↔
      ¬(HasForeignScheme u ∧ splits u.toList = true)) ∧
    ¬(HasForeignScheme u ∧ classify u = .external) := by
  refine ⟨isAbsolute_iff, ?exact, ?inside⟩
  case exact =>
    rw [isAbsolute_iff]
    constructor
    · rintro hsame ⟨hforeign, hsplits⟩
      exact hforeign.not_standard (hsame.1 ⟨.inr hforeign, hforeign.not_isOnDrive, hsplits⟩).1
    · intro hnone
      refine and_congr_left fun ⟨hdrive, hsplits⟩ => or_iff_left fun hforeign => ?_
      exact hnone ⟨hforeign, hsplits⟩
  case inside =>
    rintro ⟨hforeign, hexternal⟩
    exact hforeign.not_standard (classify_eq_external_iff.1 hexternal).1.hasStandardScheme

/-- An Arabic digit behind a letter: the standard has no such scheme, and the text counts as
absolute all the same. -/
theorem isAbsolute_foreignDigit :
    ¬HasStandardScheme "a٣:b" ∧ HasForeignScheme "a٣:b" ∧ ¬IsOnDrive "a٣:b" ∧
      splits "a٣:b".toList = true ∧ isAbsolute "a٣:b".toList = true := by
  have hdigit : isForeignDigit '٣' = true := by decide
  have hforeign : HasForeignScheme "a٣:b" :=
    ⟨'a', ['٣'], ['b'], rfl, rfl, by simp [hdigit], '٣', by simp, hdigit⟩
  have hsplits : splits "a٣:b".toList = true := by decide +kernel
  refine ⟨hforeign.not_standard, hforeign, hforeign.not_isOnDrive, hsplits, ?_⟩
  exact isAbsolute_iff.2 ⟨.inr hforeign, hforeign.not_isOnDrive, hsplits⟩

end Url

end LinkIndex
