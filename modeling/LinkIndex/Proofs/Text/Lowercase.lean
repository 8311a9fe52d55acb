import LinkIndex.Text.Lowercase
import Mathlib.Data.List.Basic
import Mathlib.Data.Nat.ModEq

/-!
Lower case stays as it is. No run of the table takes a character to one that a run covers,
so a character that lower-casing has made is its own image, and no longer hangs on what
stands around it.
-/

namespace LinkIndex

/-! ### Runs whose images are covered by none -/

namespace CaseRun

variable {run other : CaseRun} {n m : Nat}

theorem image?_eq_some_iff :
    run.image? n = some m ↔
      (run.first ≤ n ∧ n ≤ run.last ∧ (n - run.first) % run.step = 0) ∧
        run.image + (n - run.first) = m := by
  rw [image?]
  split <;> simp [*]

/-- The images of a run stand in front of another run or behind it, or its steps pass over
them. -/
def Misses (run other : CaseRun) : Prop :=
  run.image + (run.last - run.first) < other.first ∨ other.last < run.image ∨
    ((run.first = run.last ∨ run.step % other.step = 0) ∧
      run.image % other.step ≠ other.first % other.step)

instance (run other : CaseRun) : Decidable (run.Misses other) :=
  inferInstanceAs (Decidable (_ ∨ _ ∨ _))

theorem Misses.image?_eq_none (h : run.Misses other) (hn : run.image? n = some m) :
    other.image? m = none := by
  obtain ⟨⟨hfirst, hlast, hstep⟩, rfl⟩ := image?_eq_some_iff.1 hn
  by_contra hcovered
  obtain ⟨_, hother⟩ := Option.ne_none_iff_exists'.1 hcovered
  obtain ⟨⟨hfirst', hlast', hstep'⟩, -⟩ := image?_eq_some_iff.1 hother
  rcases h with hfront | hbehind | ⟨hsteps, hpassed⟩
  · omega
  · omega
  · -- the steps of the run are steps of the other one, which goes on from another place
    have hmoved : other.step ∣ n - run.first := by
      rcases hsteps with hsingle | hmultiple
      · have hzero : n - run.first = 0 := by omega
        rw [hzero]
        exact Nat.dvd_zero _
      · exact (Nat.dvd_of_mod_eq_zero hmultiple).trans (Nat.dvd_of_mod_eq_zero hstep)
    have himage : run.image ≡ run.image + (n - run.first) [MOD other.step] :=
      (Nat.modEq_iff_dvd' (Nat.le_add_right _ _)).2 (by rwa [Nat.add_sub_cancel_left])
    have hplace : other.first ≡ run.image + (n - run.first) [MOD other.step] :=
      (Nat.modEq_iff_dvd' hfirst').2 (Nat.dvd_of_mod_eq_zero hstep')
    exact hpassed (himage.trans hplace.symm)

/-- The images of a run are characters. -/
def HasChars (run : CaseRun) : Prop :=
  run.image + (run.last - run.first) < 0xD800 ∨
    0xDFFF < run.image ∧ run.image + (run.last - run.first) < 0x110000

instance (run : CaseRun) : Decidable run.HasChars :=
  inferInstanceAs (Decidable (_ ∨ _))

theorem HasChars.toNat_ofNat (h : run.HasChars) (hn : run.image? n = some m) :
    (Char.ofNat m).toNat = m := by
  obtain ⟨⟨hfirst, hlast, -⟩, rfl⟩ := image?_eq_some_iff.1 hn
  have hvalid : (run.image + (n - run.first)).isValidChar := by
    rcases h with hlow | ⟨hhigh, hend⟩
    · exact .inl (by omega)
    · exact .inr ⟨by omega, by omega⟩
  rw [Char.ofNat, dif_pos hvalid]
  rfl

end CaseRun

section MapCase

variable {runs : List CaseRun} {c : Char}

/-- A character in no run stays, and any other one goes to its image under one of them. -/
theorem mapCase_cases (runs : List CaseRun) (c : Char) :
    mapCase runs c = c ∨
      ∃ run ∈ runs, ∃ n, run.image? c.toNat = some n ∧ mapCase runs c = Char.ofNat n := by
  rw [mapCase]
  cases himage : runs.findSome? (·.image? c.toNat) with
  | none => exact .inl rfl
  | some n =>
      obtain ⟨run, hrun, hn⟩ := List.exists_of_findSome?_eq_some himage
      exact .inr ⟨run, hrun, n, hn, rfl⟩

theorem mapCase_of_missed (h : ∀ run ∈ runs, run.image? c.toNat = none) : mapCase runs c = c := by
  rw [mapCase, List.findSome?_eq_none_iff.2 h]

/-- Where all runs miss one another, an image is its own image. -/
theorem mapCase_mapCase (hchars : ∀ run ∈ runs, run.HasChars)
    (hmisses : ∀ run ∈ runs, ∀ other ∈ runs, run.Misses other) (c : Char) :
    mapCase runs (mapCase runs c) = mapCase runs c := by
  obtain hstays | ⟨run, hrun, n, hn, himage⟩ := mapCase_cases runs c
  · rw [hstays, hstays]
  · rw [himage]
    refine mapCase_of_missed fun other hother => ?_
    rw [(hchars run hrun).toNat_ofNat hn]
    exact (hmisses run hrun other hother).image?_eq_none hn

end MapCase

/-! ### The table of lower case -/

theorem hasChars_lowercaseRuns : ∀ run ∈ lowercaseRuns, run.HasChars := by
  decide +kernel

theorem misses_lowercaseRuns :
    ∀ run ∈ lowercaseRuns, ∀ other ∈ lowercaseRuns, run.Misses other := by
  have hall : lowercaseRuns.all (fun run => lowercaseRuns.all fun other => run.Misses other) := by
    decide +kernel
  simpa only [List.all_eq_true, decide_eq_true_eq] using hall

/-- The capital letter whose image has two characters, as a run of its own. -/
def dottedRun : CaseRun :=
  ⟨0x130, 0x130, 1, 0x69⟩

theorem misses_dottedRun : ∀ run ∈ lowercaseRuns, run.Misses dottedRun := by
  decide +kernel

theorem mapCase_ne_dotted {c : Char} (hc : c ≠ '\u0130') : mapCase lowercaseRuns c ≠ '\u0130' := by
  obtain hstays | ⟨run, hrun, n, hn, himage⟩ := mapCase_cases lowercaseRuns c
  · rwa [hstays]
  · rw [himage]
    intro hdotted
    have hnumber := (hasChars_lowercaseRuns run hrun).toNat_ofNat hn
    rw [hdotted] at hnumber
    have hmissed := (misses_dottedRun run hrun).image?_eq_none hn
    rw [← hnumber] at hmissed
    contradiction

def capitalRun : CaseRun :=
  ⟨0x41, 0x5A, 1, 0x61⟩

/-- All other runs begin behind ASCII. -/
theorem mapCase_of_ascii {c : Char} (hc : c.toNat < 128) :
    mapCase lowercaseRuns c = mapCase [capitalRun] c := by
  have hcons : lowercaseRuns = capitalRun :: lowercaseRuns.tail := rfl
  have hlater : ∀ run ∈ lowercaseRuns.tail, 128 ≤ run.first := by
    decide +kernel
  have hmissed : lowercaseRuns.tail.findSome? (·.image? c.toNat) = none := by
    rw [List.findSome?_eq_none_iff]
    intro run hrun
    have hfirst := hlater run hrun
    rw [CaseRun.image?, if_neg (by omega)]
  rw [mapCase, mapCase, hcons, List.findSome?_cons, List.findSome?_cons, hmissed]
  rfl

theorem toLower_eq_mapCase {c : Char} (hc : c.toNat < 128) :
    c.toLower = mapCase lowercaseRuns c := by
  have hletters : ∀ n < 128, (Char.ofNat n).toLower = mapCase [capitalRun] (Char.ofNat n) := by
    decide +kernel
  have hself := hletters c.toNat hc
  rwa [Char.ofNat_toNat, ← mapCase_of_ascii hc] at hself

/-! ### Characters in lower case -/

/-- A character that lower-casing leaves as it is, whatever stands around it. -/
def IsLower (c : Char) : Prop :=
  ∀ before after, lowercaseAt before c after = [c]

theorem isLower_of_mapCase {c : Char} (hdotted : c ≠ '\u0130')
    (hc : mapCase lowercaseRuns c = c) : IsLower c := by
  have hsigma : c ≠ '\u03a3' := by
    rintro rfl
    revert hc
    decide +kernel
  intro before after
  rw [lowercaseAt, if_neg hdotted, if_neg hsigma]
  split
  · rename_i hascii
    rw [toLower_eq_mapCase hascii, hc]
  · rw [hc]

theorem isLower_of_ascii {c : Char} (hascii : c.toNat < 128) (hc : c.toLower = c) : IsLower c := by
  have hdotted : c ≠ '\u0130' := by
    rintro rfl
    contradiction
  exact isLower_of_mapCase hdotted (toLower_eq_mapCase hascii ▸ hc)

theorem isLower_of_isDigit {c : Char} (hc : c.isDigit = true) : IsLower c := by
  rw [Char.isDigit_iff_toNat] at hc
  have hlast : c.toNat ≤ 57 := hc.2
  refine isLower_of_ascii (by omega) (dif_neg ?_)
  rintro ⟨hcapital, -⟩
  have hfirst : 65 ≤ c.toNat := UInt32.le_iff_toNat_le.1 hcapital
  omega

/-- What lower-casing puts in the place of a character is in lower case. -/
theorem isLower_of_mem_lowercaseAt {before after : List Char} {c d : Char}
    (hd : d ∈ lowercaseAt before c after) : IsLower d := by
  have htable {c : Char} (hc : c ≠ '\u0130') : IsLower (mapCase lowercaseRuns c) :=
    isLower_of_mapCase (mapCase_ne_dotted hc)
      (mapCase_mapCase hasChars_lowercaseRuns misses_lowercaseRuns c)
  rw [lowercaseAt] at hd
  split at hd
  -- the capital letter with a dot leaves a letter and a dot
  · rcases List.mem_pair.1 hd with rfl | rfl
    · exact isLower_of_ascii (by decide) rfl
    · exact isLower_of_mapCase (by decide) (by decide +kernel)
  rename_i hdotted
  split at hd
  -- of the capital sigma either form is in lower case, wherever the other would stand
  · obtain rfl := List.mem_singleton.1 hd
    split
    · exact isLower_of_mapCase (by decide) (by decide +kernel)
    · exact isLower_of_mapCase (by decide) (by decide +kernel)
  split at hd
  · rename_i hascii
    rw [toLower_eq_mapCase hascii, List.mem_singleton] at hd
    exact hd ▸ htable hdotted
  · exact List.mem_singleton.1 hd ▸ htable hdotted

theorem isLower_of_mem_lowercase {text : List Char} {c : Char} (hc : c ∈ lowercase text) :
    IsLower c := by
  have hfrom : ∀ (before text : List Char), c ∈ lowercaseFrom before text → IsLower c := by
    intro before text
    induction text generalizing before with
    | nil => intro h; cases h
    | cons d rest ih =>
        intro h
        rw [lowercaseFrom, List.mem_append] at h
        rcases h with hhead | hrest
        · exact isLower_of_mem_lowercaseAt hhead
        · exact ih (d :: before) hrest
  exact hfrom [] text hc

/-- A text in lower case is its own lower case. -/
theorem lowercase_eq_self {text : List Char} (h : ∀ c ∈ text, IsLower c) :
    lowercase text = text := by
  have hfrom : ∀ before, lowercaseFrom before text = text := by
    induction text with
    | nil => exact fun _ => rfl
    | cons c rest ih =>
        intro before
        obtain ⟨hc, hrest⟩ := List.forall_mem_cons.1 h
        rw [lowercaseFrom, hc, ih hrest, List.singleton_append]
  exact hfrom []

end LinkIndex
