import LinkIndex.Html.CharRef
import LinkIndex.Proofs.Text.Bytes
import LinkIndex.Proofs.Text.Lines
import Mathlib.Data.List.TakeWhile

/-!
Character references as HTML reads them. What is read as a reference has no second ampersand
in it, and what it stands for is at most as long as the reference with its ampersand, so
that decoding a text never makes it longer.
-/

namespace LinkIndex.Html

variable {name cs image : List Char} {length : Nat}

/-! ### Names -/

/-- Whether every image of a table has two characters at most. -/
def hasShortImages (table : List (String × String)) : Bool :=
  table.all fun p => (Text.bytes p.2).countP Text.beginsChar ≤ 2

theorem hasShortImages_entitiesFrom (c : Char) : hasShortImages (entitiesFrom c) = true := by
  unfold entitiesFrom
  split <;> decide +kernel

/-- A name stands for two characters at most. -/
theorem length_le_of_entity? (h : entity? name = some image) : image.length ≤ 2 := by
  cases name with
  | nil => contradiction
  | cons c rest =>
    obtain ⟨text, hlookup, rfl⟩ := Option.map_eq_some_iff.1 h
    obtain ⟨front, back, htable, -⟩ := List.lookup_eq_some_iff.1 hlookup
    have hentry : (String.ofList (c :: rest), text) ∈ entitiesFrom c := by
      rw [htable]
      exact List.mem_append_right front List.mem_cons_self
    have hshort := List.all_eq_true.1 (hasShortImages_entitiesFrom c) _ hentry
    exact Nat.le_trans (Text.length_le_countP text) (of_decide_eq_true hshort)

theorem length_longestEntity {k : Nat} (hk : k < name.length)
    (h : longestEntity name k = some image) : image.length ≤ name.length + 1 := by
  induction k with
  | zero => contradiction
  | succ k ih =>
      rw [longestEntity] at h
      split at h
      · contradiction
      split at h
      · rename_i front hfront
        obtain rfl := Option.some.inj h
        have hshort := length_le_of_entity? hfront
        rw [List.length_append, List.length_drop]
        omega
      · exact ih (by omega) h

/-- The image of a name is at most as long as the name with its ampersand. -/
theorem length_nameImage (hname : name ≠ []) : (nameImage name).length ≤ name.length + 1 := by
  have hpos := List.length_pos_iff.2 hname
  rw [nameImage]
  split
  · rename_i image himage
    have hshort := length_le_of_entity? himage
    omega
  · cases hlongest : longestEntity name (name.length - 1) with
    | none => simp
    | some image => exact length_longestEntity (by omega) hlongest

/-! ### References -/

theorem length_numberImage (n : Nat) : (numberImage n).length ≤ 1 := by
  rw [numberImage]
  repeat' split
  all_goals simp

/-- A semicolon is taken where one follows. -/
theorem length_take_semicolonLength (cs : List Char) :
    (cs.take (semicolonLength cs)).length = semicolonLength cs := by
  rw [semicolonLength]
  cases cs with
  | nil => rfl
  | cons c rest => split <;> rfl

theorem not_mem_take_semicolonLength (cs : List Char) : '&' ∉ cs.take (semicolonLength cs) := by
  rw [semicolonLength]
  cases cs with
  | nil => simp
  | cons c rest =>
      split
      · rename_i hc
        obtain rfl : c = ';' := by simpa using hc
        simp
      · simp

/-- What is read as a reference behind an ampersand: some text without a further one, as long as
is said, and with an image that does not exceed it. -/
structure IsReference (cs image : List Char) (length : Nat) : Prop where
  le : length ≤ cs.length
  no_ampersand : '&' ∉ cs.take length
  short : image.length ≤ length + 1

/-- What is read is given by what it leaves. -/
theorem IsReference.of_append {front rest : List Char} (hplain : '&' ∉ front)
    (hshort : image.length ≤ front.length + 1) :
    IsReference (front ++ rest) image front.length where
  le := by rw [List.length_append]; omega
  no_ampersand := by rwa [List.take_left]
  short := hshort

/-- Digits with what stands in front of them, and the semicolon behind them. -/
theorem isReference_number {p : Char → Bool} (hp : p '&' = false) (front digits : List Char)
    (hfront : '&' ∉ front) (n : Nat) :
    IsReference (front ++ digits) (numberImage n)
      (front.length + (digits.takeWhile p).length + semicolonLength (digits.dropWhile p)) := by
  have hsplit : (front ++ digits.takeWhile p ++
      (digits.dropWhile p).take (semicolonLength (digits.dropWhile p))) ++
        (digits.dropWhile p).drop (semicolonLength (digits.dropWhile p)) = front ++ digits := by
    simp
  have hdigits : '&' ∉ digits.takeWhile p := by
    intro hmem
    rw [List.mem_takeWhile_imp hmem] at hp
    contradiction
  have hlength := length_take_semicolonLength (digits.dropWhile p)
  have himage := length_numberImage n
  rw [← hlength, ← List.length_append, ← List.length_append, ← hsplit]
  refine .of_append ?_ (by omega)
  simp [hfront, hdigits, not_mem_take_semicolonLength]

/-- The beginning of a text that is looked up as a name, without a semicolon behind it. -/
def nameFront (cs : List Char) : List Char :=
  (cs.takeWhile fun c => !endsName c).take 32

theorem not_mem_nameFront (cs : List Char) : '&' ∉ nameFront cs := by
  intro hmem
  have hends := List.mem_takeWhile_imp (List.mem_of_mem_take hmem)
  contradiction

/-- Where no number begins, the beginning is looked up with the semicolon behind it. -/
theorem reference?_of_no_mark (after : List Char) (hmark : ∀ rest, cs ≠ '#' :: rest)
    (hcs : nameFront cs ++ after = cs) :
    reference? cs = if nameFront cs = [] then none else
      some (nameImage (nameFront cs ++ after.take (semicolonLength after)),
        (nameFront cs ++ after.take (semicolonLength after)).length) := by
  have hdrop : cs.drop (nameFront cs).length = after :=
    (congrArg (List.drop _) hcs.symm).trans List.drop_left
  unfold reference?
  split
  · exact absurd rfl (hmark _)
  · simp only
    rw [← nameFront, hdrop]

/-- A name with the semicolon behind it. -/
theorem isReference_name {front : List Char} (after : List Char) (hplain : '&' ∉ front)
    (hne : front ≠ []) :
    IsReference (front ++ after)
      (nameImage (front ++ after.take (semicolonLength after)))
      (front ++ after.take (semicolonLength after)).length := by
  have hsplit : front ++ after = (front ++ after.take (semicolonLength after)) ++
      after.drop (semicolonLength after) := by
    simp
  rw [hsplit]
  refine .of_append ?_ (length_nameImage (by simp [hne]))
  simp [hplain, not_mem_take_semicolonLength]

theorem isReference_of_reference? (h : reference? cs = some (image, length)) :
    IsReference cs image length := by
  by_cases hmark : ∃ rest, cs = '#' :: rest
  · obtain ⟨rest, rfl⟩ := hmark
    cases rest with
    | nil => contradiction
    | cons x digits =>
        simp only [reference?] at h
        split at h
        · simp only [Option.some.injEq, Prod.mk.injEq] at h
          obtain ⟨rfl, rfl⟩ := h
          exact isReference_number (p := Char.isDigit) rfl ['#'] _ (by simp) _
        split at h
        · rename_i hhex
          simp only [Option.some.injEq, Prod.mk.injEq] at h
          obtain ⟨rfl, rfl⟩ := h
          refine isReference_number (p := Char.isHexDigit) rfl ['#', x] digits ?_ _
          rcases hhex.1 with rfl | rfl <;> simp
        · contradiction
  · obtain ⟨after, hafter⟩ : nameFront cs <+: cs :=
      (List.take_prefix _ _).trans (List.takeWhile_prefix _)
    rw [reference?_of_no_mark after (fun rest hcs => hmark ⟨rest, hcs⟩) hafter] at h
    split at h
    · contradiction
    · rename_i hne
      simp only [Option.some.injEq, Prod.mk.injEq] at h
      obtain ⟨rfl, rfl⟩ := h
      have hname := isReference_name after (not_mem_nameFront cs) hne
      rwa [hafter] at hname

/-! ### References with a semicolon behind them -/

variable {digits after : List Char}

theorem reference?_decimal (hdigits : ∀ c ∈ digits, c.isDigit = true) (hne : digits ≠ []) :
    reference? ('#' :: (digits ++ ';' :: after)) =
      some (numberImage (Json.digitsValue digits), digits.length + 2) := by
  have htake := Text.takeWhile_append_cons (c := ';') hdigits rfl after
  have hdrop := Text.dropWhile_append_cons (c := ';') hdigits rfl after
  obtain ⟨x, rest, hrest⟩ : ∃ x rest, digits ++ ';' :: after = x :: rest :=
    List.exists_cons_of_ne_nil (by simp)
  rw [hrest] at htake hdrop ⊢
  simp only [reference?, htake, hdrop, if_pos hne, semicolonLength]
  simp only [List.head?_cons, if_true, Option.some.injEq, Prod.mk.injEq, true_and]
  omega

theorem reference?_hexadecimal {x : Char} (hx : x = 'x' ∨ x = 'X')
    (hdigits : ∀ c ∈ digits, c.isHexDigit = true) (hne : digits ≠ []) :
    reference? ('#' :: x :: (digits ++ ';' :: after)) =
      some (numberImage (hexNumber digits), digits.length + 3) := by
  have htake := Text.takeWhile_append_cons (c := ';') hdigits rfl after
  have hdrop := Text.dropWhile_append_cons (c := ';') hdigits rfl after
  have hdecimal : (x :: (digits ++ ';' :: after)).takeWhile Char.isDigit = [] := by
    rcases hx with rfl | rfl <;> rfl
  simp only [reference?, hdecimal, htake, hdrop, ne_eq, not_true_eq_false, if_false,
    if_pos (And.intro hx hne), semicolonLength]
  simp only [List.head?_cons, if_true, Option.some.injEq, Prod.mk.injEq, true_and]
  omega

theorem reference?_name (hends : ∀ c ∈ name, endsName c = false) (hmark : '#' ∉ name)
    (hlength : name.length ≤ 32) (hne : name ≠ [])
    (hentity : entity? (name ++ [';']) = some image) :
    reference? (name ++ ';' :: after) = some (image, name.length + 1) := by
  have hfront : nameFront (name ++ ';' :: after) = name := by
    have hall : ∀ c ∈ name, (!endsName c) = true := by simpa using hends
    rw [nameFront, List.takeWhile_append_of_pos hall]
    simpa [endsName] using List.take_of_length_le hlength
  have hnumber : ∀ rest, name ++ ';' :: after ≠ '#' :: rest := by
    intro rest hrest
    obtain ⟨c, cs, rfl⟩ := List.exists_cons_of_ne_nil hne
    rw [List.cons_append, List.cons.injEq] at hrest
    exact hmark (by simp [hrest.1])
  rw [reference?_of_no_mark (';' :: after) hnumber (by rw [hfront]), hfront, if_neg hne]
  simp [semicolonLength, nameImage, hentity]

/-! ### Decoding -/

theorem unescapeFrom_eq_drop (skip : Nat) (cs : List Char) :
    unescapeFrom skip cs = unescape (cs.drop skip) := by
  induction skip generalizing cs with
  | zero => rfl
  | succ skip ih =>
      cases cs with
      | nil => rfl
      | cons c rest => rw [unescapeFrom, ih, List.drop_succ_cons]

theorem unescape_cons {c : Char} (hc : c ≠ '&') (cs : List Char) :
    unescape (c :: cs) = c :: unescape cs := by
  rw [unescape, unescapeFrom]
  · rfl
  · exact hc

/-- What stands in front of the first ampersand stays. -/
theorem unescape_append {front : List Char} (hand : '&' ∉ front) (cs : List Char) :
    unescape (front ++ cs) = front ++ unescape cs := by
  induction front with
  | nil => rfl
  | cons c front ih =>
      rw [List.mem_cons, not_or] at hand
      rw [List.cons_append, unescape_cons (Ne.symm hand.1), ih hand.2, List.cons_append]

theorem unescape_ampersand (cs : List Char) :
    unescape ('&' :: cs) = match reference? cs with
      | some (image, length) => image ++ unescape (cs.drop length)
      | none => '&' :: unescape cs := by
  rw [unescape, unescapeFrom]
  split <;> simp [*, unescapeFrom_eq_drop]

/-- What is written in place of an ampersand and what follows it, if it is anything else, and how
much of that it takes. -/
def decoded? (cs : List Char) : Option (List Char × Nat) :=
  (reference? cs).filter fun (image, length) => image ≠ '&' :: cs.take length

theorem decoded?_eq_none_iff (h : reference? cs = some (image, length)) :
    decoded? cs = none ↔ image = '&' :: cs.take length := by
  simp [decoded?, h]

theorem decoded?_eq_none (h : reference? cs = none) : decoded? cs = none := by
  rw [decoded?, h]
  rfl

theorem decoded?_eq_some (h : reference? cs = some (image, length))
    (hshort : image.length ≤ length) : decoded? cs = some (image, length) := by
  have hlength := List.length_take_of_le (isReference_of_reference? h).le
  rw [decoded?, h, Option.filter_some_pos]
  rw [decide_eq_true_iff]
  rintro rfl
  rw [List.length_cons] at hshort
  omega

/-! ### Numbers that are too long -/

/-- A decimal reference of the text has more digits than are read. -/
def HasOverlong (text : List Char) : Prop :=
  ∃ front rest, text = front ++ '&' :: '#' :: rest ∧
    Json.maxDigits < (rest.takeWhile Char.isDigit).length

theorem overlong?_cons (c : Char) (rest : List Char) :
    overlong? (c :: rest) = none ↔ overlong? rest = none ∧
      ∀ behind, c = '&' → rest = '#' :: behind →
        isCountedBy (behind.takeWhile Char.isDigit) = true := by
  by_cases hmark : c = '&' ∧ ∃ behind, rest = '#' :: behind
  · obtain ⟨rfl, behind, rfl⟩ := hmark
    have hsharp : overlong? ('#' :: behind) = overlong? behind := rfl
    rw [overlong?, hsharp]
    split <;> simp_all
  · have hskip : overlong? (c :: rest) = overlong? rest := by
      rw [overlong?]
      rintro behind rfl rfl
      exact hmark ⟨rfl, behind, rfl⟩
    rw [hskip, iff_self_and]
    rintro - behind rfl rfl
    exact absurd ⟨rfl, behind, rfl⟩ hmark

theorem overlong?_eq_none_iff (text : List Char) :
    overlong? text = none ↔ ¬HasOverlong text := by
  induction text with
  | nil =>
      refine iff_of_true rfl ?_
      rintro ⟨front, rest, hsplit, -⟩
      simp at hsplit
  | cons c rest ih =>
      rw [overlong?_cons, ih, HasOverlong, HasOverlong]
      constructor
      · rintro ⟨hrest, hhere⟩ ⟨front, behind, hsplit, hlong⟩
        cases front with
        | nil =>
            obtain ⟨rfl, rfl⟩ := List.cons.inj hsplit
            have hcounted := hhere behind rfl rfl
            simp only [isCountedBy, decide_eq_true_eq] at hcounted
            omega
        | cons d front =>
            exact hrest ⟨front, behind, (List.cons.inj hsplit).2, hlong⟩
      · intro h
        refine ⟨?_, ?_⟩
        · rintro ⟨front, behind, rfl, hlong⟩
          exact h ⟨c :: front, behind, rfl, hlong⟩
        · rintro behind rfl rfl
          by_contra hcounted
          refine h ⟨[], behind, rfl, ?_⟩
          simpa [isCountedBy] using hcounted

theorem exists_decode_iff (text : List Char) :
    (∃ image, decode text = .ok image) ↔ ¬HasOverlong text := by
  rw [← overlong?_eq_none_iff, decode]
  cases overlong? text <;> simp

/-- Before a number, the number is decoded, with all of its digits. -/
theorem exists_decoded?_of_digits {rest : List Char} (hne : rest.takeWhile Char.isDigit ≠ []) :
    ∃ image length, decoded? ('#' :: rest) = some (image, length) ∧
      (rest.takeWhile Char.isDigit).length < length := by
  have hread : reference? ('#' :: rest) =
      some (numberImage (Json.digitsValue (rest.takeWhile Char.isDigit)),
        1 + (rest.takeWhile Char.isDigit).length +
          semicolonLength (rest.dropWhile Char.isDigit)) := by
    cases rest with
    | nil => contradiction
    | cons x digits => rw [reference?, if_pos hne]
  have himage := length_numberImage (Json.digitsValue (rest.takeWhile Char.isDigit))
  exact ⟨_, _, decoded?_eq_some hread (by omega), by omega⟩

end LinkIndex.Html
