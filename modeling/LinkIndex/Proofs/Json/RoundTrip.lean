import LinkIndex.Json.Printer
import LinkIndex.Json.Reader
import LinkIndex.Proofs.Assoc
import Mathlib.Data.List.TakeWhile

/-!
Printed values are read back. A reader takes from a text as much as was printed and
leaves what stands behind it, so that the parts of a value can be read one after the
other; the fuel of the reader is enough as soon as it covers the length of the text.
Objects come back with their members in order, for their names are all different.
-/

namespace LinkIndex.Json

/-! ### Characters of strings -/

/-- A character is printed in one of three ways: by a letter behind a backslash, by
its number, or as itself. -/
theorem encodeChar_cases (c : Char) :
    (∃ e, encodeChar false c = ['\\', e] ∧ simpleEscape? e = some c) ∨
      (encodeChar false c = escapeUnit c.toNat ∧ c.toNat < 0x20) ∨
      (encodeChar false c = [c] ∧ c ≠ '"' ∧ c ≠ '\\' ∧ 0x20 ≤ c.toNat) := by
  have hcode {n : Nat} (h : c.toNat = n) : c = Char.ofNat n := by
    rw [← h, Char.ofNat_toNat]
  by_cases hquote : c = '"'
  · subst hquote
    exact .inl ⟨'"', rfl, rfl⟩
  by_cases hslash : c = '\\'
  · subst hslash
    exact .inl ⟨'\\', rfl, rfl⟩
  by_cases hfeed : c = '\n'
  · subst hfeed
    exact .inl ⟨'n', rfl, rfl⟩
  by_cases hreturn : c = '\r'
  · subst hreturn
    exact .inl ⟨'r', rfl, rfl⟩
  by_cases htab : c = '\t'
  · subst htab
    exact .inl ⟨'t', rfl, rfl⟩
  by_cases hback : c.toNat = 0x8
  · rw [hcode hback]
    exact .inl ⟨'b', rfl, rfl⟩
  by_cases hform : c.toNat = 0xC
  · rw [hcode hform]
    exact .inl ⟨'f', rfl, rfl⟩
  by_cases hcontrol : c.toNat < 0x20
  · refine .inr (.inl ⟨?_, hcontrol⟩)
    simp only [encodeChar, hquote, hslash, hfeed, hreturn, htab, hback, hform, hcontrol, if_true,
      if_false]
  · refine .inr (.inr ⟨?_, hquote, hslash, by omega⟩)
    simp only [encodeChar, hquote, hslash, hfeed, hreturn, htab, hback, hform, hcontrol, if_false,
      Bool.false_and, Bool.false_eq_true]

theorem hexUnit?_hexDigits {n : Nat} (hn : n < 0x20) :
    ∃ a b c d, Quoted.hexDigits 4 n = [a, b, c, d] ∧ hexUnit? a b c d = some n := by
  refine ⟨_, _, _, _, rfl, ?_⟩
  revert n
  decide

theorem readString_escape {e c : Char} (hescape : simpleEscape? e = some c)
    (opening rest : List Char) :
    readString opening ('\\' :: e :: rest) = consChar c (readString opening rest) := by
  have hu : e ≠ 'u' := by
    rintro rfl
    simp [simpleEscape?] at hescape
  rw [readString] <;> simp [*]

/-- A number that is no half of a pair stands for its character, whatever follows. -/
theorem readString_unit {a b c d : Char} {n : Nat} (hunit : hexUnit? a b c d = some n)
    (hhigh : isHighSurrogate n = false) (opening : List Char) {rest : List Char}
    (hrest : rest ≠ []) :
    readString opening ('\\' :: 'u' :: a :: b :: c :: d :: rest) =
      consChar (unitChar n) (readString opening rest) := by
  -- The reader looks ahead for a second number, so the texts that have one are told apart.
  by_cases hpair : ∃ a' b' c' d' e' rest',
      rest = '\\' :: 'u' :: a' :: b' :: c' :: d' :: e' :: rest'
  · obtain ⟨a', b', c', d', e', rest', rfl⟩ := hpair
    rw [readString.eq_6 _ _ _ _ _ _ _ _ _ _ _ _ hunit, hhigh]
    rfl
  · refine readString.eq_7 _ _ _ _ _ _ _ hunit hrest ?_
    intro a' b' c' d' e' rest' h
    exact hpair ⟨a', b', c', d', e', rest', h⟩

theorem readString_plain {c : Char} (hquote : c ≠ '"') (hslash : c ≠ '\\')
    (hvisible : 0x20 ≤ c.toNat) (opening rest : List Char) :
    readString opening (c :: rest) = consChar c (readString opening rest) := by
  have hcontrol : ¬c.toNat < 0x20 := by omega
  rw [readString] <;> simp [*]

theorem readString_encodeChar (opening : List Char) (c : Char) {rest : List Char}
    (hrest : rest ≠ []) :
    readString opening (encodeChar false c ++ rest) = consChar c (readString opening rest) := by
  obtain ⟨e, hc, hescape⟩ | ⟨hc, hcontrol⟩ | ⟨hc, hquote, hslash, hvisible⟩ := encodeChar_cases c
  · rw [hc]
    exact readString_escape hescape opening rest
  · obtain ⟨a, b, c', d, hdigits, hunit⟩ := hexUnit?_hexDigits hcontrol
    have hhigh : isHighSurrogate c.toNat = false := by
      simp only [isHighSurrogate, Bool.and_eq_false_iff, decide_eq_false_iff_not]
      omega
    have hlow : isLowSurrogate c.toNat = false := by
      simp only [isLowSurrogate, Bool.and_eq_false_iff, decide_eq_false_iff_not]
      omega
    have hchar : unitChar c.toNat = c := by simp [unitChar, hhigh, hlow]
    have hread := readString_unit hunit hhigh opening hrest
    rw [hc, escapeUnit, hdigits]
    exact hread.trans (by rw [hchar])
  · rw [hc]
    exact readString_plain hquote hslash hvisible opening rest

/-- A printed string is read up to its closing mark. -/
theorem readString_encodeString (opening text rest : List Char) :
    readString opening (text.flatMap (encodeChar false) ++ '"' :: rest) = .ok (text, rest) := by
  induction text with
  | nil => rw [List.flatMap_nil, List.nil_append, readString]
  | cons c text ih =>
      rw [List.flatMap_cons, List.append_assoc, readString_encodeChar opening c (by simp), ih]
      rfl

/-! ### Values -/

/-- Values that are made of texts: texts, lists, and objects with different names. -/
inductive IsTextual : Json → Prop
  | str (s : String) : IsTextual (.str s)
  | arr {elements : List Json} (helements : ∀ v ∈ elements, IsTextual v) :
      IsTextual (.arr elements)
  | obj {members : Assoc String Json} (hnames : members.keys.Nodup)
      (hmembers : ∀ p ∈ members, IsTextual p.2) : IsTextual (.obj members)

/-- The marks with which such values begin. -/
def IsOpening (c : Char) : Prop :=
  c = '"' ∨ c = '[' ∨ c = '\x7b'

theorem IsOpening.isWhite_eq {c : Char} (hc : IsOpening c) : isWhite c = false := by
  obtain rfl | rfl | rfl := hc <;> rfl

theorem IsOpening.ne_of_not {c d : Char} (hc : IsOpening c) (hd : ¬IsOpening d) : c ≠ d :=
  fun h => hd (h ▸ hc)

instance : DecidablePred IsOpening :=
  fun c => inferInstanceAs (Decidable (c = '"' ∨ c = '[' ∨ c = '\x7b'))

theorem IsTextual.indentedChars_eq {v : Json} (hv : IsTextual v) (level : Nat) :
    ∃ mark rest, indentedChars level v = mark :: rest ∧ IsOpening mark := by
  cases hv with
  | str s => exact ⟨_, _, rfl, by decide⟩
  | @arr elements _ => cases elements <;> exact ⟨_, _, rfl, by decide⟩
  | @obj members _ _ => cases members <;> exact ⟨_, _, rfl, by decide⟩

theorem skipWhite_cons {c : Char} (hc : isWhite c = false) (rest : List Char) :
    skipWhite (c :: rest) = c :: rest := by
  rw [skipWhite, List.dropWhile_cons_of_neg (by simp [hc])]

theorem skipWhite_newLine (level : Nat) (rest : List Char) :
    skipWhite (newLine level ++ rest) = skipWhite rest := by
  have hwhite : ∀ c ∈ newLine level, isWhite c = true := by
    intro c hc
    obtain rfl | hc := List.mem_cons.1 hc
    · rfl
    · rw [List.eq_of_mem_replicate hc]
      rfl
  exact List.dropWhile_append_of_pos hwhite

/-- Wherever a value was printed, it is read from there. -/
def ReadsBack (v : Json) : Prop :=
  ∀ level fuel rest, (indentedChars level v).length ≤ fuel →
    readValue fuel (indentedChars level v ++ rest) = .ok (v, rest)

theorem readsBack_str (s : String) : ReadsBack (.str s) := by
  intro level fuel rest hfuel
  obtain _ | fuel := fuel
  · simp [indentedChars, encodeString] at hfuel
  · simp only [indentedChars, encodeString, List.cons_append, List.append_assoc, List.nil_append,
      readValue, readString_encodeString, String.ofList_toList]

/-! ### Lists and objects -/

section

variable {level fuel : Nat}

/-- One step in a list: its next element is read, and what follows it decides. -/
theorem readElements_element {v : Json} (hv : ReadsBack v)
    (hfuel : (indentedChars level v).length ≤ fuel) (done : List Json) (rest : List Char) :
    readElements (fuel + 1) done (indentedChars level v ++ rest) =
      match skipWhite rest with
      | ']' :: rest => .ok (.arr (v :: done).reverse, rest)
      | ',' :: rest => readElements fuel (v :: done) (skipWhite rest)
      | rest => .error (.fault .expectingComma rest.length) := by
  rewrite [readElements, hv level fuel rest hfuel]
  rfl

theorem indentedElements_eq {v : Json} (hv : IsTextual v) (elements : List Json) (level : Nat) :
    ∃ mark rest, indentedElements level (v :: elements) = mark :: rest ∧ IsOpening mark := by
  obtain ⟨mark, rest, hrest, hmark⟩ := hv.indentedChars_eq level
  cases elements with
  | nil => exact ⟨mark, rest, hrest, hmark⟩
  | cons w elements =>
      simp only [indentedElements, hrest, List.cons_append]
      exact ⟨_, _, rfl, hmark⟩

/-- The elements of a list are printed behind a line break, which is passed over. -/
theorem skipWhite_indentedElements {v : Json} (hv : IsTextual v) (elements : List Json)
    (rest : List Char) :
    skipWhite (newLine level ++ (indentedElements level (v :: elements) ++ rest)) =
      indentedElements level (v :: elements) ++ rest := by
  obtain ⟨mark, tail, htail, hmark⟩ := indentedElements_eq hv elements level
  rw [skipWhite_newLine, htail, List.cons_append, skipWhite_cons hmark.isWhite_eq]

theorem readElements_indentedElements (level outer fuel : Nat) {v : Json} {elements : List Json}
    (htextual : ∀ w ∈ v :: elements, IsTextual w) (hread : ∀ w ∈ v :: elements, ReadsBack w)
    (done : List Json) (rest : List Char)
    (hfuel : (indentedElements level (v :: elements)).length < fuel) :
    readElements fuel done
        (indentedElements level (v :: elements) ++ (newLine outer ++ ']' :: rest)) =
      .ok (.arr (done.reverse ++ v :: elements), rest) := by
  induction elements generalizing v done fuel with
  | nil =>
      obtain _ | fuel := fuel
      · cases hfuel
      · simp only [indentedElements] at hfuel ⊢
        rw [readElements_element (hread v (by simp)) (by omega), skipWhite_newLine,
          skipWhite_cons rfl]
        simp
  | cons w elements ih =>
      obtain _ | fuel := fuel
      · cases hfuel
      · simp only [indentedElements, List.length_append, List.length_cons] at hfuel
        have hlater := ih fuel (List.forall_mem_cons.1 htextual).2 (List.forall_mem_cons.1 hread).2
          (v :: done) (by omega)
        simp only [indentedElements, List.append_assoc, List.cons_append]
        rw [readElements_element (hread v (by simp)) (by omega), skipWhite_cons rfl]
        simp only
        rw [skipWhite_indentedElements (htextual w (by simp)), hlater]
        simp

theorem readsBack_arr {elements : List Json} (htextual : ∀ v ∈ elements, IsTextual v)
    (hread : ∀ v ∈ elements, ReadsBack v) : ReadsBack (.arr elements) := by
  intro level fuel rest hfuel
  obtain _ | fuel := fuel
  · cases elements <;> simp [indentedChars] at hfuel
  · cases elements with
    | nil =>
        simp only [indentedChars, List.cons_append, List.nil_append, readValue]
        rw [skipWhite_cons rfl]
        rfl
    | cons v elements =>
        simp only [indentedChars, List.length_append, List.length_cons] at hfuel
        have helements := readElements_indentedElements (level + 1) level fuel htextual hread []
          rest (by omega)
        obtain ⟨mark, tail, htail, hmark⟩ :=
          indentedElements_eq (htextual v (by simp)) elements (level + 1)
        simp only [indentedChars, List.append_assoc, List.cons_append, List.nil_append]
        rw [readValue, skipWhite_indentedElements (htextual v (by simp))]
        rw [htail, List.cons_append] at helements ⊢
        split
        · next heq => exact absurd (List.cons.inj heq).1 (hmark.ne_of_not (by decide))
        · exact helements

/-- One step in an object: its next member is read, and what follows it decides. -/
theorem readMembers_member {v : Json} (htextual : IsTextual v) (hv : ReadsBack v)
    (hfuel : (indentedChars level v).length ≤ fuel) (done : Assoc String Json) (k : String)
    (rest : List Char) :
    readMembers (fuel + 1) done
        (encodeString false k.toList ++ ':' :: ' ' :: (indentedChars level v ++ rest)) =
      match skipWhite rest with
      | '\x7d' :: rest => .ok (.obj (done.put k v), rest)
      | ',' :: rest => readMembers fuel (done.put k v) (skipWhite rest)
      | rest => .error (.fault .expectingComma rest.length) := by
  obtain ⟨mark, tail, htail, hmark⟩ := htextual.indentedChars_eq level
  have hvalue : skipWhite (' ' :: (indentedChars level v ++ rest)) =
      indentedChars level v ++ rest := by
    rw [htail, List.cons_append]
    exact skipWhite_cons hmark.isWhite_eq _
  simp only [encodeString, List.cons_append, List.append_assoc, List.nil_append]
  rw [readMembers, readString_encodeString]
  simp only
  rw [skipWhite_cons rfl]
  simp only
  rewrite [hvalue, hv level fuel rest hfuel, String.ofList_toList]
  rfl

theorem indentedMembers_eq (p : String × Json) (members : List (String × Json)) (level : Nat) :
    ∃ rest, indentedMembers level (p :: members) = '"' :: rest := by
  cases members <;> exact ⟨_, rfl⟩

/-- The members of an object are printed behind a line break, which is passed over. -/
theorem skipWhite_indentedMembers (p : String × Json) (members : List (String × Json))
    (rest : List Char) :
    skipWhite (newLine level ++ (indentedMembers level (p :: members) ++ rest)) =
      indentedMembers level (p :: members) ++ rest := by
  obtain ⟨tail, htail⟩ := indentedMembers_eq p members level
  rw [skipWhite_newLine, htail, List.cons_append, skipWhite_cons rfl]

theorem readMembers_indentedMembers (level outer fuel : Nat) {p : String × Json}
    {members : List (String × Json)}
    (htextual : ∀ q ∈ p :: members, IsTextual q.2) (hread : ∀ q ∈ p :: members, ReadsBack q.2)
    (done : Assoc String Json) (hnames : Assoc.keys (done ++ p :: members) |>.Nodup)
    (rest : List Char) (hfuel : (indentedMembers level (p :: members)).length < fuel) :
    readMembers fuel done
        (indentedMembers level (p :: members) ++ (newLine outer ++ '\x7d' :: rest)) =
      .ok (.obj (done ++ p :: members), rest) := by
  -- The first name was not there before, so the member is put behind all others.
  have hput (p : String × Json) (done : Assoc String Json) (members : List (String × Json))
      (hnames : Assoc.keys (done ++ p :: members) |>.Nodup) : done.put p.1 p.2 = done ++ [p] := by
    refine Assoc.put_of_not_mem p.2 fun hk => ?_
    rw [Assoc.keys, List.map_append, List.nodup_append] at hnames
    exact hnames.2.2 p.1 hk p.1 (by simp) rfl
  induction members generalizing p done fuel with
  | nil =>
      obtain _ | fuel := fuel
      · cases hfuel
      · simp only [indentedMembers, List.length_append, List.length_cons] at hfuel
        simp only [indentedMembers, List.append_assoc, List.cons_append]
        rw [readMembers_member (htextual p (by simp)) (hread p (by simp)) (by omega),
          skipWhite_newLine, skipWhite_cons rfl, hput p done [] hnames]
        rfl
  | cons q members ih =>
      obtain _ | fuel := fuel
      · cases hfuel
      · simp only [indentedMembers, List.length_append, List.length_cons] at hfuel
        have hlater := ih fuel (List.forall_mem_cons.1 htextual).2 (List.forall_mem_cons.1 hread).2
          (done ++ [p]) (by simpa using hnames) (by omega)
        simp only [indentedMembers, List.append_assoc, List.cons_append]
        rw [readMembers_member (htextual p (by simp)) (hread p (by simp)) (by omega),
          skipWhite_cons rfl]
        simp only
        rw [skipWhite_indentedMembers, hput p done _ hnames, hlater]
        simp

theorem readsBack_obj {members : Assoc String Json} (hnames : members.keys.Nodup)
    (htextual : ∀ p ∈ members, IsTextual p.2) (hread : ∀ p ∈ members, ReadsBack p.2) :
    ReadsBack (.obj members) := by
  intro level fuel rest hfuel
  obtain _ | fuel := fuel
  · cases members <;> simp [indentedChars] at hfuel
  · cases members with
    | nil =>
        simp only [indentedChars, List.cons_append, List.nil_append, readValue]
        rw [skipWhite_cons rfl]
        rfl
    | cons p members =>
        simp only [indentedChars, List.length_append, List.length_cons] at hfuel
        have hmembers := readMembers_indentedMembers (level + 1) level fuel htextual hread [] hnames
          rest (by omega)
        obtain ⟨tail, htail⟩ := indentedMembers_eq p members (level + 1)
        simp only [indentedChars, List.append_assoc, List.cons_append, List.nil_append]
        rw [readValue, skipWhite_indentedMembers]
        rw [htail, List.cons_append] at hmembers ⊢
        exact hmembers

end

/-! ### Whole texts -/

theorem IsTextual.readsBack {v : Json} (hv : IsTextual v) : ReadsBack v := by
  induction hv with
  | str s => exact readsBack_str s
  | arr helements ih => exact readsBack_arr helements ih
  | obj hnames hmembers ih => exact readsBack_obj hnames hmembers ih

/-- What was printed over several lines is read back, whatever blanks stand behind it. -/
theorem IsTextual.parse_indented {v : Json} (hv : IsTextual v) {blanks : List Char}
    (hblanks : ∀ c ∈ blanks, isWhite c = true) :
    parse (v.indented.toList ++ blanks) = .ok v := by
  obtain ⟨mark, tail, htail, hmark⟩ := hv.indentedChars_eq 0
  have hread :=
    hv.readsBack 0 (2 * (indentedChars 0 v ++ blanks).length + 2) blanks (by simp; omega)
  have hend : skipWhite blanks = [] := List.dropWhile_eq_nil_iff.2 hblanks
  have hbom : (mark :: tail ++ blanks).head? ≠ some '\ufeff' := by
    simpa using hmark.ne_of_not (by decide)
  rw [indented, String.toList_ofList, parse, readChars]
  rw [htail] at hread ⊢
  rw [if_neg hbom, List.cons_append, skipWhite_cons hmark.isWhite_eq, ← List.cons_append, hread]
  simp only [hend]

/-! ### Characters of printed values -/

/-- Of the control characters only the line feed is printed. -/
def IsPrinted (c : Char) : Prop :=
  0x20 ≤ c.toNat ∨ c = '\n'

instance : DecidablePred IsPrinted :=
  fun c => inferInstanceAs (Decidable (0x20 ≤ c.toNat ∨ c = '\n'))

theorem isPrinted_escapeUnit {n : Nat} (hn : n < 0x20) : ∀ c ∈ escapeUnit n, IsPrinted c := by
  have hall : ∀ n < 0x20, (escapeUnit n).all fun c => decide (IsPrinted c) := by decide
  simpa using hall n hn

theorem isPrinted_of_simpleEscape? {e c : Char} (hescape : simpleEscape? e = some c) :
    IsPrinted e := by
  have he : e ∈ ['"', '\\', '/', 'b', 'f', 'n', 'r', 't'] := by
    by_contra hother
    simp only [List.mem_cons, List.not_mem_nil, or_false, not_or] at hother
    simp [simpleEscape?, hother] at hescape
  have hall : ['"', '\\', '/', 'b', 'f', 'n', 'r', 't'].all fun c => decide (IsPrinted c) := by
    decide
  exact of_decide_eq_true (List.all_eq_true.1 hall e he)

theorem isPrinted_encodeChar (c : Char) : ∀ d ∈ encodeChar false c, IsPrinted d := by
  intro d hd
  obtain ⟨e, hc, hescape⟩ | ⟨hc, hcontrol⟩ | ⟨hc, -, -, hvisible⟩ := encodeChar_cases c
  · rw [hc] at hd
    obtain rfl | rfl : d = '\\' ∨ d = e := by simpa using hd
    · decide
    · exact isPrinted_of_simpleEscape? hescape
  · exact isPrinted_escapeUnit hcontrol d (hc ▸ hd)
  · obtain rfl := List.mem_singleton.1 (hc ▸ hd)
    exact .inl hvisible

theorem isPrinted_encodeString (text : List Char) :
    ∀ c ∈ encodeString false text, IsPrinted c := by
  have htext : ∀ c ∈ text.flatMap (encodeChar false), IsPrinted c := by
    intro c hc
    obtain ⟨d, -, hd⟩ := List.mem_flatMap.1 hc
    exact isPrinted_encodeChar d c hd
  rw [encodeString]
  simp only [List.cons_append, List.forall_mem_cons, List.forall_mem_append]
  exact ⟨by decide, htext, by simp [IsPrinted]⟩

theorem isPrinted_newLine (level : Nat) : ∀ c ∈ newLine level, IsPrinted c := by
  rw [newLine, List.forall_mem_cons]
  refine ⟨by decide, fun c hc => ?_⟩
  rw [List.eq_of_mem_replicate hc]
  decide

theorem isPrinted_indentedElements {elements : List Json} {level : Nat}
    (hprinted : ∀ v ∈ elements, ∀ c ∈ indentedChars level v, IsPrinted c) :
    ∀ c ∈ indentedElements level elements, IsPrinted c := by
  induction elements with
  | nil => simp [indentedElements]
  | cons v elements ih =>
      obtain ⟨hv, hlater⟩ := List.forall_mem_cons.1 hprinted
      cases elements with
      | nil => simpa only [indentedElements] using hv
      | cons w elements =>
          simp only [indentedElements, List.forall_mem_append, List.forall_mem_cons]
          exact ⟨⟨hv, by decide, isPrinted_newLine level⟩, ih hlater⟩

theorem isPrinted_indentedMembers {members : List (String × Json)} {level : Nat}
    (hprinted : ∀ p ∈ members, ∀ c ∈ indentedChars level p.2, IsPrinted c) :
    ∀ c ∈ indentedMembers level members, IsPrinted c := by
  induction members with
  | nil => simp [indentedMembers]
  | cons p members ih =>
      obtain ⟨hp, hlater⟩ := List.forall_mem_cons.1 hprinted
      have hname := isPrinted_encodeString p.1.toList
      cases members with
      | nil =>
          simp only [indentedMembers, List.forall_mem_append, List.forall_mem_cons]
          exact ⟨hname, by decide, by decide, hp⟩
      | cons q members =>
          simp only [indentedMembers, List.forall_mem_append, List.forall_mem_cons]
          exact ⟨⟨⟨hname, by decide, by decide, hp⟩, by decide, isPrinted_newLine level⟩, ih hlater⟩

theorem IsTextual.isPrinted {v : Json} (hv : IsTextual v) (level : Nat) :
    ∀ c ∈ indentedChars level v, IsPrinted c := by
  induction hv generalizing level with
  | str s =>
      simp only [indentedChars]
      exact isPrinted_encodeString s.toList
  | @arr elements _ ih =>
      cases elements with
      | nil =>
          simp [indentedChars, IsPrinted]
      | cons v elements =>
          have helements := isPrinted_indentedElements fun w hw => ih w hw (level + 1)
          simp only [indentedChars, List.forall_mem_append, List.cons_append, List.forall_mem_cons]
          refine ⟨by decide, ⟨⟨isPrinted_newLine _, helements⟩, isPrinted_newLine _⟩, ?_⟩
          simp [IsPrinted]
  | @obj members _ _ ih =>
      cases members with
      | nil =>
          simp [indentedChars, IsPrinted]
      | cons p members =>
          have hmembers := isPrinted_indentedMembers fun q hq => ih q hq (level + 1)
          simp only [indentedChars, List.forall_mem_append, List.cons_append, List.forall_mem_cons]
          refine ⟨by decide, ⟨⟨isPrinted_newLine _, hmembers⟩, isPrinted_newLine _⟩, ?_⟩
          simp [IsPrinted]

end LinkIndex.Json
