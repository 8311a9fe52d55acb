import LinkIndex.Markdown.Reference
import LinkIndex.Proofs.Html.References
import LinkIndex.Proofs.Markdown.Refusal

/-!
What destinations and titles stand for. Read once from left to right, a backslash in front of
punctuation takes its meaning away, and an ampersand without one begins a reference where a
name or a number and a semicolon follow. The text of a destination is made in two passes
instead, one that drops the backslashes and one that decodes by the rules of HTML. The two
texts are the same just where at each ampersand both decode the same.
-/

namespace LinkIndex.Markdown

/-! ### Reading from left to right -/

/-- The character of a number. Zero, and what is no character, is replaced. -/
def pointOf (n : Nat) : Char :=
  if n = 0 ∨ (0xD800 ≤ n ∧ n ≤ 0xDFFF) ∨ 0x10FFFF < n then '\ufffd' else Char.ofNat n

/-- Whether a text has characters of one kind only, at least one and `most` of them at most. -/
def isRun (p : Char → Bool) (most : Nat) (cs : List Char) : Bool :=
  cs ≠ [] && cs.length ≤ most && cs.all p

/-- What the text between an ampersand and a semicolon stands for: a hexadecimal number of six
digits at most, a decimal one of seven at most, or a name. -/
def closedImage? : List Char → Option (List Char)
  | '#' :: x :: digits =>
    if x = 'x' ∨ x = 'X' then
      if isRun Char.isHexDigit 6 digits then some [pointOf (Html.hexNumber digits)] else none
    else if isRun Char.isDigit 7 (x :: digits) then
      some [pointOf (Json.digitsValue (x :: digits))]
    else none
  | name => if isRun Char.isAlphanum 31 name then Html.entity? (name ++ [';']) else none

/-- The reference behind an ampersand, up to the next semicolon: its image, and how many
characters it takes. -/
def closedReference? (cs : List Char) : Option (List Char × Nat) :=
  let body := cs.takeWhile (· ≠ ';')
  if body.length < cs.length then (closedImage? body).map (·, body.length + 1) else none

/-- A text read once from left to right: escaped punctuation stands for itself, a reference for
its image, and all else is kept. -/
def unescaped : List Char → List Char
  | [] => []
  | '\\' :: c :: rest =>
    if isAsciiPunctuation c then c :: unescaped rest else '\\' :: unescaped (c :: rest)
  | '&' :: rest =>
    match closedReference? rest with
    | some (image, length) => image ++ unescaped (rest.drop length)
    | none => '&' :: unescaped rest
  | c :: rest => c :: unescaped rest
  termination_by cs => cs.length

/-- An ampersand of a text: whether a backslash takes its meaning away, and what follows it. -/
structure Ampersand where
  escaped : Bool
  behind : List Char

/-- The reference that an ampersand begins. -/
def Ampersand.closed? (a : Ampersand) : Option (List Char × Nat) :=
  if a.escaped then none else closedReference? a.behind

def Ampersand.text (a : Ampersand) : List Char :=
  match a.closed? with
  | some (image, length) => image ++ unescaped (a.behind.drop length)
  | none => '&' :: unescaped a.behind

/-- Whether what is decoded from an ampersand on is the reference that it begins. -/
def Ampersand.Agrees (a : Ampersand) : Prop :=
  Html.decoded? (dropEscapes a.behind) = a.closed?

/-- The ampersands of a text, from left to right. -/
def ampersands : List Char → List Ampersand
  | [] => []
  | '\\' :: c :: rest =>
    if isAsciiPunctuation c then
      (if c = '&' then [⟨true, rest⟩] else []) ++ ampersands rest
    else ampersands (c :: rest)
  | '&' :: rest => ⟨false, rest⟩ :: ampersands rest
  | _ :: rest => ampersands rest
  termination_by cs => cs.length

/-- A character that is read by itself: no backslash in front of punctuation. -/
def IsPlain (c : Char) (rest : List Char) : Prop :=
  ∀ d rest', c = '\\' → rest = d :: rest' → isAsciiPunctuation d = false

variable {c : Char} {rest raw cs image : List Char} {length : Nat}

theorem dropEscapes_escape (hc : isAsciiPunctuation c = true) :
    dropEscapes ('\\' :: c :: rest) = c :: dropEscapes rest := by
  rw [dropEscapes, if_pos hc]

theorem dropEscapes_plain (h : IsPlain c rest) :
    dropEscapes (c :: rest) = c :: dropEscapes rest := by
  by_cases hc : c = '\\'
  · subst hc
    cases rest with
    | nil => simp [dropEscapes]
    | cons d rest =>
        rw [dropEscapes, if_neg (by simp [h d rest rfl rfl])]
  · rw [dropEscapes]
    intro d rest' hc'
    exact absurd hc' hc

theorem unescaped_escape (hc : isAsciiPunctuation c = true) :
    unescaped ('\\' :: c :: rest) = c :: unescaped rest := by
  rw [unescaped, if_pos hc]

theorem unescaped_plain (h : IsPlain c rest) (hc : c ≠ '&') :
    unescaped (c :: rest) = c :: unescaped rest := by
  by_cases hback : c = '\\'
  · subst hback
    cases rest with
    | nil => simp [unescaped]
    | cons d rest =>
        rw [unescaped, if_neg (by simp [h d rest rfl rfl])]
  · rw [unescaped]
    · intro d rest' hc'
      exact absurd hc' hback
    · exact hc

theorem unescaped_escape_ampersand (rest : List Char) :
    unescaped ('\\' :: '&' :: rest) = Ampersand.text ⟨true, rest⟩ :=
  unescaped_escape rfl

theorem unescaped_ampersand (rest : List Char) :
    unescaped ('&' :: rest) = Ampersand.text ⟨false, rest⟩ := by
  rw [unescaped]
  rfl

theorem ampersands_escape (hc : isAsciiPunctuation c = true) :
    ampersands ('\\' :: c :: rest) =
      if c = '&' then ⟨true, rest⟩ :: ampersands rest else ampersands rest := by
  rw [ampersands, if_pos hc]
  split <;> rfl

theorem ampersands_plain (h : IsPlain c rest) :
    ampersands (c :: rest) =
      if c = '&' then ⟨false, rest⟩ :: ampersands rest else ampersands rest := by
  by_cases hback : c = '\\'
  · subst hback
    cases rest with
    | nil => simp [ampersands]
    | cons d rest =>
        rw [ampersands, if_neg (by simp [h d rest rfl rfl]), if_neg (by decide)]
  split
  · rename_i hand
    rw [hand, ampersands]
  · rename_i hand
    rw [ampersands]
    · intro d rest' hc'
      exact absurd hc' hback
    · exact hand

/-- A text begins with an escaped character, or with one that is read by itself. -/
theorem eq_nil_or_escape_or_plain (raw : List Char) :
    raw = [] ∨ (∃ c rest, raw = '\\' :: c :: rest ∧ isAsciiPunctuation c = true) ∨
      ∃ c rest, raw = c :: rest ∧ IsPlain c rest := by
  rcases raw with _ | ⟨c, rest⟩
  · exact .inl rfl
  by_cases h : IsPlain c rest
  · exact .inr (.inr ⟨c, rest, rfl, h⟩)
  · simp only [IsPlain, not_forall, Bool.not_eq_false] at h
    obtain ⟨d, rest', rfl, rfl, hd⟩ := h
    exact .inr (.inl ⟨d, rest', rfl, hd⟩)

/-! ### Passing over characters -/

/-- A text is read character by character up to its rest, with no ampersand in what is read. -/
structure IsPassed (front raw rest : List Char) : Prop where
  le : rest.length ≤ raw.length
  dropEscapes_eq : dropEscapes raw = front ++ dropEscapes rest
  unescaped_eq : unescaped raw = front ++ unescaped rest
  ampersands_eq : ampersands raw = ampersands rest

variable {front : List Char}

theorem IsPassed.refl (raw : List Char) : IsPassed [] raw raw := ⟨Nat.le_refl _, rfl, rfl, rfl⟩

theorem IsPassed.escape (h : IsPassed front raw rest) (hc : isAsciiPunctuation c = true)
    (hne : c ≠ '&') : IsPassed (c :: front) ('\\' :: c :: raw) rest where
  le := Nat.le_succ_of_le (Nat.le_succ_of_le h.le)
  dropEscapes_eq := by rw [dropEscapes_escape hc, h.dropEscapes_eq, List.cons_append]
  unescaped_eq := by rw [unescaped_escape hc, h.unescaped_eq, List.cons_append]
  ampersands_eq := by rw [ampersands_escape hc, if_neg hne, h.ampersands_eq]

theorem IsPassed.plain (h : IsPassed front raw rest) (hc : IsPlain c raw) (hne : c ≠ '&') :
    IsPassed (c :: front) (c :: raw) rest where
  le := Nat.le_succ_of_le h.le
  dropEscapes_eq := by rw [dropEscapes_plain hc, h.dropEscapes_eq, List.cons_append]
  unescaped_eq := by rw [unescaped_plain hc hne, h.unescaped_eq, List.cons_append]
  ampersands_eq := by rw [ampersands_plain hc, if_neg hne, h.ampersands_eq]

/-- Up to the next ampersand a text is passed, as far as one wants. -/
theorem exists_isPassed {k : Nat} (hk : k ≤ (dropEscapes raw).length)
    (hplain : '&' ∉ (dropEscapes raw).take k) :
    ∃ rest, IsPassed ((dropEscapes raw).take k) raw rest := by
  induction k generalizing raw with
  | zero => exact ⟨raw, .refl raw⟩
  | succ k ih =>
      rcases eq_nil_or_escape_or_plain raw with
        rfl | ⟨c, rest, rfl, hc⟩ | ⟨c, rest, rfl, hc⟩
      · simp [dropEscapes] at hk
      · rw [dropEscapes_escape hc, List.take_succ_cons, List.mem_cons, not_or] at hplain
        rw [dropEscapes_escape hc, List.length_cons] at hk
        obtain ⟨last, hlast⟩ := ih (Nat.le_of_succ_le_succ hk) hplain.2
        rw [dropEscapes_escape hc, List.take_succ_cons]
        exact ⟨last, hlast.escape hc (Ne.symm hplain.1)⟩
      · rw [dropEscapes_plain hc, List.take_succ_cons, List.mem_cons, not_or] at hplain
        rw [dropEscapes_plain hc, List.length_cons] at hk
        obtain ⟨last, hlast⟩ := ih (Nat.le_of_succ_le_succ hk) hplain.2
        rw [dropEscapes_plain hc, List.take_succ_cons]
        exact ⟨last, hlast.plain hc (Ne.symm hplain.1)⟩

/-- Characters without a backslash and an ampersand among them are passed as they are. -/
theorem isPassed_append (hback : '\\' ∉ front) (hand : '&' ∉ front) (rest : List Char) :
    IsPassed front (front ++ rest) rest := by
  induction front with
  | nil => exact .refl rest
  | cons c front ih =>
      rw [List.mem_cons, not_or] at hback hand
      exact (ih hback.2 hand.2).plain (fun _ _ hc => absurd hc.symm hback.1) (Ne.symm hand.1)

/-! ### References up to a semicolon -/

theorem isRun_iff {p : Char → Bool} {most : Nat} :
    isRun p most cs = true ↔ cs ≠ [] ∧ cs.length ≤ most ∧ ∀ c ∈ cs, p c = true := by
  simp [isRun, and_assoc]

theorem not_mem_of_isRun {p : Char → Bool} {most : Nat} (h : isRun p most cs = true)
    (hc : p c = false) : c ∉ cs := by
  intro hmem
  rw [(isRun_iff.1 h).2.2 c hmem] at hc
  cases hc

theorem exists_of_closedReference? (h : closedReference? cs = some (image, length)) :
    ∃ body after, cs = body ++ ';' :: after ∧ closedImage? body = some image ∧
      length = body.length + 1 := by
  have hsplit := List.takeWhile_append_dropWhile (p := (· ≠ ';')) (l := cs)
  simp only [closedReference?] at h
  split at h
  · rename_i hshort
    obtain ⟨image', himage, heq⟩ := Option.map_eq_some_iff.1 h
    simp only [Prod.mk.injEq] at heq
    obtain ⟨rfl, rfl⟩ := heq
    cases hrest : cs.dropWhile (· ≠ ';') with
    | nil =>
        rw [hrest, List.append_nil] at hsplit
        rw [hsplit] at hshort
        exact absurd hshort (Nat.lt_irrefl _)
    | cons c after =>
        have hc := List.head?_dropWhile_not (· ≠ ';') cs
        rw [hrest] at hc hsplit
        obtain rfl : c = ';' := by simpa using hc
        exact ⟨_, after, hsplit.symm, himage, rfl⟩
  · contradiction

variable {body : List Char}

/-- The three kinds of references that end in a semicolon. -/
theorem closedImage?_cases (h : closedImage? body = some image) :
    (∃ digits, body = '#' :: digits ∧ isRun Char.isDigit 7 digits = true ∧
      image = [pointOf (Json.digitsValue digits)]) ∨
    (∃ x digits, body = '#' :: x :: digits ∧ (x = 'x' ∨ x = 'X') ∧
      isRun Char.isHexDigit 6 digits = true ∧ image = [pointOf (Html.hexNumber digits)]) ∨
    isRun Char.isAlphanum 31 body = true ∧ Html.entity? (body ++ [';']) = some image := by
  unfold closedImage? at h
  split at h
  · rename_i x digits
    split at h
    · rename_i hx
      split at h
      · rename_i hrun
        exact .inr (.inl ⟨x, digits, rfl, hx, hrun, (Option.some.inj h).symm⟩)
      · contradiction
    split at h
    · rename_i hrun
      exact .inl ⟨_, rfl, hrun, (Option.some.inj h).symm⟩
    · contradiction
  · split at h
    · rename_i hrun
      exact .inr (.inr ⟨hrun, h⟩)
    · contradiction

/-- No backslash and no ampersand is in a reference. -/
theorem not_mem_of_closedImage? (h : closedImage? body = some image) :
    '\\' ∉ body ∧ '&' ∉ body := by
  rcases closedImage?_cases h with
    ⟨digits, rfl, hrun, -⟩ | ⟨x, digits, rfl, hx, hrun, -⟩ | ⟨hrun, -⟩
  · simp [not_mem_of_isRun hrun (c := '\\') rfl, not_mem_of_isRun hrun (c := '&') rfl]
  · rcases hx with rfl | rfl <;>
      simp [not_mem_of_isRun hrun (c := '\\') rfl, not_mem_of_isRun hrun (c := '&') rfl]
  · exact ⟨not_mem_of_isRun hrun rfl, not_mem_of_isRun hrun rfl⟩

theorem not_endsName_of_isAlphanum (hc : c.isAlphanum = true) : Html.endsName c = false := by
  rw [← Bool.not_eq_true]
  intro hends
  simp only [Html.endsName, Bool.or_eq_true, decide_eq_true_eq, or_assoc] at hends
  rcases hends with rfl | rfl | rfl | rfl | rfl | rfl | rfl | rfl <;> contradiction

/-- What ends in a semicolon is read by HTML too, and to the same length; of a number it may make
something else. -/
theorem reference?_of_closedImage? (h : closedImage? body = some image) (after : List Char) :
    ∃ image', Html.reference? (body ++ ';' :: after) = some (image', body.length + 1) ∧
      image'.length ≤ image.length ∧ image'.length ≤ body.length + 1 := by
  rcases closedImage?_cases h with
    ⟨digits, rfl, hrun, rfl⟩ | ⟨x, digits, rfl, hx, hrun, rfl⟩ | ⟨hrun, hentity⟩
  · obtain ⟨hne, -, hdigits⟩ := isRun_iff.1 hrun
    have himage := Html.length_numberImage (Json.digitsValue digits)
    exact ⟨_, Html.reference?_decimal hdigits hne, himage, himage.trans (by simp)⟩
  · obtain ⟨hne, -, hdigits⟩ := isRun_iff.1 hrun
    have himage := Html.length_numberImage (Html.hexNumber digits)
    exact ⟨_, Html.reference?_hexadecimal hx hdigits hne, himage, himage.trans (by simp)⟩
  · obtain ⟨hne, hlength, hname⟩ := isRun_iff.1 hrun
    have hshort := Html.length_le_of_entity? hentity
    have hpos := List.length_pos_iff.2 hne
    have hends : ∀ c ∈ body, Html.endsName c = false :=
      fun c hc => not_endsName_of_isAlphanum (hname c hc)
    exact ⟨image, Html.reference?_name hends (not_mem_of_isRun hrun rfl) (by omega) hne hentity,
      Nat.le_refl _, by omega⟩

/-! ### The two readings -/

/-- A text that is never longer than another, and that is the other where something holds. -/
structure IsWithin (text other : List Char) (same : Prop) : Prop where
  le : text.length ≤ other.length
  eq_iff : text = other ↔ same

theorem IsWithin.refl (text : List Char) : IsWithin text text True := ⟨Nat.le_refl _, by simp⟩

theorem IsWithin.append {front front' text text' : List Char} {same same' : Prop}
    (hfront : IsWithin front front' same) (htext : IsWithin text text' same') :
    IsWithin (front ++ text) (front' ++ text') (same ∧ same') where
  le := by simpa using Nat.add_le_add hfront.le htext.le
  eq_iff := by
    rw [← hfront.eq_iff, ← htext.eq_iff]
    constructor
    · intro h
      have hlength := congrArg List.length h
      rw [List.length_append, List.length_append] at hlength
      have hle := hfront.le
      have hle' := htext.le
      exact List.append_inj h (by omega)
    · rintro ⟨rfl, rfl⟩
      rfl

def IsRead (raw : List Char) : Prop :=
  IsWithin (Html.unescape (dropEscapes raw)) (unescaped raw) (∀ a ∈ ampersands raw, a.Agrees)

theorem IsPassed.isRead (h : IsPassed front raw rest) (hand : '&' ∉ front) (hrest : IsRead rest) :
    IsRead raw := by
  rw [IsRead, h.dropEscapes_eq, h.unescaped_eq, h.ampersands_eq, Html.unescape_append hand]
  simpa using (IsWithin.refl front).append hrest

/-- From a reference up to a semicolon on, both readings go on behind that. -/
theorem isWithin_of_closedReference? (hclosed : closedReference? raw = some (image, length))
    (hread : ∀ rest : List Char, rest.length ≤ raw.length → IsRead rest) :
    IsWithin (Html.unescape ('&' :: dropEscapes raw)) (image ++ unescaped (raw.drop length))
      (Html.decoded? (dropEscapes raw) = some (image, length) ∧
        ∀ a ∈ ampersands raw, a.Agrees) := by
  obtain ⟨body, after, rfl, himage, rfl⟩ := exists_of_closedReference? hclosed
  obtain ⟨hback, hand⟩ := not_mem_of_closedImage? himage
  have hback' : '\\' ∉ body ++ [';'] := by simp [hback]
  have hand' : '&' ∉ body ++ [';'] := by simp [hand]
  have hpassed : IsPassed (body ++ [';']) (body ++ ';' :: after) after := by
    simpa using isPassed_append hback' hand' after
  have hdrop : (body ++ ';' :: after).drop (body.length + 1) = after := by
    rw [List.drop_length_add_append, List.drop_succ_cons, List.drop_zero]
  obtain ⟨image', hreference, hle, hshort⟩ :=
    reference?_of_closedImage? himage (dropEscapes after)
  have hdecoded := Html.decoded?_eq_some hreference hshort
  have himages : IsWithin image' image
      (some (image', body.length + 1) = some (image, body.length + 1)) := ⟨hle, by simp⟩
  rw [hpassed.dropEscapes_eq, hpassed.ampersands_eq, hdrop, List.append_assoc,
    List.singleton_append, Html.unescape_ampersand, hreference, hdecoded]
  simp only [List.drop_length_add_append, List.drop_succ_cons, List.drop_zero]
  exact himages.append (hread after hpassed.le)

/-- Where no reference up to a semicolon is read, what HTML reads as one is passed. -/
theorem isWithin_of_none (hread : ∀ rest : List Char, rest.length ≤ raw.length → IsRead rest) :
    IsWithin (Html.unescape ('&' :: dropEscapes raw)) ('&' :: unescaped raw)
      (Html.decoded? (dropEscapes raw) = none ∧ ∀ a ∈ ampersands raw, a.Agrees) := by
  rw [Html.unescape_ampersand]
  cases hreference : Html.reference? (dropEscapes raw) with
  | none =>
      have hraw := (IsWithin.refl ['&']).append (hread raw (Nat.le_refl _))
      simpa [Html.decoded?_eq_none hreference] using hraw
  | some found =>
      obtain ⟨image, length⟩ := found
      -- what is taken holds no other ampersand, so one reading passes over it as it is
      have his := Html.isReference_of_reference? hreference
      obtain ⟨rest, hpassed⟩ := exists_isPassed his.le his.no_ampersand
      have hdrop : (dropEscapes raw).drop length = dropEscapes rest :=
        List.append_cancel_left ((List.take_append_drop length _).trans hpassed.dropEscapes_eq)
      have himage : IsWithin image ('&' :: (dropEscapes raw).take length)
          (Html.decoded? (dropEscapes raw) = none) := by
        refine ⟨?_, (Html.decoded?_eq_none_iff hreference).symm⟩
        rw [List.length_cons, List.length_take_of_le his.le]
        exact his.short
      rw [hpassed.unescaped_eq, hpassed.ampersands_eq, ← List.cons_append]
      simp only [hdrop]
      exact himage.append (hread rest hpassed.le)

/-- An ampersand is read, where the text behind it is. -/
theorem isWithin_text (a : Ampersand)
    (hread : ∀ rest : List Char, rest.length ≤ a.behind.length → IsRead rest) :
    IsWithin (Html.unescape ('&' :: dropEscapes a.behind)) a.text
      (a.Agrees ∧ ∀ b ∈ ampersands a.behind, b.Agrees) := by
  rw [Ampersand.text, Ampersand.Agrees]
  cases hclosed : a.closed? with
  | none => exact isWithin_of_none hread
  | some found =>
      rw [Ampersand.closed?] at hclosed
      split at hclosed
      · contradiction
      · exact isWithin_of_closedReference? hclosed hread

/-- The decoded text is never longer than the one that is read from left to right, and is that
one where they agree at each ampersand. -/
theorem isRead (raw : List Char) : IsRead raw := by
  induction hlength : raw.length using Nat.strong_induction_on generalizing raw with
  | _ n ih =>
    subst hlength
    -- a reference may take any part of what follows, so the rest is read wherever it begins
    have hread : ∀ rest : List Char, rest.length + 1 ≤ raw.length → IsRead rest :=
      fun rest hlt => ih rest.length hlt rest rfl
    rcases eq_nil_or_escape_or_plain raw with rfl | ⟨c, rest, rfl, hc⟩ | ⟨c, rest, rfl, hc⟩
    · rw [IsRead, dropEscapes, unescaped, ampersands]
      simpa [Html.unescape, Html.unescapeFrom] using IsWithin.refl []
    · have hrest : ∀ rest' : List Char, rest'.length ≤ rest.length → IsRead rest' :=
        fun rest' hle => hread rest' (Nat.succ_le_succ (Nat.le_succ_of_le hle))
      by_cases hand : c = '&'
      · subst hand
        rw [IsRead, dropEscapes_escape hc, unescaped_escape_ampersand, ampersands_escape hc,
          if_pos rfl, List.forall_mem_cons]
        exact isWithin_text ⟨true, rest⟩ hrest
      · have hpassed := (IsPassed.refl rest).escape hc hand
        exact hpassed.isRead (by simpa using Ne.symm hand) (hrest rest (Nat.le_refl _))
    · have hrest : ∀ rest' : List Char, rest'.length ≤ rest.length → IsRead rest' :=
        fun rest' hle => hread rest' (Nat.succ_le_succ hle)
      by_cases hand : c = '&'
      · subst hand
        rw [IsRead, dropEscapes_plain hc, unescaped_ampersand, ampersands_plain hc, if_pos rfl,
          List.forall_mem_cons]
        exact isWithin_text ⟨false, rest⟩ hrest
      · have hpassed := (IsPassed.refl rest).plain hc hand
        exact hpassed.isRead (by simpa using Ne.symm hand) (hrest rest (Nat.le_refl _))

/-! ### Texts without backslashes -/

theorem isPlain_of_not_mem (hback : '\\' ∉ c :: rest) : IsPlain c rest :=
  fun _ _ hc => absurd (List.mem_cons.2 (.inl hc.symm)) hback

theorem dropEscapes_of_not_mem (hback : '\\' ∉ raw) : dropEscapes raw = raw := by
  induction raw with
  | nil => rw [dropEscapes]
  | cons c rest ih =>
      rw [dropEscapes_plain (isPlain_of_not_mem hback), ih (List.not_mem_of_not_mem_cons hback)]

/-- Without backslashes, an ampersand is one that begins a reference if one follows. -/
theorem mem_ampersands_iff (hback : '\\' ∉ raw) {a : Ampersand} :
    a ∈ ampersands raw ↔ a.escaped = false ∧ ∃ front, raw = front ++ '&' :: a.behind := by
  induction raw with
  | nil => simp [ampersands]
  | cons c rest ih =>
      have hsplit : (∃ front, c :: rest = front ++ '&' :: a.behind) ↔
          (c = '&' ∧ rest = a.behind) ∨ ∃ front, rest = front ++ '&' :: a.behind := by
        constructor
        · rintro ⟨_ | ⟨_, front⟩, hfront⟩
          · exact .inl (List.cons.inj hfront)
          · exact .inr ⟨front, (List.cons.inj hfront).2⟩
        · rintro (⟨rfl, rfl⟩ | ⟨front, rfl⟩)
          · exact ⟨[], rfl⟩
          · exact ⟨c :: front, rfl⟩
      have hrest := ih (List.not_mem_of_not_mem_cons hback)
      rw [ampersands_plain (isPlain_of_not_mem hback), hsplit, and_or_left, ← hrest]
      split
      · rename_i hand
        rw [List.mem_cons]
        refine or_congr_left ⟨?_, ?_⟩
        · rintro rfl
          exact ⟨rfl, hand, rfl⟩
        · rintro ⟨hescaped, -, rfl⟩
          rw [← hescaped]
      · rename_i hand
        simp [hand]

/-- Without backslashes and references up to a semicolon, a text is read as it is. -/
theorem unescaped_of_none (hback : '\\' ∉ raw)
    (hclosed : ∀ front rest, raw = front ++ '&' :: rest → closedReference? rest = none) :
    unescaped raw = raw := by
  induction raw with
  | nil => rw [unescaped]
  | cons c rest ih =>
      have hrest := ih (List.not_mem_of_not_mem_cons hback) fun front rest' hsplit =>
        hclosed (c :: front) rest' (by rw [hsplit, List.cons_append])
      by_cases hand : c = '&'
      · subst hand
        rw [unescaped_ampersand, Ampersand.text, Ampersand.closed?, if_neg (by simp),
          hclosed [] rest rfl]
        simp only [hrest]
      · rw [unescaped_plain (isPlain_of_not_mem hback) hand, hrest]

/-! ### Numbers that are too long -/

/-- What is read up to a semicolon is short. -/
theorem length_le_of_closedReference? (h : closedReference? cs = some (image, length)) :
    length ≤ 32 := by
  obtain ⟨body, after, -, himage, rfl⟩ := exists_of_closedReference? h
  rcases closedImage?_cases himage with
    ⟨digits, rfl, hrun, -⟩ | ⟨x, digits, rfl, -, hrun, -⟩ | ⟨hrun, -⟩
  · have hlength := (isRun_iff.1 hrun).2.1
    rw [List.length_cons]
    omega
  · have hlength := (isRun_iff.1 hrun).2.1
    rw [List.length_cons, List.length_cons]
    omega
  · exact Nat.succ_le_succ (isRun_iff.1 hrun).2.1

/-- Every ampersand that is decoded is one of the text. -/
theorem exists_mem_ampersands {behind : List Char}
    (h : dropEscapes raw = front ++ '&' :: behind) :
    ∃ a ∈ ampersands raw, dropEscapes a.behind = behind := by
  induction hlength : raw.length using Nat.strong_induction_on generalizing raw front with
  | _ n ih =>
    subst hlength
    -- the first character that is kept is the ampersand, or it stands in front of it
    have hstep (c : Char) (rest : List Char) (hlt : rest.length < raw.length)
        (hkeep : c :: dropEscapes rest = front ++ '&' :: behind) :
        (c = '&' ∧ dropEscapes rest = behind) ∨
          ∃ a ∈ ampersands rest, dropEscapes a.behind = behind := by
      rcases front with _ | ⟨d, front⟩
      · exact .inl (List.cons.inj hkeep)
      · exact .inr (ih _ hlt (List.cons.inj hkeep).2 rfl)
    rcases eq_nil_or_escape_or_plain raw with rfl | ⟨c, rest, rfl, hc⟩ | ⟨c, rest, rfl, hc⟩
    · simp [dropEscapes] at h
    · rw [dropEscapes_escape hc] at h
      rw [ampersands_escape hc]
      have hlt : rest.length < ('\\' :: c :: rest).length := by
        rw [List.length_cons, List.length_cons]
        omega
      rcases hstep c rest hlt h with ⟨rfl, hbehind⟩ | ⟨a, ha, hbehind⟩
      · exact ⟨_, List.mem_cons_self, hbehind⟩
      · exact ⟨a, by split <;> simp [ha], hbehind⟩
    · rw [dropEscapes_plain hc] at h
      rw [ampersands_plain hc]
      rcases hstep c rest (by simp) h with ⟨rfl, hbehind⟩ | ⟨a, ha, hbehind⟩
      · exact ⟨_, List.mem_cons_self, hbehind⟩
      · exact ⟨a, by split <;> simp [ha], hbehind⟩

/-- A number that is too long for HTML is none where it is read from left to right. -/
theorem exists_not_agrees (hlong : Html.HasOverlong (dropEscapes raw)) :
    ∃ a ∈ ampersands raw, ¬a.Agrees := by
  obtain ⟨front, rest, hsplit, hdigits⟩ := hlong
  obtain ⟨a, ha, hbehind⟩ := exists_mem_ampersands hsplit
  have hne : rest.takeWhile Char.isDigit ≠ [] := List.length_pos_iff.1 (by omega)
  obtain ⟨image, length, hdecoded, hlength⟩ := Html.exists_decoded?_of_digits hne
  refine ⟨a, ha, fun hagrees => ?_⟩
  rw [Ampersand.Agrees, hbehind, hdecoded, Ampersand.closed?] at hagrees
  split at hagrees
  · contradiction
  · have hshort := length_le_of_closedReference? hagrees.symm
    have hmost : Json.maxDigits = 4300 := rfl
    omega

theorem plainText_of_not_hasOverlong (h : ¬Html.HasOverlong (dropEscapes raw)) :
    plainText raw = .ok (String.ofList (Html.unescape (dropEscapes raw))) := by
  rw [plainText, Html.decode, (Html.overlong?_eq_none_iff _).2 h]
  rfl

/-- The text of a destination is the one that is read from left to right just if at each
ampersand HTML decodes what is read as a reference there, and nothing else. Where nothing is to be
read but the characters, it keeps them just if HTML decodes nothing. -/
theorem plainText_unescaped_iff (raw : List Char) :
    (plainText raw = .ok (String.ofList (unescaped raw)) ↔
      ∀ a ∈ ampersands raw, Html.decoded? (dropEscapes a.behind) = a.closed?) ∧
    ('\\' ∉ raw →
      (∀ front rest, raw = front ++ '&' :: rest → closedReference? rest = none) →
      unescaped raw = raw ∧ (plainText raw = .ok (String.ofList raw) ↔
        ∀ front rest, raw = front ++ '&' :: rest → Html.decoded? rest = none)) := by
  have hiff : plainText raw = .ok (String.ofList (unescaped raw)) ↔
      ∀ a ∈ ampersands raw, a.Agrees := by
    by_cases hlong : Html.HasOverlong (dropEscapes raw)
    · refine iff_of_false (fun h => ?_) fun h => ?_
      · exact (exists_plainText_iff raw).1 ⟨_, h⟩ hlong
      · obtain ⟨a, ha, hdiffers⟩ := exists_not_agrees hlong
        exact hdiffers (h a ha)
    · rw [plainText_of_not_hasOverlong hlong, Except.ok.injEq, String.ofList_inj]
      exact (isRead raw).eq_iff
  refine ⟨hiff, fun hback hclosed => ?_⟩
  have hraw := unescaped_of_none hback hclosed
  rw [hraw] at hiff
  refine ⟨hraw, hiff.trans ⟨fun h front rest hsplit => ?_, fun h a ha => ?_⟩⟩
  · have hrest : '\\' ∉ rest := fun hmem => hback (by simp [hsplit, hmem])
    have hagrees : Ampersand.Agrees ⟨false, rest⟩ :=
      h _ ((mem_ampersands_iff hback).2 ⟨rfl, front, hsplit⟩)
    simpa [Ampersand.Agrees, dropEscapes_of_not_mem hrest, Ampersand.closed?,
      hclosed front rest hsplit] using hagrees
  · obtain ⟨hescaped, front, hsplit⟩ := (mem_ampersands_iff hback).1 ha
    have hrest : '\\' ∉ a.behind := fun hmem => hback (by simp [hsplit, hmem])
    rw [Ampersand.Agrees, dropEscapes_of_not_mem hrest, h front _ hsplit, Ampersand.closed?,
      hclosed front _ hsplit, ite_self]

/-- A parameter whose name is no reference keeps its ampersand. -/
theorem plainText_unescaped_iff_parameter :
    '\\' ∉ "/u?a=1&b=2".toList ∧
    (∀ front rest, "/u?a=1&b=2".toList = front ++ '&' :: rest → closedReference? rest = none) ∧
    plainText "/u?a=1&b=2".toList = .ok "/u?a=1&b=2" := by
  have hback : '\\' ∉ "/u?a=1&b=2".toList := by decide
  have hbehind : ∀ front rest, "/u?a=1&b=2".toList = front ++ '&' :: rest →
      rest = "b=2".toList := by
    intro front rest hsplit
    have hmem := (mem_ampersands_iff hback (a := ⟨false, rest⟩)).2 ⟨rfl, front, hsplit⟩
    simpa [ampersands] using hmem
  have hclosed : ∀ front rest, "/u?a=1&b=2".toList = front ++ '&' :: rest →
      closedReference? rest = none := by
    intro front rest hsplit
    rw [hbehind front rest hsplit]
    rfl
  refine ⟨hback, hclosed, ?_⟩
  refine (((plainText_unescaped_iff _).2 hback hclosed).2.2 fun front rest hsplit => ?_).trans ?_
  · rw [hbehind front rest hsplit]
    decide +kernel
  · rfl

/-- A parameter that is called like a reference loses its name, without a semicolon behind it, and
a reference is read behind a backslash that takes its meaning away. -/
theorem plainText_ne_unescaped :
    (plainText "/u?a=1&copy=2".toList = .ok "/u?a=1©=2" ∧
      unescaped "/u?a=1&copy=2".toList = "/u?a=1&copy=2".toList) ∧
    plainText "\\&amp;".toList = .ok "&" ∧ unescaped "\\&amp;".toList = "&amp;".toList := by
  refine ⟨⟨?_, ?_⟩, ?_, ?_⟩
  · rw [plainText, dropEscapes_of_not_mem (by decide)]
    decide +kernel
  · have hclosed : closedReference? ['c', 'o', 'p', 'y', '=', '2'] = none := rfl
    simp [unescaped, hclosed]
  · have hdrop : dropEscapes "\\&amp;".toList = "&amp;".toList := by
      simp [dropEscapes, isAsciiPunctuation]
    rw [plainText, hdrop]
    decide +kernel
  · simp [unescaped, isAsciiPunctuation]

end LinkIndex.Markdown
