import LinkIndex.Proofs.Report.Emoji
import LinkIndex.Report.Markup
import Mathlib.Data.List.TakeWhile

/-!
Texts that markup leaves alone. A printable text is shown as it is just where it
holds no tag, no backslash in front of a bracket and no picture by its name. All
else makes it shorter, but for pictures, and those are not of ASCII.
-/

namespace LinkIndex.Report

/-- Characters that are printed with ASCII, the blank with them. -/
def IsPrintable (cs : List Char) : Prop :=
  ∀ c ∈ cs, 0x20 ≤ c.toNat ∧ c.toNat < 0x7F

instance (cs : List Char) : Decidable (IsPrintable cs) :=
  inferInstanceAs (Decidable (∀ c ∈ cs, _))

/-- What stands between the brackets of a tag: a character that begins tags, and then no
bracket. -/
def IsTagText (text : List Char) : Prop :=
  ∃ c inner, text = c :: inner ∧ startsTag c = true ∧ ∀ d ∈ inner, d ≠ ']' ∧ d ≠ '['

/-- A tag stands in a text, with or without backslashes in front of it. -/
def HasTag (cs : List Char) : Prop :=
  ∃ before text after, cs = before ++ '[' :: (text ++ ']' :: after) ∧ IsTagText text

/-- A text without anything that markup or pictures are written with. -/
structure IsPlain (cs : List Char) : Prop where
  untagged : ¬HasTag cs
  unescaped : ¬['\\', '['] <:+: cs
  unpictured : withEmoji cs = cs

variable {cs text after shown : List Char} {isOpen : List String}

/-! ### Tags -/

theorem tag?_eq_some_iff :
    tag? cs = some (text, after) ↔ cs = text ++ ']' :: after ∧ IsTagText text := by
  constructor
  · intro h
    cases cs with
    | nil => contradiction
    | cons c rest =>
        simp only [tag?] at h
        split at h
        · rename_i hstarts
          split at h
          · rename_i after' hdrop
            simp only [Option.some.injEq, Prod.mk.injEq] at h
            obtain ⟨rfl, rfl⟩ := h
            refine ⟨?_, c, _, rfl, hstarts, ?_⟩
            · rw [List.cons_append, ← hdrop, ← List.prefix_append_drop (List.takeWhile_prefix _)]
            · intro d hd
              simpa using List.mem_takeWhile_imp hd
          · contradiction
        · contradiction
  · rintro ⟨rfl, c, inner, rfl, hstarts, hinner⟩
    have htake : (inner ++ ']' :: after).takeWhile (fun d => d ≠ ']' && d ≠ '[') = inner := by
      rw [List.takeWhile_append_of_pos (by simpa using hinner)]
      simp
    simp only [List.cons_append, tag?, hstarts, if_true, htake, List.drop_left]

theorem escapedTag?_eq_some {backslashes : Nat}
    (h : escapedTag? cs = some (backslashes, text, after)) :
    cs = List.replicate backslashes '\\' ++ '[' :: (text ++ ']' :: after) ∧ IsTagText text := by
  simp only [escapedTag?] at h
  split at h
  · rename_i rest hdrop
    obtain ⟨⟨text', after'⟩, htag, heq⟩ := Option.map_eq_some_iff.1 h
    simp only [Prod.mk.injEq] at heq
    obtain ⟨rfl, rfl, rfl⟩ := heq
    obtain ⟨hrest, htext⟩ := tag?_eq_some_iff.1 htag
    refine ⟨?_, htext⟩
    have hfront : cs.takeWhile (· = '\\') =
        List.replicate (cs.takeWhile (· = '\\')).length '\\' := by
      refine List.eq_replicate_iff.2 ⟨rfl, fun d hd => ?_⟩
      simpa using List.mem_takeWhile_imp hd
    rw [← hrest, ← hdrop, ← hfront, ← List.prefix_append_drop (List.takeWhile_prefix _)]
  · contradiction

theorem hasTag_append (before : List Char) (h : HasTag cs) : HasTag (before ++ cs) := by
  obtain ⟨front, text, after, rfl, htext⟩ := h
  exact ⟨before ++ front, text, after, by rw [List.append_assoc], htext⟩

theorem escapedTag?_of_not_hasTag (h : ¬HasTag cs) : escapedTag? cs = none := by
  by_contra hsome
  obtain ⟨⟨backslashes, text, after⟩, htag⟩ := Option.ne_none_iff_exists'.1 hsome
  obtain ⟨rfl, htext⟩ := escapedTag?_eq_some htag
  exact h (hasTag_append _ ⟨[], text, after, rfl, htext⟩)

/-- A tag that does not begin a text stands behind its first character. -/
theorem hasTag_of_cons {c : Char} (hnone : escapedTag? (c :: cs) = none)
    (h : HasTag (c :: cs)) : HasTag cs := by
  obtain ⟨before, text, after, heq, htext⟩ := h
  cases before with
  | nil =>
      obtain ⟨rfl, rfl⟩ := List.cons_eq_cons.1 heq
      have htag : tag? (text ++ ']' :: after) = some (text, after) :=
        tag?_eq_some_iff.2 ⟨rfl, htext⟩
      simp [escapedTag?, htag] at hnone
  | cons d before =>
      obtain ⟨rfl, rfl⟩ := List.cons_eq_cons.1 heq
      exact ⟨before, text, after, rfl, htext⟩

/-! ### Tags that are read once more -/

/-- By what an open tag is looked up when it is drawn: its name, and what stands behind its equals
sign. -/
def drawnStyle (name : String) (parameter : Option (List Char)) : List Char :=
  name.toList ++ parameter.elim [] (' ' :: ·)

/-- Whether all of a piece is read with the markup. What stands behind the equals sign of a handler
is evaluated when it is closed, and the number of a colour there when it is drawn. -/
def Piece.isSettled : Piece → Bool
  | .text _ => true
  | .tag _ ('/' :: _) _ => true
  | .tag _ ('@' :: _) parameter => parameter.getD [] = []
  | .tag _ name parameter =>
    match normalName name with
    | .ok style => (normalName (drawnStyle style parameter)).isOk
    | .error _ => true

/-- No tag of a key is read once more behind its markup. -/
def IsSettled (key : String) : Prop :=
  ∀ piece ∈ pieces key.toList, piece.isSettled = true

instance (key : String) : Decidable (IsSettled key) :=
  inferInstanceAs (Decidable (∀ piece ∈ _, _))

/-! ### Pieces -/

theorem piecesFrom_of_not_hasTag (place : Nat) (h : ¬HasTag cs) :
    piecesFrom cs.length place cs = [.text cs] := by
  induction cs generalizing place with
  | nil => rfl
  | cons c rest ih =>
      rw [List.length_cons, piecesFrom, escapedTag?_of_not_hasTag h]
      simp only
      rw [ih _ (mt (hasTag_append [c]) h), consText]

/-- The characters of all texts among pieces. -/
def textSize : List Piece → Nat
  | [] => 0
  | .text text :: rest => text.length + textSize rest
  | .tag .. :: rest => textSize rest

theorem textSize_append (ps qs : List Piece) : textSize (ps ++ qs) = textSize ps + textSize qs := by
  fun_induction textSize ps with
  | case1 => simp
  | case2 text rest ih => rw [List.cons_append, textSize, ih, Nat.add_assoc]
  | case3 place name parameter rest ih => rw [List.cons_append, textSize, ih]

theorem textSize_consText (c : Char) (ps : List Piece) :
    textSize (consText c ps) = textSize ps + 1 := by
  unfold consText
  split
  · simp only [textSize, List.length_cons]
    omega
  · simp only [textSize, List.length_singleton]
    omega

/-- Of a tag and the backslashes in front of it something is left out. -/
theorem textSize_escaped_lt (place backslashes : Nat) (text : List Char) :
    textSize (escaped place backslashes text) < backslashes + text.length + 2 := by
  have hshown : textSize (if backslashes < 2 then [] else
      [.text (List.replicate (backslashes / 2) '\\')]) = backslashes / 2 := by
    split
    · rw [textSize]
      omega
    · simp only [textSize, List.length_replicate]
      omega
  have htag : textSize [splitTag (place + backslashes) text] = 0 := by
    simp only [splitTag]
    split <;> rfl
  simp only [escaped]
  split
  · rw [textSize_append, hshown]
    simp only [textSize, List.length_append, List.length_cons, List.length_nil]
    omega
  · rw [textSize_append, hshown, htag]
    omega

/-- Pieces hold no more characters than the markup, and fewer where there is a tag. -/
theorem textSize_piecesFrom (fuel place : Nat) (cs : List Char) :
    textSize (piecesFrom fuel place cs) ≤ cs.length ∧
      (HasTag cs → cs.length ≤ fuel → textSize (piecesFrom fuel place cs) < cs.length) := by
  fun_induction piecesFrom fuel place cs with
  | case1 place cs =>
      refine ⟨by simp [textSize], fun htag hfuel => ?_⟩
      obtain ⟨before, text, after, rfl, -⟩ := htag
      simp at hfuel
  | case2 fuel place =>
      refine ⟨Nat.le_refl 0, fun htag => ?_⟩
      obtain ⟨before, text, after, hnil, -⟩ := htag
      simp at hnil
  | case3 fuel place c rest backslashes text after htag ih =>
      -- the tag has its brackets, and more than its backslashes in front of it
      have hlength : (c :: rest).length = backslashes + text.length + 2 + after.length := by
        rw [(escapedTag?_eq_some htag).1]
        simp only [List.length_append, List.length_replicate, List.length_cons]
        omega
      have hescaped := textSize_escaped_lt place backslashes text
      have hafter := ih.1
      rw [hlength, List.cons_append, textSize, textSize_append, List.length_nil]
      exact ⟨by omega, fun _ _ => by omega⟩
  | case4 fuel place c rest hnone ih =>
      rw [textSize_consText, List.length_cons]
      refine ⟨Nat.succ_le_succ ih.1, fun htag hfuel => ?_⟩
      exact Nat.succ_lt_succ (ih.2 (hasTag_of_cons hnone htag) (Nat.le_of_succ_le_succ hfuel))

/-! ### What is shown -/

theorem length_unescapeBrackets (cs : List Char) : (unescapeBrackets cs).length ≤ cs.length := by
  fun_induction unescapeBrackets cs with
  | case1 => exact Nat.le_refl 0
  | case2 rest ih =>
      simp only [List.length_cons]
      omega
  | case3 c rest hbracket ih => exact Nat.succ_le_succ ih

/-- Only a bracket with a backslash in front of it is written in another way. -/
theorem unescapeBrackets_eq_self_iff : unescapeBrackets cs = cs ↔ ¬['\\', '['] <:+: cs := by
  fun_induction unescapeBrackets cs with
  | case1 => simp
  | case2 rest ih =>
      have hescape : ['\\', '['] <:+: '\\' :: '[' :: rest := ⟨[], rest, rfl⟩
      simp [hescape]
  | case3 c rest hbracket ih =>
      have hfront : ¬['\\', '['] <+: c :: rest := by
        rintro ⟨after, hafter⟩
        obtain ⟨hc, hrest⟩ := List.cons_eq_cons.1 hafter
        exact hbracket after hc.symm hrest.symm
      rw [List.cons_inj_right, ih, List.infix_cons_iff, or_iff_right hfront]

theorem IsPrintable.visible (h : IsPrintable cs) : visible cs = cs := by
  refine List.filter_eq_self.2 fun c hc => ?_
  have hrange := h c hc
  simp [isHidden]
  omega

theorem IsPrintable.not_wide (h : IsPrintable cs) : ¬∃ c ∈ cs, IsWide c := by
  rintro ⟨c, hc, hwide⟩
  have hrange := h c hc
  rw [IsWide] at hwide
  omega

/-- Where only printable characters are shown, no picture was written. -/
theorem withEmoji_of_printable (h : IsPrintable (shownText text)) :
    withEmoji (unescapeBrackets text) = unescapeBrackets text := by
  refine (withEmojiFrom_eq_self_or _ _).resolve_right ?_
  rintro ⟨c, hc, hwide⟩
  refine h.not_wide ⟨c, List.mem_filter.2 ⟨hc, ?_⟩, hwide⟩
  rw [IsWide] at hwide
  simp [isHidden]
  omega

theorem length_shownText (h : IsPrintable (shownText text)) :
    (shownText text).length ≤ text.length := by
  rw [shownText, withEmoji_of_printable h]
  exact Nat.le_trans (List.length_filter_le _ _) (length_unescapeBrackets text)

theorem length_showPieces {ps : List Piece} (hok : showPieces isOpen ps = .ok shown)
    (h : IsPrintable shown) : shown.length ≤ textSize ps := by
  induction ps generalizing isOpen shown with
  | nil =>
      rw [showPieces] at hok
      rw [← Except.ok.inj hok]
      exact Nat.zero_le _
  | cons piece rest ih =>
      cases piece with
      | text text =>
          rw [showPieces] at hok
          split at hok
          · rename_i behind hrest
            obtain rfl := Except.ok.inj hok
            have hfront := length_shownText fun c hc => h c (List.mem_append_left behind hc)
            have hbehind := ih hrest fun c hc => h c (List.mem_append_right _ hc)
            rw [textSize, List.length_append]
            omega
          · contradiction
      | tag place name parameter =>
          rw [showPieces] at hok
          split at hok
          · exact ih hok h
          · contradiction

/-- Without a tag a text is not refused. -/
theorem showMarkup_of_not_hasTag (h : ¬HasTag cs) : showMarkup cs = .ok (shownText cs) := by
  rw [showMarkup, pieces, piecesFrom_of_not_hasTag 0 h]
  simp [showPieces]

/-- A printable text is shown as it is just where it is plain. -/
theorem showMarkup_eq_self_iff (h : IsPrintable cs) : showMarkup cs = .ok cs ↔ IsPlain cs := by
  constructor
  · intro hshown
    have hlength := length_showPieces hshown h
    have huntagged : ¬HasTag cs := by
      intro htag
      have hless := (textSize_piecesFrom cs.length 0 cs).2 htag (Nat.le_refl _)
      exact absurd hlength (Nat.not_le.2 hless)
    have hself : shownText cs = cs := by
      rwa [showMarkup_of_not_hasTag huntagged, Except.ok.injEq] at hshown
    have hunpictured := withEmoji_of_printable (hself.symm ▸ h)
    have hvisible : visible (unescapeBrackets cs) = cs := by
      rwa [shownText, hunpictured] at hself
    -- nothing is left out, or the text would have become shorter
    have hunescaped : unescapeBrackets cs = cs := by
      have hsublist : (visible (unescapeBrackets cs)).Sublist (unescapeBrackets cs) :=
        List.filter_sublist
      rw [hvisible] at hsublist
      exact (hsublist.eq_of_length_le (length_unescapeBrackets cs)).symm
    rw [hunescaped] at hunpictured
    exact ⟨huntagged, unescapeBrackets_eq_self_iff.1 hunescaped, hunpictured⟩
  · intro hplain
    rw [showMarkup_of_not_hasTag hplain.untagged, shownText,
      unescapeBrackets_eq_self_iff.2 hplain.unescaped, hplain.unpictured, h.visible]

/-- Texts with neither brackets nor colons are plain. -/
theorem isPlain_of_not_mem (hbracket : '[' ∉ cs) (hcolon : ':' ∉ cs) : IsPlain cs where
  untagged := by
    rintro ⟨before, text, after, rfl, -⟩
    simp at hbracket
  unescaped h := hbracket (h.subset (by simp))
  unpictured := by
    refine withEmojiFrom_of_not_hasPicture _ ?_
    rintro ⟨before, name, ending, after, rfl, -⟩
    simp at hcolon

end LinkIndex.Report
