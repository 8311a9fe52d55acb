import LinkIndex.Html.Event
import LinkIndex.Proofs.Text.Lines
import Mathlib.Data.List.TakeWhile

/-!
Fragments are read to their end. Each step goes on behind at least one character or from the
first round to the second, so that the fuel of a scan never runs out: how a fragment goes on
after a step does not depend on it.
-/

namespace LinkIndex.Html

variable {cs rest : List Char}

/-! ### Endings -/

/-- What follows an ending is no longer than the text in which it is looked for. -/
def Shortens (p : List Char → Option (List Char)) : Prop :=
  ∀ ⦃cs rest⦄, p cs = some rest → rest.length ≤ cs.length

theorem Shortens.afterFirst {p : List Char → Option (List Char)} (hp : Shortens p) :
    Shortens (afterFirst p) := by
  intro cs rest h
  induction cs with
  | nil => contradiction
  | cons c cs ih =>
      rw [Html.afterFirst, Option.or_eq_some_iff] at h
      rcases h with h | ⟨-, h⟩
      · exact hp h
      · have hle := ih h
        rw [List.length_cons]
        omega

theorem shortens_afterAngle : Shortens afterAngle := by
  refine Shortens.afterFirst fun cs rest h => ?_
  split at h
  · obtain rfl := Option.some.inj h
    simp
  · contradiction

theorem shortens_blankAngle : Shortens blankAngle := by
  intro cs rest h
  have hle := List.length_dropWhile_le isBlank cs
  unfold blankAngle at h
  split at h
  · rename_i after hangle
    obtain rfl := Option.some.inj h
    rw [hangle, List.length_cons] at hle
    omega
  · contradiction

theorem shortens_afterComment : Shortens afterComment := by
  refine Shortens.afterFirst fun cs rest h => ?_
  split at h
  · have hle := shortens_blankAngle h
    simp only [List.length_cons]
    omega
  · contradiction

theorem shortens_afterBracket : Shortens afterBracket := by
  refine Shortens.afterFirst fun cs rest h => ?_
  split at h
  · have hle := shortens_blankAngle h
    rw [List.length_cons]
    omega
  · contradiction

theorem shortens_afterTwoBrackets : Shortens afterTwoBrackets := by
  refine Shortens.afterFirst fun cs rest h => ?_
  split at h
  · rename_i inner
    have hblank := List.length_dropWhile_le isBlank inner
    split at h
    · rename_i after hbracket
      have hle := shortens_blankAngle h
      rw [hbracket, List.length_cons] at hblank
      rw [List.length_cons]
      omega
    · contradiction
  · contradiction

theorem shortens_afterEndTag (name : List Char) : Shortens (afterEndTag name) := by
  refine Shortens.afterFirst fun cs rest h => ?_
  unfold endTagOf at h
  split at h
  · rename_i inner
    have hblank := List.length_dropWhile_le isBlank inner
    simp only at h
    split at h
    · have hle := shortens_blankAngle h
      rw [List.length_drop] at hle
      simp only [List.length_cons]
      omega
    · contradiction
  · contradiction

/-! ### End tags, declarations and what is broken off -/

/-- What follows a piece has at most `n` characters. -/
def Piece.IsWithin (n : Nat) : Piece → Prop
  | .next _ rest => rest.length ≤ n
  | _ => True

theorem Piece.isWithin_ofEnd {n : Nat} (event : Option Event) {after : Option (List Char)}
    (h : ∀ rest, after = some rest → rest.length ≤ n) : (Piece.ofEnd event after).IsWithin n := by
  cases after with
  | none => trivial
  | some rest => exact h rest rfl

theorem isWithin_readEndTag (cs : List Char) : (readEndTag cs).IsWithin cs.length := by
  unfold readEndTag
  split <;> exact Piece.isWithin_ofEnd _ fun _ h => shortens_afterAngle h

theorem isWithin_readSection (cs : List Char) : (readSection cs).IsWithin cs.length := by
  unfold readSection
  split
  · trivial
  split
  · trivial
  simp only
  split
  · trivial
  split
  · exact Piece.isWithin_ofEnd _ fun _ h => shortens_afterTwoBrackets h
  split
  · exact Piece.isWithin_ofEnd _ fun _ h => shortens_afterBracket h
  · trivial

theorem Piece.IsWithin.mono {n m : Nat} {piece : Piece} (h : piece.IsWithin n) (hle : n ≤ m) :
    piece.IsWithin m := by
  cases piece with
  | next event rest => exact Nat.le_trans h hle
  | _ => trivial

theorem isWithin_readDeclaration (cs : List Char) :
    (readDeclaration cs).IsWithin cs.length := by
  unfold readDeclaration
  split
  · refine Piece.isWithin_ofEnd _ fun _ h => ?_
    have hle := shortens_afterComment h
    simp only [List.length_cons]
    omega
  · exact (isWithin_readSection _).mono (by simp)
  · split
    · refine Piece.isWithin_ofEnd _ fun _ h => ?_
      have hle := shortens_afterAngle h
      rw [List.length_drop] at hle
      omega
    · exact Piece.isWithin_ofEnd _ fun _ h => shortens_afterAngle h

theorem length_afterBroken_le (cs : List Char) : (afterBroken cs).length ≤ cs.length := by
  unfold afterBroken
  split
  · exact shortens_afterAngle ‹_›
  · have hle := List.length_dropWhile_le (· ≠ '<') cs
    split
    · exact Nat.le_refl _
    · exact hle

/-! ### Start tags -/

theorem length_skipFiller_le (cs : List Char) : (skipFiller cs).length ≤ cs.length := by
  induction cs using skipFiller.induct with
  | case1 rest => simp [skipFiller]
  | case2 c rest hclose h ih =>
      rw [skipFiller.eq_2 c rest hclose, if_pos h, List.length_cons]
      omega
  | case3 c rest hclose h =>
      have hstay := (skipFiller.eq_2 c rest hclose).trans (if_neg h)
      exact Nat.le_of_eq (congrArg List.length hstay)
  | case4 => simp [skipFiller]

theorem length_bareValue_le (cs : List Char) : (bareValue cs).2.length ≤ cs.length :=
  List.length_dropWhile_le _ cs

theorem length_lt_of_quotedValue {mark : Char} {value : List Char}
    (h : quotedValue mark cs = some (value, rest)) : rest.length < cs.length := by
  have hle := List.length_dropWhile_le (· ≠ mark) cs
  unfold quotedValue at h
  split at h
  · rename_i found after hmark
    obtain ⟨-, rfl⟩ := Prod.mk.inj (Option.some.inj h)
    rw [hmark, List.length_cons] at hle
    exact hle
  · contradiction

theorem length_attributeValue_le (cs : List Char) :
    (attributeValue cs).2.length ≤ cs.length := by
  have hsigns := List.length_dropWhile_le isBlank cs
  have hequals : ((cs.dropWhile isBlank).takeWhile (· = '=')).length +
      ((cs.dropWhile isBlank).dropWhile (· = '=')).length = (cs.dropWhile isBlank).length := by
    rw [← List.length_append, List.takeWhile_append_dropWhile]
  have hstart := List.length_dropWhile_le isBlank ((cs.dropWhile isBlank).dropWhile (· = '='))
  unfold attributeValue
  simp only
  generalize (cs.dropWhile isBlank).takeWhile (· = '=') = equals at *
  generalize (cs.dropWhile isBlank).dropWhile (· = '=') = gap at *
  generalize gap.dropWhile isBlank = start at *
  cases equals with
  | nil => exact Nat.le_refl _
  | cons sign equals =>
      simp only [List.length_cons] at hequals ⊢
      split
      · rename_i value rest hwhole
        have hrest : rest.length ≤ start.length := by
          split at hwhole
          · have hlt := length_lt_of_quotedValue hwhole
            rw [List.length_cons]
            omega
          · have hlt := length_lt_of_quotedValue hwhole
            rw [List.length_cons]
            omega
          · obtain ⟨-, rfl⟩ := Prod.mk.inj (Option.some.inj hwhole)
            exact List.length_dropWhile_le _ start
        simp only
        omega
      · split
        · simp only [List.length_drop]
          omega
        · split
          · have hbare := length_bareValue_le ('=' :: start)
            rw [List.length_cons] at hbare
            simp only
            omega
          · exact Nat.le_refl _

/-- What follows an attribute: it takes at least the first character. -/
theorem length_afterAttribute_le (cs : List Char) :
    (skipFiller (attributeValue (cs.dropWhile isAttributeNameChar)).2).length ≤ cs.length :=
  Nat.le_trans (length_skipFiller_le _)
    (Nat.le_trans (length_attributeValue_le _) (List.length_dropWhile_le _ cs))

theorem length_readAttributes_le (fuel : Nat) (before : Char) (cs : List Char) :
    (readAttributes fuel before cs).2.length ≤ cs.length := by
  induction fuel generalizing before cs with
  | zero => exact Nat.le_refl _
  | succ fuel ih =>
      cases cs with
      | nil => exact Nat.le_refl _
      | cons c cs =>
          rw [readAttributes]
          split
          · exact Nat.le_trans (ih _ _)
              (Nat.le_trans (length_afterAttribute_le cs) (Nat.le_succ _))
          · exact Nat.le_refl _

/-- What follows a start tag has at most `n` characters. -/
def TagEnd.IsWithin (n : Nat) : TagEnd → Prop
  | .open _ rest => rest.length ≤ n
  | .closed _ rest => rest.length ≤ n
  | .text rest => rest.length ≤ n
  | _ => True

theorem isWithin_readTag (cs : List Char) : (readTag cs).IsWithin cs.length := by
  have hname := List.length_dropWhile_le isTagNameChar cs
  have hstart := length_skipFiller_le (cs.dropWhile isTagNameChar)
  unfold readTag
  simp only
  generalize hread : readAttributes _ _ _ = read
  have hrest : read.2.length ≤ cs.length :=
    hread ▸ Nat.le_trans (length_readAttributes_le _ _ _) (Nat.le_trans hstart hname)
  split
  · rename_i rest hopen
    rw [hopen, List.length_cons] at hrest
    split
    · exact Nat.le_of_succ_le hrest
    · trivial
  · rename_i rest hclosed
    rw [hclosed, List.length_cons, List.length_cons] at hrest
    split
    · exact Nat.le_of_succ_le (Nat.le_of_succ_le hrest)
    · trivial
  · trivial
  · rename_i c rest _ _ htext
    split
    · trivial
    · split
      · exact htext ▸ hrest
      · trivial

/-! ### References -/

/-- What follows a reference, or is left where it stops a round: a reference that is read takes at
least one of `n` characters. -/
def RefEnd.IsWithin (n : Nat) : RefEnd → Prop
  | .next _ rest => rest.length < n
  | .stop _ rest => rest.length ≤ n

theorem isWithin_noNumberRef (cs : List Char) : (noNumberRef cs).IsWithin (cs.length + 2) := by
  unfold noNumberRef
  split
  · exact Nat.le_add_right _ 2
  · exact Nat.le_refl _

theorem isWithin_endNumberRef (event : Event) (hrest : rest.length ≤ cs.length) :
    (endNumberRef cs event rest).IsWithin (cs.length + 2) := by
  unfold endNumberRef
  split
  · rw [List.length_cons] at hrest
    simp only [RefEnd.IsWithin]
    omega
  · split
    · exact isWithin_noNumberRef cs
    · simp only [RefEnd.IsWithin]
      omega
  · exact isWithin_noNumberRef cs

theorem isWithin_readNumberRef (cs : List Char) :
    (readNumberRef cs).IsWithin (cs.length + 2) := by
  unfold readNumberRef
  split
  · exact isWithin_endNumberRef _ (List.length_dropWhile_le _ _)
  · rename_i x rest _
    split
    · exact isWithin_endNumberRef _ (Nat.le_trans (List.length_dropWhile_le _ rest) (Nat.le_succ _))
    · exact isWithin_noNumberRef _
  · exact isWithin_noNumberRef _

theorem isWithin_readNameRef (second : Bool) (cs : List Char) :
    (readNameRef second cs).IsWithin (cs.length + 1) := by
  have hname := List.length_dropWhile_le isRefNameChar cs
  unfold readNameRef
  split
  · rename_i rest hend
    rw [hend, List.length_cons] at hname
    simp only [RefEnd.IsWithin]
    omega
  · rename_i c rest _ hend
    rw [hend] at hname
    simp only [RefEnd.IsWithin]
    omega
  · simp only
    split
    · simp only [RefEnd.IsWithin, List.length_drop]
      omega
    · split <;> simp [RefEnd.IsWithin]

/-! ### Steps -/

/-- What bounds the steps that are left: the characters, and the rounds. -/
def stepsLeft (second : Bool) (cs : List Char) : Nat :=
  cs.length + if second then 1 else 2

theorem stepsLeft_pos (second : Bool) (cs : List Char) : 0 < stepsLeft second cs := by
  cases second <;> exact Nat.succ_pos _

/-- Less than `n` steps are left. -/
def Move.IsBelow (n : Nat) : Move → Prop
  | .goOn _ second rest => stepsLeft second rest < n
  | _ => True

theorem Move.IsBelow.mono {n n' : Nat} {m : Move} (h : m.IsBelow n) (hle : n ≤ n') :
    m.IsBelow n' := by
  cases m with
  | goOn events second rest => exact Nat.lt_of_lt_of_le h hle
  | _ => trivial

theorem Move.isBelow_after {n : Nat} {m : Move} (before : List Event) :
    (m.after before).IsBelow n ↔ m.IsBelow n := by
  cases m <;> rfl

theorem isBelow_goOn (second : Bool) (events : List Event) (h : rest.length < cs.length) :
    (Move.goOn events second rest).IsBelow (stepsLeft second cs) :=
  Nat.add_lt_add_right h _

theorem isBelow_endRound (second : Bool) (h : rest.length ≤ cs.length) :
    (endRound second rest).IsBelow (stepsLeft second cs) := by
  cases second with
  | false => exact Nat.add_lt_add_of_le_of_lt h (Nat.lt_succ_self 1)
  | true => trivial

theorem Piece.isBelow_move {piece : Piece} {inner : List Char} (second : Bool)
    (h : piece.IsWithin inner.length) :
    (piece.move second inner).IsBelow (stepsLeft second ('<' :: inner)) := by
  cases piece with
  | next event rest => exact isBelow_goOn second _ (Nat.lt_succ_of_le h)
  | broken =>
      cases second with
      | false => exact Nat.add_lt_add_left (Nat.lt_succ_self 1) _
      | true => exact isBelow_goOn true _ (Nat.lt_succ_of_le (length_afterBroken_le inner))
  | refused => trivial

theorem TagEnd.isBelow_move {tag : TagEnd} {inner : List Char} (second : Bool)
    (h : tag.IsWithin inner.length) :
    (tag.move second inner).IsBelow (stepsLeft second ('<' :: inner)) := by
  cases tag with
  | «open» tag rest =>
      simp only [TagEnd.move]
      split
      · split
        · rename_i after hafter
          exact isBelow_goOn second _
            (Nat.lt_succ_of_le (Nat.le_trans (shortens_afterEndTag _ hafter) h))
        · trivial
      · exact isBelow_goOn second _ (Nat.lt_succ_of_le h)
  | closed tag rest => exact isBelow_goOn second _ (Nat.lt_succ_of_le h)
  | broken => exact @Piece.isBelow_move .broken inner second trivial
  | text rest => exact isBelow_goOn second _ (Nat.lt_succ_of_le h)
  | refused => trivial

theorem RefEnd.isBelow_move {ref : RefEnd} (second : Bool) (h : ref.IsWithin cs.length) :
    (ref.move second).IsBelow (stepsLeft second cs) := by
  cases ref with
  | next event rest => exact isBelow_goOn second _ h
  | stop passed rest => exact (Move.isBelow_after _).2 (isBelow_endRound second h)

theorem isBelow_markupMove (second : Bool) (inner : List Char) :
    (markupMove second inner).IsBelow (stepsLeft second ('<' :: inner)) := by
  unfold markupMove
  split
  · exact isBelow_endRound second (Nat.le_refl _)
  · exact Piece.isBelow_move second ((isWithin_readEndTag _).mono (Nat.le_succ _))
  · refine Piece.isBelow_move second (Piece.isWithin_ofEnd _ fun _ h => ?_)
    exact Nat.le_succ_of_le (shortens_afterAngle h)
  · exact Piece.isBelow_move second ((isWithin_readDeclaration _).mono (Nat.le_succ _))
  · split
    · exact TagEnd.isBelow_move second (isWithin_readTag _)
    · exact isBelow_goOn second _ (Nat.lt_succ_self _)

theorem isBelow_referenceMove (second : Bool) (c : Char) (inner : List Char) :
    (referenceMove second inner).IsBelow (stepsLeft second (c :: inner)) := by
  unfold referenceMove
  split
  · exact isBelow_endRound second (Nat.le_refl _)
  · exact RefEnd.isBelow_move second (isWithin_readNumberRef _)
  · split
    · exact RefEnd.isBelow_move second (isWithin_readNameRef second _)
    · exact isBelow_goOn second _ (Nat.lt_succ_self _)

/-- Each step leaves less to do. -/
theorem isBelow_move (second : Bool) (cs : List Char) :
    (move second cs).IsBelow (stepsLeft second cs) := by
  have hle := List.length_dropWhile_le isPlain cs
  refine (Move.isBelow_after _).2 ?_
  split
  · trivial
  · rename_i c inner hmarkup
    have hsteps : stepsLeft second (c :: inner) ≤ stepsLeft second cs :=
      Nat.add_le_add_right (hmarkup ▸ hle) _
    split
    · rename_i hc
      exact (hc ▸ isBelow_markupMove second inner).mono hsteps
    · exact (isBelow_referenceMove second c inner).mono hsteps

/-! ### Scans -/

/-- The fuel is enough where it bounds the steps. -/
theorem scanFrom_of_le {second : Bool} {fuel fuel' : Nat} (hfuel : stepsLeft second cs ≤ fuel)
    (hfuel' : stepsLeft second cs ≤ fuel') :
    scanFrom fuel second cs = scanFrom fuel' second cs := by
  have hpos := stepsLeft_pos second cs
  induction fuel generalizing second cs fuel' with
  | zero => omega
  | succ fuel ih =>
      obtain _ | fuel' := fuel'
      · omega
      have hbelow := isBelow_move second cs
      rw [scanFrom, scanFrom]
      cases hmove : move second cs with
      | goOn events second rest =>
          rw [hmove] at hbelow
          have hrest : scanFrom fuel second rest = scanFrom fuel' second rest :=
            ih (Nat.le_of_lt_succ (Nat.lt_of_lt_of_le hbelow hfuel))
              (Nat.le_of_lt_succ (Nat.lt_of_lt_of_le hbelow hfuel'))
              (stepsLeft_pos second rest)
          simp only [hrest]
      | stop events => rfl
      | refused => rfl

def scan (second : Bool) (cs : List Char) : Option (List Event) :=
  scanFrom (stepsLeft second cs) second cs

theorem events?_eq_scan (markup : List Char) : events? markup = scan false markup := rfl

/-- A scan takes its steps one after the other until one of them ends it. -/
theorem scan_eq (second : Bool) (cs : List Char) :
    scan second cs =
      match move second cs with
      | .goOn events second rest => (scan second rest).map (events ++ ·)
      | .stop events => some events
      | .refused => none := by
  have hbelow := isBelow_move second cs
  rw [scan, scanFrom_of_le (Nat.le_refl _) (Nat.le_succ _), scanFrom]
  cases hmove : move second cs with
  | goOn events second rest =>
      rw [hmove] at hbelow
      exact congrArg (Option.map _) (scanFrom_of_le (Nat.le_of_lt hbelow) (Nat.le_refl _))
  | stop events => rfl
  | refused => rfl

/-! ### A numeric reference at the start -/

theorem move_numberRef (second : Bool) {digits : List Char} (hne : digits ≠ [])
    (hdigits : ∀ c ∈ digits, c.isDigit) (rest : List Char) :
    move second ('&' :: '#' :: (digits ++ ';' :: rest)) = .goOn [.number digits] second rest := by
  have hfront := Text.takeWhile_append_cons (c := ';') hdigits rfl rest
  have hback := Text.dropWhile_append_cons (c := ';') hdigits rfl rest
  have hread : readNumberRef (digits ++ ';' :: rest) = .next (.number digits) rest := by
    unfold readNumberRef
    rw [hfront, hback]
    obtain ⟨d, others, rfl⟩ := List.exists_cons_of_ne_nil hne
    rfl
  change ((readNumberRef (digits ++ ';' :: rest)).move second).after [] = _
  rw [hread]
  rfl

/-- It is a piece of its own, and what follows is read as if it stood alone. -/
theorem events?_numberRef {digits : List Char} (hne : digits ≠ [])
    (hdigits : ∀ c ∈ digits, c.isDigit) (rest : List Char) :
    events? ('&' :: '#' :: (digits ++ ';' :: rest)) =
      (events? rest).map (.number digits :: ·) := by
  rw [events?_eq_scan, scan_eq, move_numberRef false hne hdigits]
  rfl

end LinkIndex.Html
