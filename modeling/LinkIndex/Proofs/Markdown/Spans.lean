import LinkIndex.Markdown.Inline.Tree
import LinkIndex.Proofs.Extract.Urls

/-!
The spans of a text and the nodes that are made of them. Settling hands each span that
stays the spans of its text, which are fewer; so what is read off the nodes of a text can be
read off its spans, level by level. Of a link by brackets the span tells how it was found.
-/

namespace LinkIndex.Markdown

/-! ### Settling -/

theorem of_mem_settleFrom {last s : Span} {inside rest inner : List Span}
    (h : (s, inner) ∈ settleFrom last inside rest) :
    s ∈ last :: rest ∧ inner.Sublist (inside.reverse ++ rest) := by
  induction rest generalizing last inside with
  | nil =>
      obtain ⟨rfl, rfl⟩ := Prod.mk.inj (List.mem_singleton.1 h)
      simp
  | cons t rest ih =>
      -- whatever becomes of a span, those behind it are settled with no others in front
      have hskip (keep : List Span) : (keep ++ rest).Sublist (keep ++ t :: rest) :=
        (List.sublist_cons_self t rest).append_left keep
      have hfresh (h : (s, inner) ∈ settleFrom t [] rest) :
          s ∈ last :: t :: rest ∧ inner.Sublist (inside.reverse ++ t :: rest) := by
        obtain ⟨hmem, hsub⟩ := ih h
        exact ⟨List.mem_cons_of_mem last hmem, (hsub.trans (hskip [])).trans
          (List.sublist_append_right _ _)⟩
      have hdrop (h : (s, inner) ∈ settleFrom last inside rest) :
          s ∈ last :: t :: rest ∧ inner.Sublist (inside.reverse ++ t :: rest) := by
        obtain ⟨hmem, hsub⟩ := ih h
        refine ⟨?_, hsub.trans (hskip _)⟩
        rcases List.mem_cons.1 hmem with rfl | hmem <;> simp [*]
      rw [settleFrom] at h
      split at h
      · rcases List.mem_cons.1 h with heq | h
        · obtain ⟨rfl, rfl⟩ := Prod.mk.inj heq
          simp
        · exact hfresh h
      · split at h
        · obtain ⟨hmem, hsub⟩ := ih h
          refine ⟨?_, by simpa using hsub⟩
          rcases List.mem_cons.1 hmem with rfl | hmem <;> simp [*]
        · split at h
          · exact hdrop h
          · split at h
            · exact hfresh h
            · exact hdrop h

theorem mem_of_mem_settle {s : Span} {spans inner : List Span} (h : (s, inner) ∈ settle spans) :
    s ∈ spans := by
  cases spans with
  | nil => cases h
  | cons first rest => exact (of_mem_settleFrom h).1

theorem sublist_of_mem_settle {s : Span} {spans inner : List Span}
    (h : (s, inner) ∈ settle spans) : inner.Sublist spans.tail := by
  cases spans with
  | nil => cases h
  | cons first rest => exact (of_mem_settleFrom h).2

theorem length_lt_of_mem_settle {s : Span} {spans inner : List Span}
    (h : (s, inner) ∈ settle spans) : inner.length < spans.length := by
  have hle := (sublist_of_mem_settle h).length_le
  have hpos := List.length_pos_of_mem (mem_of_mem_settle h)
  rw [List.length_tail] at hle
  omega

/-! ### Nodes -/

theorem flatMap_withTexts {β : Type} (view : Tree → List β)
    (htext : ∀ value, view (.text value) = []) (text : Array Char) (stop start : Nat)
    (nodes : List (Span × Tree)) :
    (withTexts text stop start nodes).flatMap view = nodes.flatMap fun p => view p.2 := by
  have hplain (start stop : Nat) : (textNode text start stop).flatMap view = [] := by
    rw [textNode]
    split
    · rw [List.flatMap_singleton, htext]
    · rfl
  induction nodes generalizing start with
  | nil => exact hplain start stop
  | cons p rest ih =>
      rw [withTexts, List.flatMap_append, List.flatMap_cons, List.flatMap_cons, hplain, ih,
        List.nil_append]

/-- The spans that stay, in document order, those in the text of a span being left out unless
its mark satisfies `enters`. -/
def among (enters : Mark → Bool) (spans : List Span) : List Span :=
  (settle spans).attach.flatMap fun p =>
    p.1.1 :: if enters p.1.1.mark then among enters p.1.2 else []
  termination_by spans.length
  decreasing_by exact length_lt_of_mem_settle p.2

theorem among_eq (enters : Mark → Bool) (spans : List Span) :
    among enters spans = (settle spans).flatMap fun p =>
      p.1 :: if enters p.1.mark then among enters p.2 else [] := by
  have hattach := List.flatMap_map (fun p : { p // p ∈ settle spans } => p.1)
    (fun p => p.1 :: if enters p.1.mark then among enters p.2 else []) (settle spans).attach
  rw [among, ← hattach, List.attach_map_subtype_val]

theorem mem_of_mem_among {enters : Mark → Bool} {s : Span} {spans : List Span}
    (h : s ∈ among enters spans) : s ∈ spans := by
  rw [among_eq] at h
  obtain ⟨⟨t, inner⟩, ht, hs⟩ := List.mem_flatMap.1 h
  have hlt := length_lt_of_mem_settle ht
  have hinner (h : s ∈ among enters inner) : s ∈ spans :=
    List.mem_of_mem_tail ((sublist_of_mem_settle ht).subset (mem_of_mem_among h))
  rcases List.mem_cons.1 hs with rfl | hs
  · exact mem_of_mem_settle ht
  · split at hs
    · exact hinner hs
    · cases hs
  termination_by spans.length

/-! ### Marks -/

theorem exists_of_mem_findFrom {p : Option Char → List Char → Option (Nat × Mark)} {i skip : Nat}
    {before : Option Char} {text : List Char} {s : Span}
    (h : s ∈ findFrom p i skip before text) : ∃ before cs n, p before cs = some (n, s.mark) := by
  induction text generalizing i skip before with
  | nil => cases h
  | cons c rest ih =>
      cases skip with
      | succ skip => exact ih h
      | zero =>
          rw [findFrom] at h
          split at h
          · rename_i n mark hfound
            rcases List.mem_cons.1 h with rfl | h
            · exact ⟨before, c :: rest, n + 1, hfound⟩
            · exact ih h
          · exact ih h

/-- What a link by brackets has in them. -/
def Span.inside (text : List Char) (s : Span) : List Char :=
  (text.take s.innerStop).drop s.innerStart

/-- What follows the brackets of a link. -/
def Span.behind (text : List Char) (s : Span) : List Char :=
  text.drop (s.innerStop + 1)

/-- The target of a span, if it is a link, is the one that its text and what follows give. -/
def IsResolved (labels : Labels) (text : List Char) (s : Span) : Prop :=
  ∀ target, s.mark = .link target →
    ∃ length, targetBehind? labels (s.inside text) (s.behind text) = some (target, length)

variable {labels : Labels} {text : List Char} {s : Span}

theorem isResolved_of_ne_link (h : ∀ target, s.mark ≠ .link target) : IsResolved labels text s :=
  fun target hmark => absurd hmark (h target)

theorem spans_giveUp (p : Pairing) (j : Nat) (d : Delimiter) :
    (p.giveUp j d).1.spans = p.spans := by
  rw [Pairing.giveUp]
  split <;> split <;> rfl

theorem isEmphasis_of_mem_pair {p : Pairing} {i j : Nat} {o c : Delimiter}
    (hp : ∀ s ∈ p.spans, s.mark = .emphasis ∨ s.mark = .strong) :
    ∀ s ∈ (p.pair i j o c).1.spans, s.mark = .emphasis ∨ s.mark = .strong := by
  intro s hs
  rcases List.mem_cons.1 hs with rfl | hs
  · by_cases htwo : 2 ≤ o.length ∧ 2 ≤ c.length <;> simp [htwo]
  · exact hp s hs

/-- Pairing runs of delimiters finds emphasis only. -/
theorem isEmphasis_of_mem_run {fuel j : Nat} {p : Pairing}
    (hp : ∀ s ∈ p.spans, s.mark = .emphasis ∨ s.mark = .strong)
    (h : s ∈ (Pairing.run fuel j p).spans) : s.mark = .emphasis ∨ s.mark = .strong := by
  induction fuel generalizing j p with
  | zero => exact hp s h
  | succ fuel ih =>
      rw [Pairing.run] at h
      split at h
      · exact hp s h
      · rename_i d hd
        split at h
        · split at h
          · rename_i i hi
            split at h
            · exact ih (isEmphasis_of_mem_pair hp) h
            · exact hp s h
          · have hsame := spans_giveUp p j d
            obtain ⟨q, k⟩ := p.giveUp j d
            refine ih (fun t ht => hp t ?_) h
            exact hsame ▸ ht
        · exact ih hp h

theorem isResolved_of_mem_emphasisSpans {ds : List Delimiter} {least : Nat}
    (h : s ∈ emphasisSpans ds least) : IsResolved labels text s := by
  have hmark := isEmphasis_of_mem_run (by simp) (List.mem_reverse.1 h)
  refine isResolved_of_ne_link fun target => ?_
  rcases hmark with hmark | hmark <;> rw [hmark] <;> simp

/-- Closing a bracket finds a link only where its target is found. -/
theorem isResolved_of_mem_closeBracket {close : Nat} {scan : LinkScan}
    (hscan : ∀ s ∈ scan.spans, IsResolved labels text s)
    (h : s ∈ (closeBracket labels text close scan).1.spans) : IsResolved labels text s := by
  rw [closeBracket] at h
  split at h
  · exact hscan s h
  · rename_i i d hlast
    simp only at h
    split at h
    · split at h
      · exact hscan s h
      · rename_i target length htarget
        rcases List.mem_append.1 h with h | h
        · rcases List.mem_append.1 h with h | h
          · exact hscan s h
          · exact isResolved_of_mem_emphasisSpans h
        · obtain rfl := List.mem_singleton.1 h
          intro target' hmark
          have htarget' : target' = target := by
            cases hkind : decide (d.kind = .bracket) <;> simp_all
          rw [htarget']
          exact ⟨length, htarget⟩
    · exact hscan s h

/-- The invariant of the scan: every link found so far has the target that was found for it. -/
theorem isResolved_of_mem_scanLinks {i skip : Nat} {before : Option Char} {rest : List Char}
    {scan : LinkScan} (hscan : ∀ s ∈ scan.spans, IsResolved labels text s)
    (h : s ∈ (scanLinks labels text i skip before rest scan).spans) : IsResolved labels text s := by
  induction rest generalizing i skip before scan with
  | nil =>
      cases skip <;> exact hscan s h
  | cons c rest ih =>
      cases skip with
      | succ skip => exact ih hscan h
      | zero =>
          rw [scanLinks] at h
          split at h
          · exact ih hscan h
          · split at h
            · exact ih hscan h
            · split at h
              · exact ih (fun t ht => isResolved_of_mem_closeBracket hscan ht) h
              · split at h
                · refine ih ?_ h
                  exact hscan
                · exact ih hscan h

theorem ne_link_of_mem_find {p : Option Char → List Char → Option (Nat × Mark)}
    (hp : ∀ before cs n target, p before cs ≠ some (n, .link target)) (h : s ∈ find p text)
    (target : Target) : s.mark ≠ .link target := by
  intro hmark
  obtain ⟨before, cs, n, hfound⟩ := exists_of_mem_findFrom h
  rw [hmark] at hfound
  exact hp before cs n target hfound

/-- Spans that hold no further ones are no links by brackets. -/
theorem isResolved_of_mem_leafSpans (h : s ∈ (leafSpans text).1 ∨ s ∈ (leafSpans text).2) :
    IsResolved labels text s := by
  refine isResolved_of_ne_link fun target => ?_
  rw [leafSpans] at h
  simp only [List.mem_append] at h
  rcases h with (h | h) | ((h | h) | h) <;> refine ne_link_of_mem_find ?_ h target <;>
    intro before cs n target hfound
  · simp only [lineBreak?] at hfound
    split at hfound
    · cases hfound
    · split at hfound <;> cases hfound
  · simp only [escaped?] at hfound
    split at hfound
    · split at hfound <;> cases hfound
    · cases hfound
  · simp only [rawMarkup?] at hfound
    obtain ⟨after, -, hafter⟩ := Option.map_eq_some_iff.1 hfound
    cases hafter
  · simp only [code?] at hfound
    split at hfound
    · cases hfound
    · split at hfound <;> cases hfound
  · simp only [autolink?] at hfound
    split at hfound
    · split at hfound
      · split at hfound
        · cases hfound
        · split at hfound <;> cases hfound
      · cases hfound
    · cases hfound

theorem isResolved_of_mem_spans (h : s ∈ spans labels text) : IsResolved labels text s := by
  rw [spans] at h
  have hmem := (List.mergeSort_perm _ _).mem_iff.1 h
  rw [List.mem_append, List.mem_append] at hmem
  rcases hmem with (hmem | hmem) | hmem
  · exact isResolved_of_mem_leafSpans (.inl hmem)
  · rcases List.mem_append.1 hmem with hmem | hmem
    · exact isResolved_of_mem_scanLinks (by simp) hmem
    · exact isResolved_of_mem_emphasisSpans hmem
  · exact isResolved_of_mem_leafSpans (.inr hmem)

end LinkIndex.Markdown
