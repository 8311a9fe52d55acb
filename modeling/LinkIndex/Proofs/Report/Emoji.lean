import LinkIndex.Proofs.Slug.Path
import LinkIndex.Proofs.Text.Bytes
import LinkIndex.Report.Emoji

/-!
What is written for the names of pictures. Every picture has a character outside of
ASCII, so that a text in which one was written cannot be taken for the text as it
was; and a text without names of pictures between colons stays as it is.
-/

namespace LinkIndex.Report

/-- A character outside of ASCII. -/
def IsWide (c : Char) : Prop :=
  0x7F < c.toNat

variable {name cs mark after picture : List Char}

/-! ### Pictures -/

/-- Whether each text of a table has a byte that no character of ASCII has. -/
def hasWideBytes (table : List (String × String)) : Bool :=
  table.all fun p => p.2.toByteArray.data.toList.any fun b => 0x7F < b

theorem hasWideBytes_emojiFrom (c : Char) : hasWideBytes (emojiFrom c) = true := by
  unfold emojiFrom
  split <;> decide +kernel

theorem exists_wide_of_wideByte {text : String} {b : UInt8}
    (hmem : b ∈ text.toByteArray.data.toList) (hwide : 0x7F < b) :
    ∃ c ∈ text.toList, IsWide c := by
  rw [← Text.bytes, Text.bytes_eq_flatMap] at hmem
  obtain ⟨c, hc, hb⟩ := List.mem_flatMap.1 hmem
  refine ⟨c, hc, ?_⟩
  by_contra hnarrow
  -- a character of ASCII is its own byte
  have hle : c.val.toNat ≤ 127 := Nat.le_of_not_lt hnarrow
  rw [String.utf8EncodeChar, if_pos hle, List.mem_singleton] at hb
  rw [hb, UInt8.lt_iff_toNat_lt, UInt8.toNat_ofNat'] at hwide
  have hsmall : c.val.toNat % 2 ^ 8 ≤ 127 := Nat.le_trans (Nat.mod_le _ _) hle
  exact absurd hwide (Nat.not_lt.2 hsmall)

/-- A picture has a character outside of ASCII. -/
theorem exists_wide_of_emoji? (h : emoji? name = some picture) : ∃ c ∈ picture, IsWide c := by
  rw [emoji?] at h
  split at h
  · contradiction
  · rename_i c rest hname
    obtain ⟨text, hlookup, rfl⟩ := Option.map_eq_some_iff.1 h
    obtain ⟨front, back, htable, -⟩ := List.lookup_eq_some_iff.1 hlookup
    have hentry : (String.ofList (c :: rest), text) ∈ emojiFrom c := by
      rw [htable]
      exact List.mem_append_right front List.mem_cons_self
    have hwide := List.all_eq_true.1 (hasWideBytes_emojiFrom c) _ hentry
    obtain ⟨b, hmem, hb⟩ := List.any_eq_true.1 hwide
    exact exists_wide_of_wideByte hmem (of_decide_eq_true hb)

/-! ### Names between colons -/

/-- What may stand between a name and the colon behind it. -/
def nameEndings : List (List Char) :=
  [] :: emojiForms.map (·.1)

theorem nameEnd?_eq_some (h : nameEnd? cs = some (mark, after)) :
    ∃ ending ∈ nameEndings, cs = ending ++ ':' :: after := by
  unfold nameEnd? at h
  split at h
  · obtain ⟨-, rfl⟩ := Prod.mk.inj (Option.some.inj h)
    exact ⟨[], by simp [nameEndings], rfl⟩
  · obtain ⟨⟨ending, form⟩, hmem, hsome⟩ := List.exists_of_findSome?_eq_some h
    dsimp only at hsome
    split at hsome
    · rename_i rest hdrop
      obtain ⟨-, rfl⟩ := Prod.mk.inj (Option.some.inj hsome)
      refine ⟨ending, List.mem_cons_of_mem _ (List.mem_map_of_mem hmem), ?_⟩
      exact Text.dropPrefix?_eq_some_iff.1 hdrop
    · contradiction

theorem named?_eq_some (h : named? cs = some (name, mark, after)) :
    ∃ ending ∈ nameEndings, cs = name ++ (ending ++ ':' :: after) := by
  induction cs generalizing name with
  | nil => contradiction
  | cons c rest ih =>
      rw [named?] at h
      split at h
      · rename_i hend
        simp only [Option.some.injEq, Prod.mk.injEq] at h
        obtain ⟨rfl, rfl, rfl⟩ := h
        exact nameEnd?_eq_some hend
      · split at h
        · contradiction
        · obtain ⟨⟨name', mark', after'⟩, hrest, heq⟩ := Option.map_eq_some_iff.1 h
          simp only [Prod.mk.injEq] at heq
          obtain ⟨rfl, rfl, rfl⟩ := heq
          obtain ⟨ending, hending, hrest⟩ := ih hrest
          exact ⟨ending, hending, by rw [hrest, List.cons_append]⟩

/-- The name of a picture stands between colons, with or without an ending. -/
def HasPicture (cs : List Char) : Prop :=
  ∃ before name ending after, cs = before ++ ':' :: (name ++ (ending ++ ':' :: after)) ∧
    ending ∈ nameEndings ∧ (emoji? name).isSome

theorem hasPicture_append (before : List Char) (h : HasPicture cs) :
    HasPicture (before ++ cs) := by
  obtain ⟨front, name, ending, after, rfl, hname⟩ := h
  exact ⟨before ++ front, name, ending, after, by rw [List.append_assoc], hname⟩

/-- A name, with what closes it, and what follows. -/
theorem take_append_after (h : named? cs = some (name, mark, after)) :
    cs.take (cs.length - after.length) ++ after = cs := by
  obtain ⟨ending, -, heq⟩ := named?_eq_some h
  have hback : cs = (name ++ ending ++ [':']) ++ after := by simp [heq]
  have hlength := congrArg List.length hback
  rw [List.length_append] at hlength
  have htake : cs.take (cs.length - after.length) = name ++ ending ++ [':'] := by
    rw [hlength, Nat.add_sub_cancel, hback, List.take_left]
  rw [htake, ← hback]

theorem append_eq_or_wide {cs' : List Char} (front : List Char)
    (h : cs' = cs ∨ ∃ c ∈ cs', IsWide c) :
    front ++ cs' = front ++ cs ∨ ∃ c ∈ front ++ cs', IsWide c := by
  rcases h with rfl | ⟨c, hc, hwide⟩
  · exact .inl rfl
  · exact .inr ⟨c, List.mem_append_right front hc, hwide⟩

/-- A text stays as it is, or a picture was written into it. -/
theorem withEmojiFrom_eq_self_or (fuel : Nat) (cs : List Char) :
    withEmojiFrom fuel cs = cs ∨ ∃ c ∈ withEmojiFrom fuel cs, IsWide c := by
  fun_induction withEmojiFrom fuel cs with
  | case1 cs => exact .inl rfl
  | case2 fuel => exact .inl rfl
  | case3 fuel rest hnamed ih => exact append_eq_or_wide [':'] ih
  | case4 fuel rest name mark after hnamed written ih =>
      cases hpicture : emoji? name with
      | none =>
          have hrest : written ++ after = rest := take_append_after hnamed
          simpa [hrest] using append_eq_or_wide (':' :: written) ih
      | some picture =>
          obtain ⟨c, hc, hwide⟩ := exists_wide_of_emoji? hpicture
          exact .inr ⟨c, by simp [hc], hwide⟩
  | case5 fuel c rest hc ih => exact append_eq_or_wide [c] ih

/-- A text in which no picture is named stays as it is. -/
theorem withEmojiFrom_of_not_hasPicture (fuel : Nat) (h : ¬HasPicture cs) :
    withEmojiFrom fuel cs = cs := by
  fun_induction withEmojiFrom fuel cs with
  | case1 cs => rfl
  | case2 fuel => rfl
  | case3 fuel rest hnamed ih => rw [ih (mt (hasPicture_append [':']) h)]
  | case4 fuel rest name mark after hnamed written ih =>
      have hrest : written ++ after = rest := take_append_after hnamed
      cases hpicture : emoji? name with
      | none =>
          have hafter : ¬HasPicture after := by
            intro hafter
            refine h ?_
            rw [← hrest]
            exact hasPicture_append (':' :: written) hafter
          rw [ih hafter, List.cons_append, hrest]
      | some picture =>
          obtain ⟨ending, hending, heq⟩ := named?_eq_some hnamed
          exact absurd ⟨[], name, ending, after, by rw [heq, List.nil_append], hending,
            by rw [hpicture, Option.isSome_some]⟩ h
  | case5 fuel c rest hc ih => rw [ih (mt (hasPicture_append [c]) h)]

end LinkIndex.Report
