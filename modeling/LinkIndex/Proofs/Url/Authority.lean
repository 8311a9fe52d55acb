import LinkIndex.Proofs.Slug.Path
import LinkIndex.Url

/-!
Which URLs lead out, said by their authority. A URL of the web always has a scheme and is
never taken for the path of a drive, so it leads out just where it can be taken apart; and
whether it can be hangs on what stands between its two slashes and the next delimiter,
not on the path, the query or the fragment behind that.
-/

namespace LinkIndex

namespace Text

theorem startsWith_iff {start text : List Char} :
    startsWith start text = true ↔ ∃ rest, text = start ++ rest := by
  rw [startsWith, Option.isSome_iff_exists]
  exact exists_congr fun rest => dropPrefix?_eq_some_iff

end Text

namespace Url

def webSchemes : List String := ["http", "https"]

def IsOfWeb (u : String) : Prop :=
  ∃ s ∈ webSchemes, ∃ rest, u = s ++ "://" ++ rest

/-- What may stand behind an authority: nothing, or a path, a query or a fragment. -/
def IsTail (tail : String) : Prop :=
  ∀ c ∈ tail.toList.head?, endsAuthority c = true

instance : DecidablePred IsTail :=
  fun tail => decidable_of_iff (tail.toList.head?.all endsAuthority = true) (by
    cases h : tail.toList.head? <;> simp [IsTail, h])

def withoutDropped (text : String) : List Char :=
  text.toList.filter fun c => !isDropped c

variable {s rest a tail u : String} {c : Char}

/-! ### URLs of the web -/

theorem toList_web (s rest : String) :
    (s ++ "://" ++ rest).toList = s.toList ++ ':' :: '/' :: '/' :: rest.toList := by
  simp

theorem isHttp_iff : isHttp u.toList = true ↔ IsOfWeb u := by
  have hstart (s : String) : Text.startsWith (s ++ "://").toList u.toList = true ↔
      ∃ rest, u = s ++ "://" ++ rest := by
    rw [Text.startsWith_iff]
    constructor
    · rintro ⟨rest, hrest⟩
      refine ⟨String.ofList rest, ?_⟩
      rw [← String.toList_inj, hrest, String.toList_append (s := s ++ "://"), String.toList_ofList]
    · rintro ⟨rest, rfl⟩
      exact ⟨rest.toList, String.toList_append⟩
  rw [isHttp, Bool.or_eq_true, IsOfWeb, webSchemes, List.exists_mem_cons_iff,
    List.exists_mem_cons_iff]
  simpa using or_congr (hstart "http") (hstart "https")

/-- The colon of the scheme is no colon of a drive. -/
theorem isDrivePath_web (hs : s ∈ webSchemes) :
    isDrivePath (s ++ "://" ++ rest).toList = false := by
  rw [toList_web]
  obtain rfl | rfl := List.mem_pair.1 hs <;> rfl

theorem hasScheme_web (hs : s ∈ webSchemes) : hasScheme (s ++ "://" ++ rest).toList = true := by
  rw [toList_web]
  obtain rfl | rfl := List.mem_pair.1 hs <;> rfl

/-- The scheme and the two slashes are taken off whatever is dropped behind them. -/
theorem afterScheme_web (hs : s ∈ webSchemes) :
    afterScheme (cleaned (s ++ "://" ++ rest).toList) = '/' :: '/' :: withoutDropped rest := by
  rw [toList_web]
  obtain rfl | rfl := List.mem_pair.1 hs <;> rfl

theorem isExternal_iff : isExternal u.toList = true ↔ IsOfWeb u ∧ splits u.toList = true := by
  rw [isExternal, isAbsolute, Bool.and_eq_true, isHttp_iff]
  refine and_congr_right ?_
  rintro ⟨s, hs, rest, rfl⟩
  rw [isDrivePath_web hs, hasScheme_web hs]
  simp

theorem classify_eq_external_iff : classify u = .external ↔ IsOfWeb u ∧ splits u.toList = true := by
  rw [← isExternal_iff, classify]
  split
  · rename_i h
    simp [h]
  · rename_i h
    simp [h]

theorem classify_eq_internal_iff : classify u = .internal ↔ classify u ≠ .external := by
  cases classify u <;> simp

/-! ### Authorities -/

theorem not_isDropped_of_endsAuthority (hc : endsAuthority c = true) : isDropped c = false := by
  have hdelimiter : c = '/' ∨ c = '?' ∨ c = '#' := by simpa [endsAuthority, or_assoc] using hc
  rcases hdelimiter with rfl | rfl | rfl <;> rfl

/-- The authority ends where the tail begins. -/
theorem authority_web (hs : s ∈ webSchemes) (ha : ∀ c ∈ a.toList, endsAuthority c = false)
    (htail : IsTail tail) :
    authority (s ++ "://" ++ a ++ tail).toList = withoutDropped a := by
  have hinside : ∀ c ∈ withoutDropped a, (!endsAuthority c) = true := by
    intro c hc
    rw [ha c (List.mem_filter.1 hc).1]
    rfl
  have hstop : (withoutDropped tail).takeWhile (fun c => !endsAuthority c) = [] := by
    rw [withoutDropped]
    cases hchars : tail.toList with
    | nil => rfl
    | cons c rest =>
        have hc := htail c (by rw [hchars]; exact Option.mem_some_self c)
        rw [List.filter_cons, not_isDropped_of_endsAuthority hc]
        simp [hc]
  have hrest : s ++ "://" ++ a ++ tail = s ++ "://" ++ (a ++ tail) := String.append_assoc
  have hsplit : withoutDropped (a ++ tail) = withoutDropped a ++ withoutDropped tail := by
    rw [withoutDropped, String.toList_append, List.filter_append, withoutDropped, withoutDropped]
  rw [hrest, authority, afterScheme_web hs, hsplit]
  simp only
  rw [List.takeWhile_append_of_pos hinside, hstop, List.append_nil]

theorem classify_web_iff (hs : s ∈ webSchemes) (ha : ∀ c ∈ a.toList, endsAuthority c = false)
    (htail : IsTail tail) :
    classify (s ++ "://" ++ a ++ tail) = .external ↔ authorityOk (withoutDropped a) = true := by
  have hweb : IsOfWeb (s ++ "://" ++ a ++ tail) := ⟨s, hs, a ++ tail, String.append_assoc⟩
  rw [classify_eq_external_iff, splits, authority_web hs ha htail]
  exact and_iff_right hweb

/-- The characters that stand for a delimiter once they are normalised are outside of ASCII. -/
theorem not_hidesDelimiter (hc : c.toNat < 0x80) : hidesDelimiter c = false := by
  rw [← Bool.not_eq_true, hidesDelimiter, List.contains_iff_mem]
  intro hmem
  revert hc
  generalize c.toNat = n at hmem
  revert n
  decide

theorem mem_withoutDropped (hc : isDropped c = false) : c ∈ withoutDropped a ↔ c ∈ a.toList := by
  simp [withoutDropped, List.mem_filter, hc]

theorem authorityOk_of_plain (hascii : ∀ c ∈ a.toList, c.toNat < 0x80) (hopen : '[' ∉ a.toList)
    (hclose : ']' ∉ a.toList) : authorityOk (withoutDropped a) = true := by
  have hplain : (withoutDropped a).any hidesDelimiter = false := by
    rw [List.any_eq_false]
    intro c hc
    rw [not_hidesDelimiter (hascii c (List.mem_filter.1 hc).1)]
    exact Bool.false_ne_true
  rw [← mem_withoutDropped rfl] at hopen hclose
  rw [authorityOk, hplain, bracketsOk, if_neg hopen]
  simpa using hclose

theorem not_authorityOk_of_lone_bracket
    (h : ('[' ∈ a.toList ∧ ']' ∉ a.toList) ∨ (']' ∈ a.toList ∧ '[' ∉ a.toList)) :
    authorityOk (withoutDropped a) = false := by
  rw [← mem_withoutDropped (c := '[') rfl, ← mem_withoutDropped (c := ']') rfl] at h
  rw [authorityOk, bracketsOk]
  rcases h with ⟨hopen, hclose⟩ | ⟨hclose, hopen⟩ <;> simp [hopen, hclose]

/-- A URL leads out just where it begins as one of the web and can be taken apart: it is then
never the path of a drive, and has a scheme. It can be taken apart where its authority is
sound, whatever stands behind that. In ASCII an authority without brackets is sound, and
nowhere is one with brackets of one kind only. -/
theorem classify_exact :
    (∀ u : String, classify u = .external ↔ IsOfWeb u ∧ splits u.toList = true) ∧
    (∀ u : String, IsOfWeb u → isDrivePath u.toList = false ∧ hasScheme u.toList = true) ∧
    ∀ s ∈ webSchemes, ∀ a : String, (∀ c ∈ a.toList, endsAuthority c = false) →
      (∀ t t' : String, IsTail t → IsTail t' →
        classify (s ++ "://" ++ a ++ t) = classify (s ++ "://" ++ a ++ t')) ∧
      ∀ t : String, IsTail t →
        (classify (s ++ "://" ++ a ++ t) = .external ↔ authorityOk (withoutDropped a) = true) ∧
        ((∀ c ∈ a.toList, c.toNat < 0x80) → '[' ∉ a.toList → ']' ∉ a.toList →
          classify (s ++ "://" ++ a ++ t) = .external) ∧
        (('[' ∈ a.toList ∧ ']' ∉ a.toList) ∨ (']' ∈ a.toList ∧ '[' ∉ a.toList) →
          classify (s ++ "://" ++ a ++ t) = .internal) := by
  refine ⟨fun u => classify_eq_external_iff, ?recognisers, fun s hs a ha => ⟨?tails, ?authorities⟩⟩
  case recognisers =>
    rintro u ⟨s, hs, rest, rfl⟩
    exact ⟨isDrivePath_web hs, hasScheme_web hs⟩
  case tails =>
    intro t t' ht ht'
    have hsame : classify (s ++ "://" ++ a ++ t) = .external ↔
        classify (s ++ "://" ++ a ++ t') = .external := by
      rw [classify_web_iff hs ha ht, classify_web_iff hs ha ht']
    cases hkind : classify (s ++ "://" ++ a ++ t) with
    | external => rw [hsame.1 hkind]
    | internal =>
        rw [classify_eq_internal_iff, Ne, hsame] at hkind
        exact (classify_eq_internal_iff.2 hkind).symm
  case authorities =>
    intro t ht
    refine ⟨classify_web_iff hs ha ht, ?_, ?_⟩
    · intro hascii hopen hclose
      rw [classify_web_iff hs ha ht]
      exact authorityOk_of_plain hascii hopen hclose
    · intro hlone
      rw [classify_eq_internal_iff, Ne, classify_web_iff hs ha ht,
        not_authorityOk_of_lone_bracket hlone]
      exact Bool.false_ne_true

/-- An address in brackets leads out whatever brackets follow it, one bracket does not, and a
host of another script leads where it leads without a path. -/
theorem classify_exact_hosts :
    classify "http://[::1]:80/a]" = .external ∧
      (('[' ∈ "a[b".toList ∧ ']' ∉ "a[b".toList) ∧ classify "http://a[b/]" = .internal) ∧
      (∀ c ∈ "bücher".toList, endsAuthority c = false) ∧
      classify "https://bücher/[a:b" = classify "https://bücher" := by
  obtain ⟨-, -, hweb⟩ := classify_exact
  have hpath : ∀ t ∈ ["/a]", "/]", "/[a:b", ""], IsTail t := by
    decide +kernel
  have hlone : '[' ∈ "a[b".toList ∧ ']' ∉ "a[b".toList := by decide +kernel
  have hhost : ∀ c ∈ "bücher".toList, endsAuthority c = false := by simp [endsAuthority]
  have haddress := (hweb "http" (by simp [webSchemes]) "[::1]:80" (by simp [endsAuthority])).2
    "/a]" (hpath _ (by simp))
  have hbracket := (hweb "http" (by simp [webSchemes]) "a[b" (by simp [endsAuthority])).2
    "/]" (hpath _ (by simp))
  have hscript := (hweb "https" (by simp [webSchemes]) "bücher" hhost).1
    "/[a:b" "" (hpath _ (by simp)) (hpath _ (by simp))
  exact ⟨haddress.1.2 (by decide +kernel), ⟨hlone, hbracket.2.2 (.inl hlone)⟩, hhost, hscript⟩

end Url

end LinkIndex
