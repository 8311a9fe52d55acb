import LinkIndex.Proofs.Frontmatter.Split

/-!
Line endings and frontmatter. A document with a carriage return in front of every line feed
has the same lines once pairs are joined, and only these lines are looked at, so it has the
same block and the same body. Only a document without a block comes back as it was written.
-/

namespace LinkIndex

namespace Text

/-- Writes every line feed as a pair of a carriage return and a line feed. -/
def pairLineFeeds (text : List Char) : List Char :=
  text.flatMap fun c => if c = '\n' then ['\r', '\n'] else [c]

theorem joinCrLf_of_not_mem {text : List Char} (h : '\r' ∉ text) : joinCrLf text = text := by
  simpa [joinCrLf] using joinCrLf_append h []

/-- Joining pairs takes back what writing them has done. -/
theorem joinCrLf_pairLineFeeds {text : List Char} (h : '\r' ∉ text) :
    joinCrLf (pairLineFeeds text) = text := by
  induction text with
  | nil => rfl
  | cons c rest ih =>
      rw [List.mem_cons, not_or] at h
      rw [pairLineFeeds, List.flatMap_cons, ← pairLineFeeds]
      split
      · next hc =>
          rw [hc, List.cons_append, List.singleton_append, joinCrLf, ih h.2]
      · rw [joinCrLf_append (by simpa using h.1), ih h.2, List.singleton_append]

end Text

namespace Frontmatter

open Text

/-- Documents that are the same once pairs are joined have the same block and the same body. -/
theorem split?_congr {content content' : List Char} (h : joinCrLf content = joinCrLf content') :
    split? content = split? content' := by
  rw [split?, split?, h]

/-- Line endings do not change frontmatter. Where a document without carriage returns has a
block, it has the same block and the same body with every line feed written as a pair, so both
are read as the same frontmatter or refused for the same reason. Where it has none, neither is
taken apart, and the document with pairs is its own body, pairs and all. -/
theorem parse_pairLineFeeds {content : List Char} (hreturn : '\r' ∉ content) :
    let paired := pairLineFeeds content
    (HasBlock content → ∃ block body,
      (split? content = some (block, body) ∧ split? paired = some (block, body)) ∧
        parse content = (load block).map (·, body) ∧
          parse paired = (load block).map (·, body)) ∧
      (¬HasBlock content → (split? content = none ∧ split? paired = none) ∧
        parse paired = .ok ([], paired)) := by
  intro paired
  have hjoined : joinCrLf paired = joinCrLf content := by
    rw [joinCrLf_pairLineFeeds hreturn, joinCrLf_of_not_mem hreturn]
  constructor
  · intro hblock
    obtain ⟨opening, block, closing, body, hsplit⟩ := exists_isSplit_of_hasBlock hblock
    have hcontent := hsplit.split?_eq
    have hpaired := (split?_congr hjoined).trans hcontent
    exact ⟨unlines block, unlines body, ⟨hcontent, hpaired⟩, parse_of_split? hcontent,
      parse_of_split? hpaired⟩
  · intro hnone
    have hpaired : ¬HasBlock paired := by
      rwa [← hasBlock_joinCrLf, hjoined, hasBlock_joinCrLf]
    exact ⟨⟨split?_eq_none hnone, split?_eq_none hpaired⟩, parse_of_not_hasBlock hpaired⟩

/-- A block that ends at the last line, and one that is never closed. -/
theorem parse_pairLineFeeds_lastLine :
    ('\r' ∉ "--- \ndraft: true\n---".toList ∧ HasBlock "--- \ndraft: true\n---".toList ∧
      parse "--- \r\ndraft: true\r\n---".toList = parse "--- \ndraft: true\n---".toList) ∧
    '\r' ∉ "---\ndraft: true\n".toList ∧ ¬HasBlock "---\ndraft: true\n".toList ∧
      parse "---\r\ndraft: true\r\n".toList = .ok ([], "---\r\ndraft: true\r\n".toList) := by
  have hclosed : '\r' ∉ "--- \ndraft: true\n---".toList := by decide
  have hblock : HasBlock "--- \ndraft: true\n---".toList := by decide
  have hopen : '\r' ∉ "---\ndraft: true\n".toList := by decide
  have hnone : ¬HasBlock "---\ndraft: true\n".toList := by decide
  obtain ⟨block, body, -, hparse, hpaired⟩ := (parse_pairLineFeeds hclosed).1 hblock
  exact ⟨⟨hclosed, hblock, hpaired.trans hparse.symm⟩, hopen, hnone,
    ((parse_pairLineFeeds hopen).2 hnone).2⟩

end Frontmatter

end LinkIndex
