import LinkIndex.Corpus.Reading
import LinkIndex.Proofs.Json.RoundTrip
import LinkIndex.Proofs.Text.Lines

/-!
Splitting a document into its frontmatter and its body. The lines of a document with a
block are the opening delimiter, the lines of the block, the delimiter that closes it and
the lines of the body; a document without a block is its own body.
-/

namespace LinkIndex

open Text Corpus

theorem Text.trim_append_blank {c : Char} (hc : isBlank c = true) (line : List Char) :
    trim (line ++ [c]) = trim line := by
  simp only [trim, trimStartBy, trimEndBy, List.dropWhile_append]
  split
  next hempty => simp [List.isEmpty_iff.1 hempty, hc]
  next => simp [hc]

namespace Frontmatter

/-- A carriage return at the end of a line does not hide a delimiter. -/
theorem isDelimiter_eq_of_isJoined {line joined : List Char} (h : IsJoined line joined) :
    isDelimiter line = isDelimiter joined := by
  rcases h with rfl | rfl
  · rfl
  · rw [isDelimiter, isDelimiter, trim_append_blank (by decide)]

theorem cutAtDelimiter_eq_some_iff {ls block body : List (List Char)} :
    cutAtDelimiter ls = some (block, body) ↔
      ∃ closing, ls = block ++ closing :: body ∧ isDelimiter closing = true ∧
        ∀ line ∈ block, isDelimiter line = false := by
  induction ls generalizing block with
  | nil => simp [cutAtDelimiter]
  | cons line ls ih =>
      rw [cutAtDelimiter]
      cases hline : isDelimiter line with
      | true =>
          rw [if_pos rfl, Option.some.injEq, Prod.mk.injEq]
          constructor
          · rintro ⟨rfl, rfl⟩
            exact ⟨line, rfl, hline, by simp⟩
          · rintro ⟨closing, heq, -, hblock⟩
            -- a block that is not empty would start with the delimiter
            cases block with
            | nil => exact ⟨rfl, (List.cons.inj heq).2⟩
            | cons first block =>
                have hfirst := hblock first (by simp)
                rw [← (List.cons.inj heq).1, hline] at hfirst
                contradiction
      | false =>
          rw [if_neg Bool.false_ne_true]
          constructor
          · intro h
            obtain ⟨⟨inner, rest⟩, hcut, hpair⟩ := Option.map_eq_some_iff.1 h
            obtain ⟨rfl, rfl⟩ := Prod.mk.inj hpair
            obtain ⟨closing, rfl, hclosing, hinner⟩ := ih.1 hcut
            exact ⟨closing, rfl, hclosing, List.forall_mem_cons.2 ⟨hline, hinner⟩⟩
          · rintro ⟨closing, heq, hclosing, hblock⟩
            cases block with
            | nil =>
                rw [(List.cons.inj heq).1, hclosing] at hline
                contradiction
            | cons first block =>
                obtain ⟨rfl, rfl⟩ := List.cons.inj heq
                have hcut := ih.2 ⟨closing, rfl, hclosing, (List.forall_mem_cons.1 hblock).2⟩
                rw [hcut]
                rfl

theorem cutAtDelimiter_eq_none_iff {ls : List (List Char)} :
    cutAtDelimiter ls = none ↔ ∀ line ∈ ls, isDelimiter line = false := by
  induction ls with
  | nil => simp [cutAtDelimiter]
  | cons line ls ih => cases hline : isDelimiter line <;> simp [cutAtDelimiter, hline, ih]

/-- A document starts with a block: its first line is a delimiter, and a later one is. -/
def HasBlock (content : List Char) : Prop :=
  ∃ opening rest, lines content = opening :: rest ∧ isDelimiter opening = true ∧
    ∃ closing ∈ rest, isDelimiter closing = true

theorem hasBlock_iff {content : List Char} :
    HasBlock content ↔ ((lines content).map isDelimiter).head? = some true ∧
      true ∈ ((lines content).map isDelimiter).tail := by
  rw [HasBlock]
  cases lines content with
  | nil => simp
  | cons opening rest => simp

instance (content : List Char) : Decidable (HasBlock content) :=
  decidable_of_iff' _ hasBlock_iff

theorem map_isDelimiter_joinCrLf (content : List Char) :
    (lines (joinCrLf content)).map isDelimiter = (lines content).map isDelimiter := by
  have h := (lines_joinCrLf content).imp fun _ _ => isDelimiter_eq_of_isJoined
  rw [← List.forall₂_eq_eq_eq, List.forall₂_map_left_iff, List.forall₂_map_right_iff]
  exact (List.Forall₂.flip h).imp fun _ _ => Eq.symm

/-- The ends of lines do not matter to where a block is. -/
theorem hasBlock_joinCrLf {content : List Char} :
    HasBlock (joinCrLf content) ↔ HasBlock content := by
  rw [hasBlock_iff, hasBlock_iff, map_isDelimiter_joinCrLf]

/-- A splitting of lines: the opening delimiter, a block without delimiters, the delimiter
that closes it, and the body. -/
structure IsSplit (ls : List (List Char)) (opening : List Char) (block : List (List Char))
    (closing : List Char) (body : List (List Char)) : Prop where
  eq_append : ls = opening :: block ++ closing :: body
  opens : isDelimiter opening = true
  closes : isDelimiter closing = true
  block_plain : ∀ line ∈ block, isDelimiter line = false

/-- Only one splitting is found, the first. -/
theorem IsSplit.split?_eq {content : List Char} {opening closing : List Char}
    {block body : List (List Char)}
    (h : IsSplit (lines (joinCrLf content)) opening block closing body) :
    split? content = some (unlines block, unlines body) := by
  have hcut : cutAtDelimiter (block ++ closing :: body) = some (block, body) :=
    cutAtDelimiter_eq_some_iff.2 ⟨closing, rfl, h.closes, h.block_plain⟩
  rw [split?, h.eq_append, List.cons_append]
  simp only [h.opens, if_true, hcut, Option.map_some]

theorem exists_isSplit_of_hasBlock {content : List Char} (h : HasBlock content) :
    ∃ opening block closing body,
      IsSplit (lines (joinCrLf content)) opening block closing body := by
  obtain ⟨opening, rest, hlines, hopening, closing, hmem, hclosing⟩ := hasBlock_joinCrLf.2 h
  cases hcut : cutAtDelimiter rest with
  | none =>
      rw [cutAtDelimiter_eq_none_iff.1 hcut closing hmem] at hclosing
      contradiction
  | some pair =>
      obtain ⟨block, body⟩ := pair
      obtain ⟨first, rfl, hfirst, hblock⟩ := cutAtDelimiter_eq_some_iff.1 hcut
      exact ⟨opening, block, first, body, hlines, hopening, hfirst, hblock⟩

theorem split?_eq_none {content : List Char} (h : ¬HasBlock content) : split? content = none := by
  rw [← hasBlock_joinCrLf] at h
  rw [split?]
  split
  · rfl
  next first rest hlines =>
    split
    · rename_i hfirst
      have hrest : cutAtDelimiter rest = none := by
        rw [cutAtDelimiter_eq_none_iff]
        intro line hline
        by_contra hdelimiter
        exact h ⟨first, rest, hlines, hfirst, line, hline, by simpa using hdelimiter⟩
      rw [hrest]
      rfl
    · rfl

theorem parse_of_split? {content block body : List Char}
    (h : split? content = some (block, body)) :
    parse content = (load block).map (·, body) := by
  simp only [parse, h]
  cases load block <;> rfl

theorem parse_of_not_hasBlock {content : List Char} (h : ¬HasBlock content) :
    parse content = .ok ([], content) := by
  rw [parse, split?_eq_none h]

/-- A document made of a block and a body. -/
def compose (block body : List Char) : List Char :=
  delimiter ++ '\n' :: block ++ '\n' :: delimiter ++ '\n' :: body

theorem isSplit_compose {block : List Char} (hreturn : '\r' ∉ block)
    (hplain : ∀ line ∈ lines block, isDelimiter line = false) (body : List Char) :
    IsSplit (lines (joinCrLf (compose block body))) delimiter (lines block) delimiter
      (lines (joinCrLf body)) where
  eq_append := by
    have hjoin : joinCrLf (compose block body) = compose block (joinCrLf body) := by
      have hreturns : '\r' ∉ delimiter ++ '\n' :: block ++ '\n' :: delimiter ++ ['\n'] := by
        simp [hreturn, delimiter]
      simpa [compose] using joinCrLf_append hreturns body
    have hdelimiter : lines delimiter = [delimiter] := lines_of_not_mem (by decide)
    rw [hjoin]
    simp only [compose, List.append_assoc, List.cons_append, lines_append_feed, hdelimiter]
    rfl
  opens := by decide
  closes := by decide
  block_plain := hplain

theorem parse_compose {block : List Char} (hreturn : '\r' ∉ block)
    (hplain : ∀ line ∈ lines block, isDelimiter line = false) (body : List Char) :
    parse (compose block body) = (load block).map (·, joinCrLf body) := by
  have h := parse_of_split? (isSplit_compose hreturn hplain body).split?_eq
  rwa [unlines_lines, unlines_lines] at h

/-- A block that stands in a tree is loaded as it is in front of a body. -/
theorem readTreeDocument_eq_parse_compose {disk : Disk} {cwd : Location} {path : Path}
    {block : List Char} {before after : List Tree} (hreturn : '\r' ∉ block)
    (hplain : ∀ line ∈ lines block, isDelimiter line = false) (body : List Char)
    (htree : readTree disk cwd path =
      .ok (.root (before ++ .leaf (.literal "yaml" (String.ofList block)) :: after)))
    (hbefore : yamlBlock? before = none) :
    (readTreeDocument disk cwd path).map (·.1) =
      ((parse (compose block body)).map (·.1)).mapError .frontmatter := by
  have hblock : yamlBlock? (before ++ .leaf (.literal "yaml" (String.ofList block)) :: after) =
      some (String.ofList block) := by
    rw [yamlBlock?, List.findSome?_append, ← yamlBlock?, hbefore]
    rfl
  rw [parse_compose hreturn hplain, readTreeDocument, htree]
  simp only [treeFrontmatter, Tree.root, topLevel, hblock, String.toList_ofList]
  cases load block <;> rfl

/-- Splitting loses nothing. A block between two delimiter lines is loaded as it is and as
a tree that holds it is, and the body keeps all but the carriage returns of its line
endings. A document without a block is its own body, and the lines of any other one are its
two delimiters, its block and its body. -/
theorem split_faithful :
    (∀ block body : List Char, '\r' ∉ block → (∀ line ∈ lines block, isDelimiter line = false) →
      parse ("---\n".toList ++ block ++ "\n---\n".toList ++ body) =
          (load block).map (·, joinCrLf body) ∧
        ∀ (disk : Disk) (cwd : Location) (path : Path) (before after : List Tree),
          readTree disk cwd path =
            .ok (.root (before ++ .leaf (.literal "yaml" (String.ofList block)) :: after)) →
          yamlBlock? before = none →
          (readTreeDocument disk cwd path).map (·.1) =
            ((parse ("---\n".toList ++ block ++ "\n---\n".toList ++ body)).map (·.1)).mapError
              .frontmatter) ∧
    (∀ content : List Char, ¬HasBlock content → parse content = .ok ([], content)) ∧
    ∀ content : List Char, HasBlock content →
      ∃ opening block closing body,
        IsSplit (lines (joinCrLf content)) opening block closing body ∧
          unlines (opening :: block ++ closing :: body) = joinCrLf content ∧
          parse content = (load (unlines block)).map (·, unlines body) := by
  have hcompose (block body : List Char) :
      "---\n".toList ++ block ++ "\n---\n".toList ++ body = compose block body := by
    simp [compose, delimiter]
  refine ⟨?block, fun content => parse_of_not_hasBlock, ?rest⟩
  case block =>
    intro block body hreturn hplain
    rw [hcompose]
    exact ⟨parse_compose hreturn hplain body, fun disk cwd path before after =>
      readTreeDocument_eq_parse_compose hreturn hplain body⟩
  case rest =>
    intro content h
    obtain ⟨opening, block, closing, body, hsplit⟩ := exists_isSplit_of_hasBlock h
    refine ⟨opening, block, closing, body, hsplit, ?_, parse_of_split? hsplit.split?_eq⟩
    rw [← hsplit.eq_append, unlines_lines]

/-- A tree with a block below its root, as JSON. -/
def draftJson : Json :=
  .obj [("type", .str "root"),
    ("children", .arr [.obj [("type", .str "yaml"), ("value", .str "draft: true")]])]

def draftText : List Char :=
  "\x7b
  \"type\": \"root\",
  \"children\": [
    \x7b
      \"type\": \"yaml\",
      \"value\": \"draft: true\"
    \x7d
  ]
\x7d".toList

def draftTree : Disk where
  entries := [(["a.mdast.json"], .file (Utf8.encode draftText))]

theorem isTextual_draftJson : draftJson.IsTextual := by
  refine .obj (by decide) ?_
  simp only [List.forall_mem_cons, List.not_mem_nil, false_implies, implies_true, and_true]
  refine ⟨.str _, .arr ?_⟩
  simp only [List.mem_singleton, forall_eq]
  refine .obj (by decide) ?_
  simp only [List.forall_mem_cons, List.not_mem_nil, false_implies, implies_true, and_true]
  exact ⟨.str _, .str _⟩

theorem readTree_draftTree :
    readTree draftTree [] (.ofString "a.mdast.json") =
      .ok (.root ([] ++ .leaf (.literal "yaml" (String.ofList "draft: true".toList)) :: [])) := by
  have htext : readText draftTree [] (.ofString "a.mdast.json") = .ok draftText := by rfl
  have hprinted : draftJson.indented.toList = draftText := by decide +kernel
  have hparse : Json.parse draftText = .ok draftJson := by
    rw [← hprinted, ← List.append_nil draftJson.indented.toList]
    exact isTextual_draftJson.parse_indented (List.forall_mem_nil _)
  rw [readTree, htext]
  simp only [treeOfText, hparse]
  rfl

theorem split_faithful_draft :
    '\r' ∉ "draft: true".toList ∧
    (∀ line ∈ lines "draft: true".toList, isDelimiter line = false) ∧
    readTree draftTree [] (.ofString "a.mdast.json") =
      .ok (.root ([] ++ .leaf (.literal "yaml" (String.ofList "draft: true".toList)) :: [])) ∧
    (readTreeDocument draftTree [] (.ofString "a.mdast.json")).map (·.1) =
      ((parse ("---\n".toList ++ "draft: true".toList ++ "\n---\n".toList ++
        "a\r\n---\nb".toList)).map (·.1)).mapError .frontmatter ∧
    ¬HasBlock "a\n---\n---".toList ∧
    parse "a\n---\n---".toList = .ok ([], "a\n---\n---".toList) ∧
    HasBlock " --- \r\n---\t".toList ∧
    ∃ opening block closing body,
      IsSplit (lines (joinCrLf " --- \r\n---\t".toList)) opening block closing body ∧
        unlines (opening :: block ++ closing :: body) = joinCrLf " --- \r\n---\t".toList ∧
        parse " --- \r\n---\t".toList = (load (unlines block)).map (·, unlines body) := by
  have hreturn : '\r' ∉ "draft: true".toList := by decide
  have hplain : ∀ line ∈ lines "draft: true".toList, isDelimiter line = false := by decide
  have hnone : ¬HasBlock "a\n---\n---".toList := by decide
  have hsome : HasBlock " --- \r\n---\t".toList := by decide
  have htree := split_faithful.1 _ "a\r\n---\nb".toList hreturn hplain
  exact ⟨hreturn, hplain, readTree_draftTree, htree.2 _ _ _ _ _ readTree_draftTree rfl, hnone,
    split_faithful.2.1 _ hnone, hsome, split_faithful.2.2 _ hsome⟩

end Frontmatter

end LinkIndex
