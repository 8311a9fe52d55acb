import LinkIndex.Corpus.Scan

/-!
Which documents a scan gets over. A file that cannot be read is told of and
passed over, with one kind of exception: text that is well formed and holds a
value that denotes nothing, such as a date that no calendar has, or a number too
long to be read. The first such document ends the scan, and nothing else does.

`StopsScan` says what these documents are, by the text they hold. The rest of
the module follows the loop: without them a scan comes to its end, and it is
then the scan of the documents that could be read, with a warning for each file
that could not.
-/

namespace LinkIndex

theorem Frontmatter.load_eq_error_iff (block : List Char) (e : Yaml.Error) :
    load block = .error e ↔ Yaml.parse block = .error e := by
  rw [load]
  split <;> simp_all

theorem Frontmatter.parse_eq_error_iff (content : List Char) (e : Yaml.Error) :
    parse content = .error e ↔
      ∃ block body, split? content = some (block, body) ∧ Yaml.parse block = .error e := by
  rw [parse]
  cases hsplit : split? content with
  | none => simp
  | some parts =>
      obtain ⟨block, body⟩ := parts
      have hload := load_eq_error_iff block e
      cases hblock : load block with
      | ok frontmatter => simpa [hblock] using hload
      | error e' => simpa [hblock] using hload

namespace Corpus

/-! ### Documents that end a scan -/

/-- A document that ends a scan, and the failure that it ends it with. -/
inductive StopsScan (disk : Disk) (cwd : Location) (path : Path) : ReadError → Prop
  /-- A number in a tree file has more digits than are read. -/
  | number {text : List Char} {n : Nat} (htree : isTreeFile path.name = true)
      (htext : readText disk cwd path = .ok text)
      (hjson : Json.parse text = .error (.tooManyDigits n)) :
      StopsScan disk cwd path (.tooManyDigits n)
  /-- The first YAML leaf of a tree holds a value that denotes nothing. -/
  | yamlLeaf {text : List Char} {v : Json} {children : List Tree} {block : String}
      {e : Yaml.Error} (htree : isTreeFile path.name = true)
      (htext : readText disk cwd path = .ok text) (hjson : Json.parse text = .ok v)
      (hroot : Tree.ofJson v = .ok (.root children)) (hblock : yamlBlock? children = some block)
      (hyaml : Yaml.parse block.toList = .error e) (he : e ≠ .malformed) :
      StopsScan disk cwd path (.frontmatter e)
  /-- The block in front of a markdown file holds a value that denotes nothing. -/
  | yamlBlock {text block body : List Char} {e : Yaml.Error}
      (hmarkdown : isTreeFile path.name = false) (htext : readText disk cwd path = .ok text)
      (hsplit : Frontmatter.split? text = some (block, body))
      (hyaml : Yaml.parse block = .error e) (he : e ≠ .malformed) :
      StopsScan disk cwd path (.frontmatter e)
  /-- A destination or a title in a markdown file holds a character reference with more digits
  than are read. -/
  | reference {text body : List Char} {frontmatter : Frontmatter} {overlong : Html.Overlong}
      (hmarkdown : isTreeFile path.name = false) (htext : readText disk cwd path = .ok text)
      (hparts : Frontmatter.parse text = .ok (frontmatter, body))
      (hbody : Markdown.parse (String.ofList body) = .error overlong) :
      StopsScan disk cwd path (.tooManyDigits overlong.digits)

theorem isTold_of_readText {disk : Disk} {cwd : Location} {path : Path} {e : ReadError}
    (htext : readText disk cwd path = .error e) : e.isTold = true := by
  rw [readText] at htext
  split at htext
  · cases htext
    rfl
  · split at htext
    · cases htext
      rfl
    · cases htext

theorem isTold_frontmatter_iff (e : Yaml.Error) :
    (ReadError.frontmatter e).isTold = false ↔ e ≠ .malformed := by
  simp [ReadError.isTold]

/-- A tree file is refused without a word only for the digits of a number. -/
theorem treeOfText_untold_iff (path : Path) (text : List Char) (e : ReadError) :
    (treeOfText path text = .error e ∧ e.isTold = false) ↔
      ∃ n, Json.parse text = .error (.tooManyDigits n) ∧ e = .tooManyDigits n := by
  rw [treeOfText]
  cases Json.parse text with
  | error fault =>
      cases fault with
      | malformed fault =>
          simp only [Except.error.injEq, reduceCtorEq, false_and, exists_false, iff_false]
          rintro ⟨rfl, htold⟩
          simp [ReadError.isTold] at htold
      | tooManyDigits n =>
          constructor
          · rintro ⟨⟨⟩, -⟩
            exact ⟨n, rfl, rfl⟩
          · rintro ⟨m, ⟨⟩, rfl⟩
            exact ⟨rfl, rfl⟩
  | ok v =>
      -- The text is JSON, and every fault of a tree is told.
      simp only [reduceCtorEq, false_and, exists_false, iff_false]
      rintro ⟨htree, htold⟩
      split at htree <;> cases htree <;> simp [ReadError.isTold] at htold

theorem treeOfText_eq_ok_iff (path : Path) (text : List Char) (t : Tree) :
    treeOfText path text = .ok t ↔
      ∃ v children, Json.parse text = .ok v ∧ Tree.ofJson v = .ok (.root children) ∧
        t = .root children := by
  rw [treeOfText]
  cases Json.parse text with
  | error fault => cases fault <;> simp
  | ok v =>
      simp only [Except.ok.injEq, exists_and_left, exists_eq_left']
      cases hroot : Tree.ofJson v with
      | error fault => simp
      | ok t' =>
          cases t' with
          | leaf l => simp [Tree.root]
          | element e children =>
              cases e with
              | root => simp [Tree.root, eq_comm]
              | _ => simp [Tree.root]

variable {disk : Disk} {cwd : Location} {path : Path} {e : ReadError}

theorem readTree_eq_ok_iff (t : Tree) :
    readTree disk cwd path = .ok t ↔
      ∃ text v children, readText disk cwd path = .ok text ∧ Json.parse text = .ok v ∧
        Tree.ofJson v = .ok (.root children) ∧ t = .root children := by
  rw [readTree]
  cases readText disk cwd path with
  | error e => simp
  | ok text => simp [treeOfText_eq_ok_iff]

theorem readMarkdown_eq_ok_iff {parts : Frontmatter × List Char} :
    readMarkdown disk cwd path = .ok parts ↔
      ∃ text, readText disk cwd path = .ok text ∧ Frontmatter.parse text = .ok parts := by
  rw [readMarkdown]
  cases readText disk cwd path with
  | error e => simp
  | ok text =>
      simp only [Except.ok.injEq, exists_eq_left']
      cases Frontmatter.parse text with
      | error e =>
          show Except.error (ReadError.frontmatter e) = Except.ok parts ↔ _
          simp
      | ok parts' =>
          show (Except.ok parts' : Except ReadError _) = Except.ok parts ↔ _
          simp

theorem StopsScan.reads (h : StopsScan disk cwd path e) :
    readDocument disk cwd path = .error e ∧ e.isTold = false := by
  cases h with
  | @number text n htree htext hjson =>
      have hread := ((treeOfText_untold_iff path text _).2 ⟨n, hjson, rfl⟩).1
      exact ⟨by simp [readDocument, htree, readTreeDocument, readTree, htext, hread], rfl⟩
  | @yamlLeaf text v children block e htree htext hjson hroot hblock hyaml he =>
      have hread := (readTree_eq_ok_iff _).2 ⟨text, v, children, htext, hjson, hroot, rfl⟩
      have hload := (Frontmatter.load_eq_error_iff block.toList e).2 hyaml
      refine ⟨?_, (isTold_frontmatter_iff e).2 he⟩
      simp [readDocument, htree, readTreeDocument, hread, treeFrontmatter, Tree.root, topLevel,
        hblock, hload]
  | @yamlBlock text block body e hmarkdown htext hsplit hyaml he =>
      have hparse := (Frontmatter.parse_eq_error_iff text e).2 ⟨block, body, hsplit, hyaml⟩
      have hread : readMarkdown disk cwd path = .error (.frontmatter e) := by
        rw [readMarkdown, htext]
        simp only [hparse]
        rfl
      exact ⟨by simp [readDocument, hmarkdown, hread], (isTold_frontmatter_iff e).2 he⟩
  | @reference text body frontmatter overlong hmarkdown htext hparts hbody =>
      have hread : readMarkdown disk cwd path = .ok (frontmatter, body) :=
        readMarkdown_eq_ok_iff.2 ⟨text, htext, hparts⟩
      exact ⟨by simp [readDocument, hmarkdown, hread, hbody], rfl⟩

/-- A failure of which nothing is told comes from the text of a file. -/
theorem exists_text_of_untold {α : Type} {use : List Char → Except ReadError α}
    (hread : (match readText disk cwd path with
      | .error e => Except.error e
      | .ok text => use text) = .error e) (htold : e.isTold = false) :
    ∃ text, readText disk cwd path = .ok text ∧ use text = .error e := by
  cases htext : readText disk cwd path with
  | ok text => exact ⟨text, rfl, by simpa [htext] using hread⟩
  | error e' =>
      simp only [htext, Except.error.injEq] at hread
      rw [← hread, isTold_of_readText htext] at htold
      contradiction

theorem stopsScan_of_readMarkdown (hmarkdown : isTreeFile path.name = false)
    (hread : readMarkdown disk cwd path = .error e) (htold : e.isTold = false) :
    StopsScan disk cwd path e := by
  obtain ⟨text, htext, hparts⟩ := exists_text_of_untold hread htold
  cases hparse : Frontmatter.parse text with
  | ok parts =>
      rw [hparse] at hparts
      cases hparts
  | error e' =>
      rw [hparse] at hparts
      obtain rfl : .frontmatter e' = e := Except.error.inj hparts
      obtain ⟨block, body, hsplit, hyaml⟩ := (Frontmatter.parse_eq_error_iff text e').1 hparse
      exact .yamlBlock hmarkdown htext hsplit hyaml ((isTold_frontmatter_iff e').1 htold)

theorem stopsScan_of_readTree (htree : isTreeFile path.name = true)
    (hread : readTree disk cwd path = .error e) (htold : e.isTold = false) :
    StopsScan disk cwd path e := by
  obtain ⟨text, htext, htree'⟩ := exists_text_of_untold hread htold
  obtain ⟨n, hjson, rfl⟩ := (treeOfText_untold_iff path text e).1 ⟨htree', htold⟩
  exact .number htree htext hjson

theorem stopsScan_of_readTreeDocument (htree : isTreeFile path.name = true)
    (hread : readTreeDocument disk cwd path = .error e) (htold : e.isTold = false) :
    StopsScan disk cwd path e := by
  rw [readTreeDocument] at hread
  cases hparse : readTree disk cwd path with
  | error e' =>
      simp only [hparse, Except.error.injEq] at hread
      subst hread
      exact stopsScan_of_readTree htree hparse htold
  | ok t =>
      simp only [hparse] at hread
      obtain ⟨text, v, children, htext, hjson, hroot, rfl⟩ := (readTree_eq_ok_iff t).1 hparse
      simp only [treeFrontmatter, Tree.root, topLevel] at hread
      cases hblock : yamlBlock? children with
      | none => simp [hblock] at hread
      | some block =>
          simp only [hblock] at hread
          cases hload : Frontmatter.load block.toList with
          | ok frontmatter => simp [hload] at hread
          | error e' =>
              simp only [hload, Except.error.injEq] at hread
              subst hread
              exact .yamlLeaf htree htext hjson hroot hblock
                ((Frontmatter.load_eq_error_iff _ _).1 hload)
                ((isTold_frontmatter_iff e').1 htold)

/-- The documents that end a scan are those whose failure is not told. -/
theorem stopsScan_iff :
    StopsScan disk cwd path e ↔ readDocument disk cwd path = .error e ∧ e.isTold = false := by
  refine ⟨StopsScan.reads, ?_⟩
  rintro ⟨hread, htold⟩
  rw [readDocument] at hread
  cases htree : isTreeFile path.name with
  | true =>
      simp only [htree, if_true] at hread
      exact stopsScan_of_readTreeDocument htree hread htold
  | false =>
      simp only [htree, Bool.false_eq_true, if_false] at hread
      cases hmarkdown : readMarkdown disk cwd path with
      | error e' =>
          simp only [hmarkdown, Except.error.injEq] at hread
          subst hread
          exact stopsScan_of_readMarkdown htree hmarkdown htold
      | ok parts =>
          obtain ⟨text, htext, hparts⟩ := readMarkdown_eq_ok_iff.1 hmarkdown
          cases hbody : Markdown.parse (String.ofList parts.2) with
          | ok t => simp [hmarkdown, hbody] at hread
          | error overlong =>
              simp only [hmarkdown, hbody, Except.error.injEq] at hread
              subst hread
              exact .reference htree htext hparts hbody

instance decidableEqError {ε α : Type} [DecidableEq ε] (r : Except ε α) (e : ε) :
    Decidable (r = .error e) :=
  match r with
  | .ok _ => isFalse (by simp)
  | .error e' => decidable_of_iff (e' = e) (by simp)

instance (disk : Disk) (cwd : Location) (path : Path) (e : ReadError) :
    Decidable (StopsScan disk cwd path e) :=
  decidable_of_iff _ stopsScan_iff.symm

/-! ### The loop of a scan -/

/-- Whether a file ends the scan, whatever it ends it with. -/
def Stops (setup : Setup) (file : Location) : Prop :=
  ∃ e, StopsScan setup.disk setup.cwd (.ofLocation file) e

/-- The document of a file, where that can be read. -/
def documentOf? (setup : Setup) (file : Location) : Option (Document × Tree) :=
  match readDocument setup.disk setup.cwd (.ofLocation file) with
  | .ok (frontmatter, t) => some (documentAt setup.root file frontmatter, t)
  | .error _ => none

/-- The warning about a file, where that cannot be read. -/
def warningOf? (setup : Setup) (file : Location) : Option String :=
  match readDocument setup.disk setup.cwd (.ofLocation file) with
  | .ok _ => none
  | .error e => some (warning file e)

/-- Documents taken into a store one after the other, and how many of them were
recorded. -/
def takeAll (options : Options) (taken : Store × Nat) (docs : List (Document × Tree)) :
    Store × Nat :=
  docs.foldl (fun taken d =>
    let outcome := d.1.process options taken.1 {} d.2
    (outcome.store, taken.2 + if outcome.links.isSome then 1 else 0)) taken

/-- The report of a scan that gets over all of its files: that of the documents
that can be read, and a warning for every other file. -/
def reportFor (setup : Setup) (store : Store) (files : List Location) : Report :=
  let taken := takeAll setup.options (setup.options.startStore store, 0)
    (files.filterMap (documentOf? setup))
  { documents := files.length
    processed := taken.2
    skipped := (files.length : Int) - taken.2
    data := taken.1.data
    warnings := files.filterMap (warningOf? setup) }

variable {setup : Setup} {p : Progress} {file : Location}

theorem scanFile_of_stopsScan
    (h : StopsScan setup.disk setup.cwd (.ofLocation file) e) :
    scanFile setup p file = .error (e, p) := by
  obtain ⟨hread, htold⟩ := stopsScan_iff.1 h
  simp [scanFile, hread, htold]

/-- One file more: its document is taken, or a warning is given, but not both. -/
theorem scanFile_of_not_stops (h : ¬Stops setup file) :
    ∃ q, scanFile setup p file = .ok q ∧
      (q.store, q.processed) =
        takeAll setup.options (p.store, p.processed) (documentOf? setup file).toList ∧
      q.warnings = p.warnings ++ (warningOf? setup file).toList := by
  rw [scanFile]
  cases hread : readDocument setup.disk setup.cwd (.ofLocation file) with
  | ok parts =>
      obtain ⟨frontmatter, t⟩ := parts
      exact ⟨_, rfl, by simp [documentOf?, hread, takeAll], by simp [warningOf?, hread]⟩
  | error e =>
      cases htold : e.isTold with
      | false => exact absurd ⟨e, stopsScan_iff.2 ⟨hread, htold⟩⟩ h
      | true =>
          simp only [htold, if_true]
          exact ⟨_, rfl, by simp [documentOf?, hread, takeAll], by simp [warningOf?, hread]⟩

theorem scanFiles_cons {q : Progress} (rest : List Location)
    (hq : scanFile setup p file = .ok q) :
    scanFiles setup p (file :: rest) = scanFiles setup q rest := by
  rw [scanFiles, hq]

theorem takeAll_append (options : Options) (taken : Store × Nat)
    (docs more : List (Document × Tree)) :
    takeAll options taken (docs ++ more) = takeAll options (takeAll options taken docs) more :=
  List.foldl_append

theorem scanFiles_of_not_stops {files : List Location} (h : ∀ file ∈ files, ¬Stops setup file) :
    ∃ q, scanFiles setup p files = .ok q ∧
      (q.store, q.processed) =
        takeAll setup.options (p.store, p.processed) (files.filterMap (documentOf? setup)) ∧
      q.warnings = p.warnings ++ files.filterMap (warningOf? setup) := by
  induction files generalizing p with
  | nil => exact ⟨p, rfl, rfl, by simp⟩
  | cons file rest ih =>
      obtain ⟨q, hq, htaken, hwarnings⟩ := scanFile_of_not_stops (p := p) (h file (by simp))
      obtain ⟨r, hr, htaken', hwarnings'⟩ := ih (p := q) fun f hf => h f (by simp [hf])
      refine ⟨r, (scanFiles_cons rest hq).trans hr, ?_, ?_⟩
      · rw [htaken', htaken, ← takeAll_append]
        cases hdoc : documentOf? setup file <;> simp [hdoc]
      · rw [hwarnings', hwarnings, List.append_assoc]
        cases hwarn : warningOf? setup file <;> simp [hwarn]

theorem scanFiles_of_stopsScan {before : List Location} (after : List Location)
    (hbefore : ∀ f ∈ before, ¬Stops setup f)
    (h : StopsScan setup.disk setup.cwd (.ofLocation file) e) :
    ∃ q, scanFiles setup p (before ++ file :: after) = .error (e, q) := by
  induction before generalizing p with
  | nil => exact ⟨p, by rw [List.nil_append, scanFiles, scanFile_of_stopsScan h]⟩
  | cons f rest ih =>
      obtain ⟨q, hq, -⟩ := scanFile_of_not_stops (p := p) (hbefore f (by simp))
      obtain ⟨r, hr⟩ := ih (p := q) fun g hg => hbefore g (by simp [hg])
      exact ⟨r, (scanFiles_cons (rest ++ file :: after) hq).trans hr⟩

/-- Of the files that end a scan there is a first one. -/
theorem exists_first_stop {files : List Location} (h : ∃ file ∈ files, Stops setup file) :
    ∃ before file after, files = before ++ file :: after ∧
      (∀ f ∈ before, ¬Stops setup f) ∧ Stops setup file := by
  induction files with
  | nil => simp at h
  | cons f rest ih =>
      by_cases hf : Stops setup f
      · exact ⟨[], f, rest, rfl, by simp, hf⟩
      · obtain ⟨before, file, after, rfl, hbefore, hfile⟩ := ih (by simpa [hf] using h)
        exact ⟨f :: before, file, after, rfl, by simpa [hf] using hbefore, hfile⟩

/-! ### The scan -/

variable {store : Store} {paths : List Path} {files : List Location}

theorem report_of_not_stops (hfiles : documents setup.disk setup.cwd paths = .ok files)
    (h : ∀ file ∈ files, ¬Stops setup file) :
    (scan setup store paths).report = .ok (reportFor setup store files) := by
  obtain ⟨q, hq, htaken, hwarnings⟩ :=
    scanFiles_of_not_stops (p := { store := setup.options.startStore store }) h
  simp only [scan, hfiles, hq]
  simp [reportOf, reportFor, ← htaken, hwarnings]

theorem report_of_stopsScan (hfiles : documents setup.disk setup.cwd paths = .ok files)
    (before : List Location) {after : List Location} (hsplit : files = before ++ file :: after)
    (hbefore : ∀ f ∈ before, ¬Stops setup f)
    (h : StopsScan setup.disk setup.cwd (.ofLocation file) e) :
    (scan setup store paths).report = .error (.read e) := by
  obtain ⟨q, hq⟩ := scanFiles_of_stopsScan after
    (p := { store := setup.options.startStore store }) hbefore h
  rw [hsplit] at hfiles
  simp only [scan, hfiles, hq]

end Corpus

end LinkIndex
