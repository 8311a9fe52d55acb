import LinkIndex.Proofs.Document.Recording
import LinkIndex.Proofs.Slug.Path
import Mathlib.Data.List.Nodup

/-!
Documents without a path, and the numbers they are known by. Runs with options of
their own share a store and one source of names. A number is used up just where a
document without a path is recorded by its path, so whatever stands in between, the
keys of these documents are the names from the first one on, without gaps.
-/

namespace LinkIndex

namespace Slug

/-! ### Names as keys -/

/-- A directory that paths can be taken relative to: none at all, or an absolute one. -/
def IsBase (cwd : String) : Prop :=
  cwd = "" ∨ cwd.toList.head? = some '/'

instance : DecidablePred IsBase :=
  fun cwd => inferInstanceAs (Decidable (cwd = "" ∨ _))

theorem exists_concat_digit (n : Int) :
    ∃ front c, (toString n).toList = front ++ [c] ∧ c.isDigit = true := by
  have hnat (m : Nat) : ∃ front c, m.repr.toList = front ++ [c] ∧ c.isDigit = true := by
    have hne : Text.decimal m ≠ [] := Nat.toDigits_ne_nil
    refine ⟨(Text.decimal m).dropLast, (Text.decimal m).getLast hne, ?_, ?_⟩
    · rw [Text.toList_repr, List.dropLast_concat_getLast]
    · exact Text.isDigit_of_mem_decimal (List.getLast_mem hne)
  cases n with
  | ofNat m => exact hnat m
  | negSucc m =>
      obtain ⟨front, c, hchars, hc⟩ := hnat m.succ
      refine ⟨'-' :: front, c, ?_, hc⟩
      have htext : toString (Int.negSucc m) = "-" ++ m.succ.repr := rfl
      rw [htext, String.toList_append, hchars]
      rfl

theorem exists_name_chars (n : Int) :
    ∃ front c, (Names.name n).toList = 'f' :: front ++ [c] ∧ c.isDigit = true := by
  obtain ⟨front, c, hchars, hc⟩ := exists_concat_digit n
  refine ⟨"ile-".toList ++ front, c, ?_, hc⟩
  rw [Names.name, String.toList_append, hchars]
  simp

/-- A name is its own key: it has no extension, and no directory in front of it. -/
theorem ofPath_name {cwd : String} (hcwd : IsBase cwd) (n : Int) :
    ofPath (Names.name n) cwd = Names.name n := by
  obtain ⟨front, c, hchars, hc⟩ := exists_name_chars n
  have hlast : (Names.name n).toList.getLast? = some c := by
    rw [hchars, List.getLast?_concat]
  have hfeed : (Names.name n).toList.getLast? ≠ some '\n' := by
    rw [hlast]
    rintro ⟨⟩
    contradiction
  have hplain : ∀ e ∈ documentExtensions, ¬e <:+ (Names.name n).toList := by
    intro e he hend
    have hletter : ∀ e ∈ documentExtensions, e ≠ [] ∧ ¬(e.getLast?.any Char.isDigit) := by decide
    obtain ⟨hne, hnot⟩ := hletter e he
    obtain ⟨before, hbefore⟩ := hend
    rw [← hbefore, List.getLast?_append_of_ne_nil _ hne] at hlast
    rw [hlast] at hnot
    exact hnot hc
  have hdirectory : dropDirectory cwd.toList (Names.name n).toList = (Names.name n).toList := by
    rw [dropDirectory, hchars]
    obtain rfl | hslash := hcwd
    · rfl
    · obtain ⟨rest, hrest⟩ : ∃ rest, cwd.toList = '/' :: rest := by
        cases h : cwd.toList <;> simp_all
      rw [hrest]
      rfl
  have hslash : dropLeadingSlash (Names.name n).toList = (Names.name n).toList := by
    rw [hchars]
    rfl
  rw [ofPath, ofPathChars, dropExtension_of_plain hfeed hplain, hdirectory, hslash,
    String.ofList_toList]

theorem Names.name_injective : Function.Injective Names.name := by
  have hnat {m m' : Nat} (h : m.repr.toList = m'.repr.toList) : m = m' := by
    rw [Text.toList_repr, Text.toList_repr] at h
    exact Text.decimal_injective h
  -- the sign in front of a negative number is no digit
  have hsign {m m' : Nat} : m.repr.toList ≠ '-' :: m'.repr.toList := by
    intro h
    have hmem : '-' ∈ Text.decimal m := by
      rw [← Text.toList_repr, h]
      exact List.mem_cons_self
    exact absurd (Text.isDigit_of_mem_decimal hmem) (by decide)
  intro a b h
  have hnumber : (toString a).toList = (toString b).toList :=
    congrArg String.toList ((String.append_right_inj _).1 h)
  have hnegative (m : Nat) : (toString (Int.negSucc m)).toList = '-' :: m.succ.repr.toList := by
    have htext : toString (Int.negSucc m) = "-" ++ m.succ.repr := rfl
    rw [htext, String.toList_append]
    rfl
  cases a with
  | ofNat m =>
      cases b with
      | ofNat m' => rw [hnat hnumber]
      | negSucc m' => exact absurd (hnumber.trans (hnegative m')) hsign
  | negSucc m =>
      cases b with
      | ofNat m' => exact absurd (hnumber.symm.trans (hnegative m)) hsign
      | negSucc m' =>
          rw [hnegative, hnegative] at hnumber
          rw [Nat.succ.inj (hnat (List.cons.inj hnumber).2)]

end Slug

/-! ### Sessions -/

/-- What a host does whose runs share a store and a source of names. -/
inductive Session.Step
  /-- A run begins. -/
  | begin (options : Options)
  /-- A run processes a document. -/
  | process (options : Options) (d : Document) (t : Tree)
  /-- The host records links of its own. -/
  | record (entry : Store.Entry)
  /-- The store is told to forget everything. -/
  | reset

structure Session.Recording where
  slug : String
  options : Options
  document : Document
  tree : Tree

structure Session where
  store : Store
  names : Slug.Names
  recordings : List Session.Recording := []

namespace Session

/-- Goes on with one step. -/
def next (session : Session) : Step → Session
  | .begin options => { session with store := options.startStore session.store }
  | .process options d t =>
    let outcome := d.process options session.store session.names t
    { store := outcome.store
      names := outcome.names
      recordings := session.recordings ++
        ((d.slug? options session.names).map fun slug => ⟨slug, options, d, t⟩).toList }
  | .record e => { session with store := session.store.record e.slug e.links e.source }
  | .reset => { session with store := session.store.reset }

def after (store : Store) (names : Slug.Names) (steps : List Step) : Session :=
  steps.foldl next { store, names }

/-- A document that needs a number, where its options do not leave it out. -/
def NeedsNumber (options : Options) (d : Document) : Prop :=
  options.keyBySlug = false ∧ d.resolvedPath? = none

instance (options : Options) (d : Document) : Decidable (NeedsNumber options d) :=
  inferInstanceAs (Decidable (_ ∧ _))

/-- The document of a step, where it is recorded under a number. -/
def Step.numbered? : Step → Option (Options × Document × Tree)
  | .process options d t =>
    if NeedsNumber options d ∧ ¬d.LeftOut options then some (options, d, t) else none
  | _ => none

def numbered (session : Session) : List Recording :=
  session.recordings.filter fun r => NeedsNumber r.options r.document

/-- The directories of all documents are ones that paths can be taken relative to. -/
def Step.HasBase : Step → Prop
  | .process _ d _ => Slug.IsBase d.cwd
  | _ => True

instance : DecidablePred Step.HasBase := fun step =>
  match step with
  | .begin _ => .isTrue trivial
  | .process _ d _ => inferInstanceAs (Decidable (Slug.IsBase d.cwd))
  | .record _ => .isTrue trivial
  | .reset => .isTrue trivial

def used (steps : List Step) : Nat :=
  (steps.filterMap Step.numbered?).length

/-- The recordings of documents under the names from a first one on. -/
def numberedFrom (first : Int) (docs : List (Options × Document × Tree)) : List Recording :=
  docs.mapIdx fun i x => ⟨Slug.Names.name (first + i), x.1, x.2.1, x.2.2⟩

/-! ### One step -/

variable {options : Options} {store : Store} {names : Slug.Names} {d : Document} {t : Tree}

theorem key?_of_needsNumber (names : Slug.Names) (hneeds : NeedsNumber options d)
    (hleft : ¬d.LeftOut options) (hcwd : Slug.IsBase d.cwd) :
    d.key? options names = some names.claim := by
  obtain ⟨hkey, hpath⟩ := hneeds
  rw [Document.key?, if_neg hleft, hkey, if_neg Bool.false_ne_true, Document.pathSlug, hpath]
  simp only [Slug.Names.claim, Slug.ofPath_name hcwd]

/-- A document that is left out, or known by its path or its slug, uses up no name. -/
theorem process_names_of_not (h : ¬(NeedsNumber options d ∧ ¬d.LeftOut options)) :
    (d.process options store names t).names = names := by
  by_cases hleft : d.LeftOut options
  · rw [Document.process_of_leftOut hleft]
  · by_cases hpath : d.resolvedPath? = none
    · have hslug : options.keyBySlug = true := by
        by_contra hkey
        exact h ⟨⟨by simpa using hkey, hpath⟩, hleft⟩
      obtain ⟨slug, hdocument⟩ : ∃ slug, d.frontmatter.documentSlug? = some slug :=
        Option.ne_none_iff_exists'.1 fun hnone => hleft (.inr ⟨hslug, hnone⟩)
      have hkey : d.key? options names = some (slug, names) := by
        rw [Document.key?, if_neg hleft, if_pos hslug, hdocument]
        rfl
      rw [Document.process_of_key? hkey]
      rfl
    · exact Document.process_names_of_path _ _ _ _ _ hpath

/-- Steps lead from a store and a source of names to a session with the documents
without a path numbered in order. -/
structure Numbers (first : Int) (steps : List Step) (session : Session) : Prop where
  names : session.names.next = first + used steps
  numbered : session.numbered = numberedFrom first (steps.filterMap Step.numbered?)

variable {first : Int} {steps : List Step} {session : Session} {step : Step}

theorem Numbers.skip (h : Numbers first steps session) (hstep : step.numbered? = none)
    (hnames : (session.next step).names = session.names)
    (hnumbered : (session.next step).numbered = session.numbered) :
    Numbers first (steps ++ [step]) (session.next step) := by
  have hdocs : (steps ++ [step]).filterMap Step.numbered? = steps.filterMap Step.numbered? := by
    simp [List.filterMap_append, hstep]
  constructor
  · rw [used, hdocs, hnames]
    exact h.names
  · rw [hdocs, hnumbered]
    exact h.numbered

theorem numbered_next_process (session : Session) :
    (session.next (.process options d t)).numbered =
      if NeedsNumber options d then
        session.numbered ++
          ((d.slug? options session.names).map fun slug => ⟨slug, options, d, t⟩).toList
      else session.numbered := by
  rw [numbered, next, List.filter_append, ← numbered]
  by_cases hneeds : NeedsNumber options d
  · cases d.slug? options session.names <;> simp [hneeds]
  · cases d.slug? options session.names <;> simp [hneeds]

theorem Numbers.next (h : Numbers first steps session) (hbase : step.HasBase) :
    Numbers first (steps ++ [step]) (session.next step) := by
  cases step with
  | begin options => exact h.skip rfl rfl rfl
  | record entry => exact h.skip rfl rfl rfl
  | reset => exact h.skip rfl rfl rfl
  | process options d t =>
      by_cases hnumbered : NeedsNumber options d ∧ ¬d.LeftOut options
      · obtain ⟨hneeds, hleft⟩ := hnumbered
        have hkey := key?_of_needsNumber session.names hneeds hleft hbase
        have hdocs : (steps ++ [Step.process options d t]).filterMap Step.numbered? =
            steps.filterMap Step.numbered? ++ [(options, d, t)] := by
          simp [List.filterMap_append, Step.numbered?, hneeds, hleft]
        constructor
        · rw [used, hdocs, List.length_append, Session.next, Document.process_of_key? hkey]
          have hnext := h.names
          simp only [used] at hnext
          simp only [Document.recordAs, hnext, List.length_singleton]
          omega
        · have hslug : d.slug? options session.names =
              some (Slug.Names.name (first + used steps)) := by
            rw [Document.slug?, hkey, ← h.names]
            rfl
          rw [numbered_next_process, if_pos hneeds, hslug, h.numbered, hdocs, numberedFrom,
            numberedFrom, List.mapIdx_concat]
          rfl
      · refine h.skip (by rw [Step.numbered?, if_neg hnumbered]) (process_names_of_not hnumbered) ?_
        rw [numbered_next_process]
        split
        · rename_i hneeds
          have hleft : d.LeftOut options := by
            by_contra hleft
            exact hnumbered ⟨hneeds, hleft⟩
          rw [Document.slug?_eq_none_iff.2 hleft]
          exact List.append_nil _
        · rfl

/-! ### Runs of any length -/

theorem after_concat (store : Store) (names : Slug.Names) (steps : List Step) (step : Step) :
    after store names (steps ++ [step]) = (after store names steps).next step :=
  List.foldl_concat ..

theorem numbers_after (store : Store) (names : Slug.Names)
    (hbase : ∀ step ∈ steps, step.HasBase) :
    Numbers names.next steps (after store names steps) := by
  induction steps using List.reverseRecOn with
  | nil => exact ⟨(Int.add_zero _).symm, rfl⟩
  | append_singleton steps step ih =>
      rw [after_concat]
      have hearlier := ih fun s hs => hbase s (List.mem_append_left _ hs)
      exact hearlier.next (hbase step (by simp))

theorem nodup_numberedFrom (first : Int) (docs : List (Options × Document × Tree)) :
    ((numberedFrom first docs).map (·.slug)).Nodup := by
  rw [List.Nodup, List.pairwise_map, List.pairwise_iff_getElem]
  intro i j hi hj hij hname
  simp only [numberedFrom, List.getElem_mapIdx] at hname
  have hnumber := Slug.Names.name_injective hname
  omega

/-- However runs of any options, recordings and resets follow one another, the
documents that are recorded for want of a path have the names from the first one on,
in the order of the steps, and all names that are used up are theirs. No two of these
documents have one key, and each has its links under its own when it was processed. -/
theorem numbered_without_gaps (store : Store) (names : Slug.Names)
    (hbase : ∀ step ∈ steps, step.HasBase) :
    let session := after store names steps
    session.numbered = numberedFrom names.next (steps.filterMap Step.numbered?) ∧
      session.names.next = names.next + used steps ∧
      (session.numbered.map (·.slug)).Nodup ∧
      ∀ before options d t after', steps = before ++ .process options d t :: after' →
        NeedsNumber options d → ¬d.LeftOut options →
          (after store names (before ++ [.process options d t])).store.data.lookUp
            (Slug.Names.name (names.next + used before)) = (extract options t).held := by
  intro session
  obtain ⟨hnext, hnumbered⟩ := numbers_after store names hbase
  refine ⟨hnumbered, hnext, hnumbered ▸ nodup_numberedFrom _ _, ?_⟩
  rintro before options d t after' rfl hneeds hleft
  have hbefore := numbers_after store names fun step hstep =>
    hbase step (List.mem_append_left _ hstep)
  have hkey := key?_of_needsNumber (after store names before).names hneeds hleft
    (hbase (.process options d t) (by simp))
  rw [after_concat, Session.next, Document.process_of_key? hkey, ← hbefore.names]
  exact (Store.lookUp_record _ ⟨_, extract options t, d.resolvedPath?⟩ _).trans (if_pos rfl)

/-- A document with a link, relative to one directory. -/
def pageStep (options : Options) (path : Option String) (frontmatter : Frontmatter) : Step :=
  .process options { path, cwd := "/site", frontmatter } (.root [.element (.link "/x" none) []])

/-- Two documents that need a number, and between them a draft, a document that goes by
its slug, one that lacks it, one with a path, and a run that begins with nothing. -/
def mixedSteps : List Step :=
  [pageStep {} none [],
    pageStep { ignoreDrafts := true } none [(.str "draft", .bool true)],
    pageStep { keyBySlug := true } none [(.str "slug", .str "file-8")],
    pageStep { keyBySlug := true } none [],
    pageStep {} (some "/site/a.md") [],
    .begin { resetOnRun := true },
    pageStep { resetOnRun := true } none []]

theorem numbered_without_gaps_mixedSteps :
    let session := after {} ⟨7⟩ mixedSteps
    (∀ step ∈ mixedSteps, step.HasBase) ∧
      session.numbered.map (·.slug) = ["file-7", "file-8"] ∧ session.names.next = 9 ∧
      session.store.data.lookUp "file-8" = ⟨some [], some ["/x"], none⟩ := by
  intro session
  have hbase : ∀ step ∈ mixedSteps, step.HasBase := by decide
  obtain ⟨hnumbered, hnext, -, hheld⟩ := numbered_without_gaps {} ⟨7⟩ hbase
  refine ⟨hbase, ?_, ?_, ?_⟩
  · rw [hnumbered]
    decide
  · rw [hnext]
    rfl
  · have hlast := hheld (mixedSteps.take 6) { resetOnRun := true } _ _ [] rfl (by decide)
      (by decide)
    have hlinks : (extract { resetOnRun := true } (.root [.element (.link "/x" none) []])).held =
        ⟨some [], some ["/x"], none⟩ := by
      decide +kernel
    rw [hlinks] at hlast
    exact hlast

end Session

end LinkIndex
