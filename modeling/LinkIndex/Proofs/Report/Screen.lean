import LinkIndex.Proofs.Report.Wrap
import LinkIndex.Report.Format
import Mathlib.Data.List.Forall2

/-!
Reports for the screen. The keys of documents go through the markup of the table: a
key may be refused, and then there is no report at all, or be shown as something
else. Where all are taken there is a row for each key, in order, with the numbers of
its headings and links; and a plain key that fits beside the numbers is shown as it
is.
-/

namespace LinkIndex

namespace Report

variable {d : LinkData} {keys : List String} {key : String} {text : List Char} {row : Row}
  {rows : List Row} {e : MarkupError}

/-! ### Rows of documents -/

/-- The numbers of the headings and of the links of a document. -/
def counts (d : LinkData) (key : String) : List (List Char) :=
  [d.headings, d.internal, d.external].map fun m =>
    Text.decimal (LinkData.listAt m key).length

/-- The row of a key: what its markup shows, and its numbers. -/
structure IsRowOf (d : LinkData) (key : String) (row : Row) : Prop where
  text : showMarkup key.toList = .ok row.text
  numbers : row.numbers = counts d key

def IsFirstRefused (keys : List String) (e : MarkupError) : Prop :=
  ∃ before key after, keys = before ++ key :: after ∧
    (∀ k ∈ before, ∃ text, showMarkup k.toList = .ok text) ∧ showMarkup key.toList = .error e

theorem documentRow_of_ok (d : LinkData) (h : showMarkup key.toList = .ok text) :
    documentRow d key = .ok ⟨text, counts d key⟩ := by
  rw [documentRow, h]
  rfl

theorem documentRow_of_error (d : LinkData) (h : showMarkup key.toList = .error e) :
    documentRow d key = .error e := by
  rw [documentRow, h]

/-- There is a row for every key, or the first key that is refused stands for all. -/
theorem documentRows_cases (d : LinkData) (keys : List String) :
    (∃ rows, documentRows d keys = .ok rows ∧ List.Forall₂ (IsRowOf d) keys rows) ∨
      ∃ e, documentRows d keys = .error e ∧ IsFirstRefused keys e := by
  induction keys with
  | nil => exact .inl ⟨[], rfl, .nil⟩
  | cons key rest ih =>
      rw [documentRows]
      cases hshown : showMarkup key.toList with
      | error e =>
          rw [documentRow_of_error d hshown]
          exact .inr ⟨e, rfl, [], key, rest, rfl, by simp, hshown⟩
      | ok text =>
          rw [documentRow_of_ok d hshown]
          rcases ih with ⟨rows, hrows, hkeys⟩ | ⟨e, he, hfirst⟩
          · rw [hrows]
            exact .inl ⟨_, rfl, .cons ⟨hshown, rfl⟩ hkeys⟩
          · obtain ⟨before, refused, after, rfl, hbefore, hrefused⟩ := hfirst
            rw [he]
            refine .inr ⟨e, rfl, key :: before, refused, after, rfl, ?_, hrefused⟩
            exact List.forall_mem_cons.2 ⟨⟨text, hshown⟩, hbefore⟩

/-! ### The table -/

/-- The width that numbers leave for texts. -/
def room (rows : List Row) : Nat :=
  screenWidth - (numberWidths rows).foldr (fun width n => width + 2 + n) 0

/-- The table of rows below their titles; nothing where there is no row. -/
def tableOf (rows : List Row) : List (List Char) :=
  if rows.isEmpty then [] else tableLines (titles :: rows)

theorem le_foldl_max {n m : Nat} {ns : List Nat} (h : n ∈ m :: ns) : n ≤ ns.foldl max m := by
  induction ns generalizing n m with
  | nil => exact Nat.le_of_eq (List.mem_singleton.1 h)
  | cons k rest ih =>
      rw [List.foldl_cons]
      have hinit : max m k ≤ rest.foldl max (max m k) := ih List.mem_cons_self
      rcases List.mem_cons.1 h with rfl | h
      · exact Nat.le_trans (Nat.le_max_left n k) hinit
      · rcases List.mem_cons.1 h with rfl | h
        · exact Nat.le_trans (Nat.le_max_right m n) hinit
        · exact ih (List.mem_cons_of_mem _ h)

theorem IsPrintable.naturalWidth (h : IsPrintable text) : naturalWidth text = text.length := by
  have hunbroken : ∀ c ∈ text, breaksLine c = false := by
    intro c hc
    have hrange := h c hc
    simp [breaksLine]
    omega
  rw [Report.naturalWidth, Text.cutAt_of_forall hunbroken, List.map_singleton, h.cells, greatest,
    List.foldl_cons, List.foldl_nil, Nat.zero_max]

/-- The column of texts has the width of a row, unless the numbers leave less. -/
theorem length_le_textWidth (hrow : row ∈ rows) (hprintable : IsPrintable row.text)
    (hfits : row.text.length ≤ room rows) : row.text.length ≤ textWidth rows := by
  refine Nat.le_min.2 ⟨le_foldl_max (List.mem_cons_of_mem 0 ?_), hfits⟩
  rw [← hprintable.naturalWidth]
  exact List.mem_map_of_mem hrow

/-- A printable text that fits beside the numbers takes one line with them. -/
theorem rowLines_of_printable (hrow : row ∈ rows) (hprintable : IsPrintable row.text)
    (hfits : row.text.length ≤ room rows) :
    rowLines (numberWidths rows) (textWidth rows) row =
      [padEnd (textWidth rows) row.text ++ numberCells (numberWidths rows) row.numbers] := by
  rw [rowLines, wrap_of_printable hprintable (length_le_textWidth hrow hprintable hfits)]
  rfl

theorem isPrintable_decimal (n : Nat) : IsPrintable (Text.decimal n) := by
  intro c hc
  have hdigit := Text.isDigit_of_mem_decimal hc
  rw [Char.isDigit_iff_toNat] at hdigit
  have hlow : 48 ≤ c.toNat := hdigit.1
  have hhigh : c.toNat ≤ 57 := hdigit.2
  omega

theorem cells_decimal_le {n : Nat} (h : n < 100000000) : Text.cells (Text.decimal n) ≤ 8 := by
  rw [(isPrintable_decimal n).cells]
  exact (Nat.length_toDigits_le_iff (by decide) (by decide)).2 h

/-- Counts of up to eight digits are no wider than the titles above them, and leave ninety columns
to the keys. -/
theorem room_eq (hrows : List.Forall₂ (IsRowOf d) keys rows)
    (hcounts : ∀ key ∈ keys, ∀ m ∈ [d.headings, d.internal, d.external],
      (LinkData.listAt m key).length < 100000000) : room (titles :: rows) = 90 := by
  have hwidths : numberWidths (titles :: rows) = [8, 8, 8] := by
    have htitles : titles.numbers.map Text.cells = [8, 8, 8] := by decide
    rw [numberWidths, htitles]
    induction hrows with
    | nil => rfl
    | @cons key row keys rows hrow hrest ih =>
        obtain ⟨hkey, hkeys⟩ := List.forall_mem_cons.1 hcounts
        have hmax (m : Assoc String (List String))
            (hm : m ∈ [d.headings, d.internal, d.external]) :
            max 8 (Text.cells (Text.decimal (LinkData.listAt m key).length)) = 8 :=
          Nat.max_eq_left (cells_decimal_le (hkey m hm))
        have hstep : List.zipWith max [8, 8, 8] (row.numbers.map Text.cells) = [8, 8, 8] := by
          simp [hrow.numbers, counts, hmax]
        rw [List.foldl_cons, hstep]
        exact ih hkeys
  rw [room, hwidths]
  rfl

/-! ### The report -/

theorem pairwise_sortedKeys (d : LinkData) : d.sortedKeys.Pairwise (· ≤ ·) := by
  have htrans (a b c : String) (hab : decide (a ≤ b)) (hbc : decide (b ≤ c)) :
      decide (a ≤ c) = true := by
    rw [decide_eq_true_eq] at *
    exact String.le_trans hab hbc
  have htotal (a b : String) : (decide (a ≤ b) || decide (b ≤ a)) = true := by
    simpa using String.le_total a b
  exact (List.pairwise_mergeSort htrans htotal _).imp of_decide_eq_true

theorem mem_sortedKeys : key ∈ d.sortedKeys ↔ key ∈ d.headings.keys :=
  (List.mergeSort_perm _ _).mem_iff

/-- The headings and the links of all documents, where they are asked for. -/
def details (d : LinkData) (verbose : Bool) : List (List Char) :=
  if verbose then d.sortedKeys.flatMap (detailLines d) else []

theorem documentTable_eq (d : LinkData) :
    documentTable d = (documentRows d d.sortedKeys).map tableOf := by
  rw [documentTable]
  cases hkeys : d.sortedKeys with
  | nil => rfl
  | cons key rest =>
      rcases documentRows_cases d (key :: rest) with ⟨rows, hrows, hshown⟩ | ⟨e, he, -⟩
      · obtain ⟨row, rest', -, -, rfl⟩ := List.forall₂_cons_left_iff.1 hshown
        simp [hrows, Except.map, tableOf]
      · simp [he, Except.map]

/-- A report is laid out with a row for every key, or it fails with the first key that is
refused. -/
theorem format_cases (r : Report) (verbose : Bool) :
    (∃ rows, List.Forall₂ (IsRowOf r.data) r.data.sortedKeys rows ∧
      r.format { verbose } =
        .ok (screenText (shown r.summary ++ tableOf rows ++ details r.data verbose))) ∨
      ∃ e, IsFirstRefused r.data.sortedKeys e ∧ r.format { verbose } = .error e := by
  have hform : r.format { verbose } = r.screen verbose := rfl
  rw [hform, screen, documentTable_eq]
  rcases documentRows_cases r.data r.data.sortedKeys with ⟨rows, hrows, hshown⟩ | ⟨e, he, hfirst⟩
  · rw [hrows]
    exact .inl ⟨rows, hshown, rfl⟩
  · rw [he]
    exact .inr ⟨e, hfirst, rfl⟩

structure Shows (d : LinkData) (rows : List Row) (key : String) (row : Row) : Prop
    extends IsRowOf d key row where
  /-- Printable keys are shown as they are just where they are plain. -/
  verbatim : IsPrintable key.toList → (row.text = key.toList ↔ IsPlain key.toList)
  /-- A plain key that fits stands in one line, with the numbers behind it. -/
  line : IsPrintable key.toList → IsPlain key.toList →
    key.length ≤ room (titles :: rows) →
      rowLines (numberWidths (titles :: rows)) (textWidth (titles :: rows)) row =
        [padEnd (textWidth (titles :: rows)) key.toList ++
          numberCells (numberWidths (titles :: rows)) (counts d key)]

theorem shows_of_isRowOf (hrow : row ∈ rows) (h : IsRowOf d key row) : Shows d rows key row := by
  have hverbatim (hprintable : IsPrintable key.toList) :
      row.text = key.toList ↔ IsPlain key.toList := by
    rw [← showMarkup_eq_self_iff hprintable, h.text, Except.ok.injEq]
  refine ⟨h, hverbatim, ?_⟩
  intro hprintable hplain hfits
  have htext : row.text = key.toList := (hverbatim hprintable).2 hplain
  rw [← htext] at hprintable ⊢
  rw [← String.length_toList, ← htext] at hfits
  rw [rowLines_of_printable (List.mem_cons_of_mem _ hrow) hprintable hfits, h.numbers]

theorem forall₂_shows {part : List Row} (hpart : ∀ row ∈ part, row ∈ rows)
    (h : List.Forall₂ (IsRowOf d) keys part) : List.Forall₂ (Shows d rows) keys part := by
  induction h with
  | nil => exact .nil
  | cons hrow hrest ih =>
      obtain ⟨hmem, hmore⟩ := List.forall_mem_cons.1 hpart
      exact .cons (shows_of_isRowOf hmem hrow) (ih hmore)

theorem exists_text_of_forall₂ (h : List.Forall₂ (IsRowOf d) keys rows) :
    ∀ key ∈ keys, ∃ text, showMarkup key.toList = .ok text := by
  induction h with
  | nil => simp
  | cons hrow hrest ih => exact List.forall_mem_cons.2 ⟨⟨_, hrow.text⟩, ih⟩

/-- There is a row for each key of a report in order, with the texts and the numbers of the keys. -/
structure IsTableOf (d : LinkData) (rows : List Row) : Prop where
  shows : List.Forall₂ (Shows d rows) d.sortedKeys rows
  /-- Ninety columns are left to the keys while no count has more than eight digits. -/
  room : (∀ key ∈ d.sortedKeys, ∀ m ∈ [d.headings, d.internal, d.external],
    (LinkData.listAt m key).length < 100000000) → room (titles :: rows) = 90

theorem isTableOf_of_forall₂ (h : List.Forall₂ (IsRowOf d) d.sortedKeys rows) :
    IsTableOf d rows where
  shows := forall₂_shows (fun _ h => h) h
  room := room_eq h

/-- Keys come in order. Where no tag of a key is read once more behind its markup, there is a report
for the screen just where the markup of no key is refused, and the first one that is refused
fails it. Below the first line the report has a table with one row for each key, in order, and
the headings and links where they are asked for. -/
theorem format_screen (r : Report) (verbose : Bool) :
    r.data.sortedKeys.Pairwise (· ≤ ·) ∧ r.data.sortedKeys.Perm r.data.headings.keys ∧
      ((∀ key ∈ r.data.headings.keys, IsSettled key) →
        ((∃ output, r.format { verbose } = .ok output) ↔
          ∀ key ∈ r.data.headings.keys, ∃ text, showMarkup key.toList = .ok text) ∧
        (∀ e, r.format { verbose } = .error e → IsFirstRefused r.data.sortedKeys e) ∧
        ∀ output, r.format { verbose } = .ok output →
          ∃ rows, IsTableOf r.data rows ∧
            output = screenText (shown r.summary ++ tableOf rows ++ details r.data verbose)) := by
  refine ⟨pairwise_sortedKeys _, List.mergeSort_perm _ _, fun _ => ?_⟩
  rcases format_cases r verbose with ⟨rows, hrows, hok⟩ | ⟨e, hfirst, herror⟩
  · refine ⟨⟨fun _ key hkey => ?_, fun _ => ⟨_, hok⟩⟩, ?_, ?_⟩
    · exact exists_text_of_forall₂ hrows key (mem_sortedKeys.2 hkey)
    · intro e herror
      rw [hok] at herror
      contradiction
    · intro output houtput
      rw [hok, Except.ok.injEq] at houtput
      exact ⟨rows, isTableOf_of_forall₂ hrows, houtput.symm⟩
  · refine ⟨⟨fun ⟨output, houtput⟩ => ?_, fun haccepted => ?_⟩, ?_, ?_⟩
    · rw [herror] at houtput
      contradiction
    · obtain ⟨before, key, after, hkeys, -, hrefused⟩ := hfirst
      obtain ⟨text, htext⟩ := haccepted key (mem_sortedKeys.1 (by simp [hkeys]))
      rw [hrefused] at htext
      contradiction
    · intro e' herror'
      rw [herror, Except.error.injEq] at herror'
      rwa [← herror']
    · intro output houtput
      rw [herror] at houtput
      contradiction

def reportOfKey (key : String) : Report where
  documents := 1
  processed := 1
  data := { headings := [(key, [])], internal := [(key, [])] }

/-- A key with a style and a link in it, which are settled when they are read. -/
theorem format_screen_styled :
    (∀ key ∈ (reportOfKey "docs/[b]new[/b]/[link=/x]a[/link]").data.headings.keys,
      IsSettled key) ∧
      (∃ output, (reportOfKey "docs/[b]new[/b]/[link=/x]a[/link]").format { verbose := true } =
        .ok output) ∧
      showMarkup "docs/[b]new[/b]/[link=/x]a[/link]".toList = .ok "docs/new/a".toList := by
  have hsettled : ∀ key ∈ (reportOfKey "docs/[b]new[/b]/[link=/x]a[/link]").data.headings.keys,
      IsSettled key := by decide +kernel
  have htext : showMarkup "docs/[b]new[/b]/[link=/x]a[/link]".toList =
      .ok "docs/new/a".toList := by decide +kernel
  refine ⟨hsettled, ?_, htext⟩
  refine ((format_screen _ true).2.2 hsettled).1.2 fun key hkey => ?_
  obtain rfl : key = "docs/[b]new[/b]/[link=/x]a[/link]" := List.mem_singleton.1 hkey
  exact ⟨_, htext⟩

example : (reportOfKey "guide").format {} =
    .ok ("OK  scanned 1 documents: 1 recorded, 0 skipped\n" ++
      "Document  Headings  Internal  External\n" ++
      "guide            0         0         0") := by
  decide +kernel

/-- A key that is refused, and keys that lose a name in brackets or get a picture. -/
theorem format_bracketed :
    (reportOfKey "[/x]").format {} = .error (.notOpen "[/x]" 0) ∧
      showMarkup "docs/[slug]".toList = .ok "docs/".toList ∧
      showMarkup "a:b:c".toList = .ok ['a', '🅱', 'c'] := by
  decide +kernel

end Report

end LinkIndex
