import LinkIndex.Report.Wrap

/-!
Tables of one column of text and further columns of numbers. The numbers have the
room they need, the text has what is left of the width and is broken into lines. Two
blanks stand between columns.
-/

namespace LinkIndex.Report

/-- The width of all output. -/
def screenWidth : Nat := 120

structure Row where
  text : List Char
  numbers : List (List Char)

/-- Characters at which a text is broken into lines before its width is taken. -/
def breaksLine (c : Char) : Bool :=
  [0xA, 0xB, 0xC, 0xD, 0x1C, 0x1D, 0x1E, 0x85, 0x2028, 0x2029].contains c.toNat

def greatest (ns : List Nat) : Nat :=
  ns.foldl max 0

/-- The width of the widest line of a text. -/
def naturalWidth (text : List Char) : Nat :=
  greatest ((Text.cutAt breaksLine text).map Text.cells)

def numberWidths : List Row → List Nat
  | [] => []
  | row :: rest => rest.foldl (fun ws r => ws.zipWith max (r.numbers.map Text.cells))
    (row.numbers.map Text.cells)

def textWidth (rows : List Row) : Nat :=
  let taken := (numberWidths rows).foldr (fun width n => width + 2 + n) 0
  min (greatest (rows.map fun r => naturalWidth r.text)) (screenWidth - taken)

def padEnd (width : Nat) (line : List Char) : List Char :=
  line ++ List.replicate (width - Text.cells line) ' '

def padStart (width : Nat) (line : List Char) : List Char :=
  List.replicate (width - Text.cells line) ' ' ++ line

/-- The numbers of a row, each at the end of its column. -/
def numberCells (widths : List Nat) (numbers : List (List Char)) : List Char :=
  (widths.zipWith (fun w n => ' ' :: ' ' :: padStart w n) numbers).flatten

/-- The lines of a row. The numbers stand on the first one. -/
def rowLines (widths : List Nat) (width : Nat) (row : Row) : List (List Char) :=
  match (wrap .ellipsis width row.text).map (padEnd width) with
  | [] => []
  | first :: rest =>
    let blank := numberCells widths (widths.map fun _ => [])
    (first ++ numberCells widths row.numbers) :: rest.map (· ++ blank)

def tableLines (rows : List Row) : List (List Char) :=
  rows.flatMap (rowLines (numberWidths rows) (textWidth rows))

end LinkIndex.Report
