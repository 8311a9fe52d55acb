import LinkIndex.Text.Ranges

/-!
Blank characters, and the ways in which text is trimmed and cut at them.
-/

namespace LinkIndex

/-- Blanks: the separators of Unicode and the controls that part lines, fields or records. -/
def blankRanges : Ranges :=
  [(0x9, 0xD), (0x1C, 0x20), (0x85, 0x85), (0xA0, 0xA0), (0x1680, 0x1680), (0x2000, 0x200A),
   (0x2028, 0x2029), (0x202F, 0x202F), (0x205F, 0x205F), (0x3000, 0x3000)]

def isBlank (c : Char) : Bool :=
  blankRanges.contains c

def isAsciiBlank (c : Char) : Bool :=
  c = ' ' || ('\t' ≤ c && c ≤ '\r')

namespace Text

/-- Leaves out the characters at the start that satisfy `p`. -/
def trimStartBy (p : Char → Bool) (text : List Char) : List Char :=
  text.dropWhile p

/-- Leaves out the characters at the end that satisfy `p`. -/
def trimEndBy (p : Char → Bool) (text : List Char) : List Char :=
  (text.reverse.dropWhile p).reverse

/-- Leaves out the blanks at both ends. -/
def trim (text : List Char) : List Char :=
  trimEndBy isBlank (trimStartBy isBlank text)

def isBlankText (text : List Char) : Bool :=
  text.all isBlank

/-- Cuts a text at every character that satisfies `p`. -/
def cutAt (p : Char → Bool) : List Char → List (List Char)
  | [] => [[]]
  | c :: rest =>
    if p c then [] :: cutAt p rest
    else match cutAt p rest with
      | [] => [[c]]
      | first :: others => (c :: first) :: others

/-- The runs of characters between blanks. -/
def words (text : List Char) : List (List Char) :=
  (cutAt isBlank text).filter (· ≠ [])

def join (separator : List Char) : List (List Char) → List Char
  | [] => []
  | [piece] => piece
  | piece :: rest => piece ++ separator ++ join separator rest

/-- The lines of a text: what stands between its line feeds. -/
def lines (text : List Char) : List (List Char) :=
  cutAt (· = '\n') text

/-- Puts lines together by line feeds. -/
def unlines (ls : List (List Char)) : List Char :=
  join ['\n'] ls

theorem cutAt_ne_nil (p : Char → Bool) (text : List Char) : cutAt p text ≠ [] := by
  cases text with
  | nil => simp [cutAt]
  | cons c rest =>
    unfold cutAt
    split
    · simp
    · split <;> simp

/-- Cutting at line feeds and joining by them loses nothing. -/
theorem unlines_lines (text : List Char) : unlines (lines text) = text := by
  unfold lines
  induction text with
  | nil => simp [cutAt, unlines, join]
  | cons c rest ih =>
    have hne := cutAt_ne_nil (· = '\n') rest
    unfold cutAt
    match hcut : cutAt (· = '\n') rest with
    | [] => exact absurd hcut hne
    | first :: others =>
      rw [hcut] at ih
      by_cases hc : c = '\n'
      · simp only [hc, decide_true, if_true]
        simp [unlines, join] at ih ⊢
        exact ih
      · simp only [hc, decide_false]
        cases others with
        | nil => simpa [unlines, join] using ih
        | cons second more => simpa [unlines, join] using ih

/-- Writes every line ending, a carriage return with or without a line feed, as a line feed. -/
def unifyLineEndings : List Char → List Char
  | [] => []
  | '\r' :: '\n' :: rest => '\n' :: unifyLineEndings rest
  | '\r' :: rest => '\n' :: unifyLineEndings rest
  | c :: rest => c :: unifyLineEndings rest

/-- Writes every pair of a carriage return and a line feed as a line feed. -/
def joinCrLf : List Char → List Char
  | [] => []
  | '\r' :: '\n' :: rest => '\n' :: joinCrLf rest
  | c :: rest => c :: joinCrLf rest

/-- What is left of a text after a given beginning, if it has that beginning. -/
def dropPrefix? : List Char → List Char → Option (List Char)
  | [], text => some text
  | _ :: _, [] => none
  | p :: ps, c :: cs => if p = c then dropPrefix? ps cs else none

/-- What is left of a text before a given ending, if it has that ending. -/
def dropSuffix? (ending text : List Char) : Option (List Char) :=
  (dropPrefix? ending.reverse text.reverse).map List.reverse

/-- Whether a text begins with a given one. -/
def startsWith (start text : List Char) : Bool :=
  (dropPrefix? start text).isSome

def endsWith (ending text : List Char) : Bool :=
  (dropSuffix? ending text).isSome

def decimal (n : Nat) : List Char :=
  Nat.toDigits 10 n

theorem toList_repr (n : Nat) : n.repr.toList = decimal n := Nat.toList_repr

theorem isDigit_of_mem_decimal {n : Nat} {c : Char} (h : c ∈ decimal n) : c.isDigit = true :=
  Nat.isDigit_of_mem_toDigits (by decide) (by decide) h

/-- Different numbers have different digits. -/
theorem decimal_injective : Function.Injective decimal := by
  intro m n h
  have hdigits : Nat.toDigits 10 m = Nat.toDigits 10 n := h
  calc
    m = Nat.ofDigitChars 10 (Nat.toDigits 10 m) 0 := Nat.ofDigitChars_ten_toDigits.symm
    _ = Nat.ofDigitChars 10 (Nat.toDigits 10 n) 0 := by rw [hdigits]
    _ = n := Nat.ofDigitChars_ten_toDigits

end Text

end LinkIndex
