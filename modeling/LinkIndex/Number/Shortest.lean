import LinkIndex.Number.Binary64

/-!
The shortest decimal text of a binary number: the fewest digits that read back
as the same number, and of those the ones nearest to it. Numbers below `10 ^ 16`
and from `10 ^ (-4)` are written with a point, others with an exponent.
-/

namespace LinkIndex.Binary64

/-- `m · 2 ^ e` as a quotient. -/
def ratio (m : Nat) (e : Int) : Nat × Nat :=
  if 0 ≤ e then (m * Nat.pow 2 e.toNat, 1) else (m, Nat.pow 2 (-e).toNat)

/-- How often `num / den` has to be taken tenfold to reach one. -/
def leadingZeros : Nat → Nat → Nat → Nat
  | 0, _, _ => 0
  | fuel + 1, num, den => if den ≤ num then 0 else leadingZeros fuel (num * 10) den + 1

/-- The `k` with `10 ^ (k - 1) ≤ num / den < 10 ^ k`. -/
def magnitude (num den : Nat) : Int :=
  if den ≤ num then (Nat.toDigits 10 (num / den)).length
  else 1 - (leadingZeros 400 num den : Int)

/-- A decimal `digits · 10 ^ exponent`. -/
structure Decimal where
  digits : Nat
  exponent : Int
  deriving DecidableEq, Repr

/-- Whether a decimal reads back as `m · 2 ^ e`. -/
def Decimal.readsAs (d : Decimal) (m : Nat) (e : Int) : Bool :=
  ofDecimal false d.digits d.exponent == .finite false m e

/-- The decimal of `n` digits that reads back as `m · 2 ^ e`, if there is one: of the two
neighbours on that grid the nearer one, of two equally near ones the even one. -/
def decimalOf? (m : Nat) (e : Int) (n : Nat) : Option Decimal :=
  let (num, den) := ratio m e
  let x : Int := magnitude num den - n
  let (num, den) :=
    if 0 ≤ x then (num, den * Nat.pow 10 x.toNat) else (num * Nat.pow 10 (-x).toNat, den)
  let low : Decimal := ⟨num / den, x⟩
  let high : Decimal := ⟨num / den + 1, x⟩
  let twiceRest := 2 * (num % den)
  let lowFirst := twiceRest < den ∨ (twiceRest = den ∧ low.digits % 2 = 0)
  let (first, second) := if lowFirst then (low, high) else (high, low)
  if first.readsAs m e then some first
  else if second.readsAs m e then some second
  else none

/-- The shortest decimal that reads back as `m · 2 ^ e`. -/
def shortest (m : Nat) (e : Int) : Decimal :=
  ((List.range 17).findSome? fun n => decimalOf? m e (n + 1)).getD ⟨m, e⟩

/-- Digits without the zeros at their end, and how many zeros those were. -/
def dropTrailingZeros (digits : List Char) : List Char × Nat :=
  let zeros := (digits.reverse.takeWhile (· = '0')).length
  (digits.take (digits.length - zeros), zeros)

/-- A decimal exponent: a sign and at least two digits. -/
def exponentText (x : Int) : List Char :=
  let digits := Nat.toDigits 10 x.natAbs
  (if x < 0 then '-' else '+') :: (if digits.length < 2 then '0' :: digits else digits)

/-- The text of `0.d₁d₂… · 10 ^ point`. -/
def decimalText (digits : List Char) (point : Int) : List Char :=
  if -4 < point ∧ point ≤ 16 then
    if point ≤ 0 then
      '0' :: '.' :: (List.replicate (-point).toNat '0' ++ digits)
    else if (digits.length : Int) ≤ point then
      digits ++ List.replicate (point.toNat - digits.length) '0' ++ ['.', '0']
    else
      digits.take point.toNat ++ '.' :: digits.drop point.toNat
  else
    match digits with
    | [] => []
    | [d] => d :: 'e' :: exponentText (point - 1)
    | d :: rest => d :: '.' :: rest ++ 'e' :: exponentText (point - 1)

def text : Binary64 → String
  | .nan => "nan"
  | .infinite negative => if negative then "-inf" else "inf"
  | .finite negative m e =>
    let sign := if negative then "-" else ""
    if m = 0 then sign ++ "0.0"
    else
      let d := shortest m e
      let all := Nat.toDigits 10 d.digits
      let (digits, _) := dropTrailingZeros all
      sign ++ String.ofList (decimalText digits (all.length + d.exponent))

end LinkIndex.Binary64
