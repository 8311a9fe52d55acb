import LinkIndex.Json.Reader

/-!
Hosts that a URL may write between brackets: IPv6 addresses, and addresses of
later versions behind a `v`.
-/

namespace LinkIndex.Url

/-- A decimal octet: at most three digits, no leading zero, at most 255. -/
def isOctet (cs : List Char) : Bool :=
  cs ≠ [] && cs.all Char.isDigit && cs.length ≤ 3 && (cs == ['0'] || cs.head? ≠ some '0') &&
    Json.digitsValue cs ≤ 255

/-- Four octets between points. -/
def isIpv4 (cs : List Char) : Bool :=
  let octets := Text.cutAt (· = '.') cs
  octets.length == 4 && octets.all isOctet

/-- At most four hexadecimal digits. -/
def isHextet (cs : List Char) : Bool :=
  cs.all Char.isHexDigit && 1 ≤ cs.length && cs.length ≤ 4

/-- The parts between colons, where an address of four octets at the end counts as two. -/
def ipv6Parts? (cs : List Char) : Option (List (List Char)) :=
  let parts := Text.cutAt (· = ':') cs
  if parts.length < 3 then none
  else
    let last := parts.getLastD []
    if '.' ∈ last then
      if isIpv4 last then some (parts.dropLast ++ [['0'], ['0']]) else none
    else some parts

/-- Eight groups, or fewer where one run of zeros is left out between two colons. An empty
part at either end belongs to that run. -/
def isGroups (parts : List (List Char)) : Bool :=
  if 9 < parts.length then false
  else
    let inner := parts.tail.dropLast
    match inner.count [] with
    | 0 => parts.length == 8 && parts.all isHextet
    | 1 =>
      let skip := inner.idxOf [] + 1
      let high := parts.take skip
      let low := parts.drop (skip + 1)
      let highOk := if high.head? = some [] then high.length == 1 else high.all isHextet
      let lowOk := if low.getLast? = some [] then low.length == 1 else low.all isHextet
      let highSize := if high.head? = some [] then 0 else high.length
      let lowSize := if low.getLast? = some [] then 0 else low.length
      highOk && lowOk && highSize + lowSize ≤ 7
    | _ => false

/-- An IPv6 address, with a zone behind a percent sign if there is one. -/
def isIpv6 (cs : List Char) : Bool :=
  if '/' ∈ cs then false
  else
    let address := cs.takeWhile (· ≠ '%')
    let zoneOk := match cs.dropWhile (· ≠ '%') with
      | [] => true
      | _ :: zone => zone ≠ [] && '%' ∉ zone
    zoneOk && (match ipv6Parts? address with
      | some parts => isGroups parts
      | none => false)

/-- An address of a later version: `v`, hexadecimal digits, a point, and something more. -/
def isFutureAddress : List Char → Bool
  | 'v' :: rest =>
    match rest.takeWhile Char.isHexDigit, rest.dropWhile Char.isHexDigit with
    | _ :: _, '.' :: _ :: _ => true
    | _, _ => false
  | _ => false

def isBracketedHost (cs : List Char) : Bool :=
  if cs.head? = some 'v' then isFutureAddress cs else isIpv6 cs

end LinkIndex.Url
