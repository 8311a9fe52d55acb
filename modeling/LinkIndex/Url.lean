import LinkIndex.Text.Letters
import LinkIndex.Url.Host

/-!
Where a link points. A URL is external when it begins with `http://` or `https://`
and its authority is sound; every other text is internal: paths, fragments, mail
addresses, other schemes and what is malformed. Nothing is normalised.
-/

namespace LinkIndex

inductive LinkKind
  | internal
  | external
  deriving DecidableEq, Repr

namespace Url

def isSchemeChar (c : Char) : Bool :=
  c.isAlpha || c.isDigit || c = '+' || c = '-' || c = '.'

/-- A character that `hasScheme` passes over: digits of every script count. -/
def isLooseSchemeChar (c : Char) : Bool :=
  c.isAlpha || isDecimalDigit c || c = '+' || c = '-' || c = '.'

/-- Whether a text begins with a letter, further scheme characters and a colon. -/
def hasScheme : List Char → Bool
  | c :: rest => c.isAlpha && (rest.dropWhile isLooseSchemeChar).head? = some ':'
  | [] => false

/-- Whether a text begins with a drive letter, a colon and a slash of either kind. -/
def isDrivePath : List Char → Bool
  | c :: ':' :: slash :: _ => c.isAlpha && (slash = '\\' || slash = '/')
  | _ => false

/-- What stands before a URL without being part of it: controls and spaces. -/
def isLeading (c : Char) : Bool :=
  c.toNat ≤ 0x20

/-- Tabs and line breaks are dropped from a URL before it is taken apart. -/
def isDropped (c : Char) : Bool :=
  c = '\t' || c = '\r' || c = '\n'

def cleaned (url : List Char) : List Char :=
  (url.dropWhile isLeading).filter fun c => !isDropped c

/-- What stands behind the scheme, where there is one. -/
def afterScheme (url : List Char) : List Char :=
  match url with
  | c :: rest =>
    if c.isAlpha then
      match rest.dropWhile isSchemeChar with
      | ':' :: tail => tail
      | _ => url
    else url
  | [] => url

def endsAuthority (c : Char) : Bool :=
  c = '/' || c = '?' || c = '#'

/-- The authority: what stands between two slashes and the next delimiter. -/
def authority (url : List Char) : List Char :=
  match afterScheme (cleaned url) with
  | '/' :: '/' :: rest => rest.takeWhile fun c => !endsAuthority c
  | _ => []

/-- Characters whose compatibility form holds a delimiter of URLs, such as the fullwidth
slash: a host with one of them would name another host once it is normalised. -/
def hidesDelimiter (c : Char) : Bool :=
  [0x2047, 0x2048, 0x2049, 0x2100, 0x2101, 0x2105, 0x2106, 0x2A74, 0xFE13, 0xFE16, 0xFE55,
   0xFE56, 0xFE5F, 0xFE6B, 0xFF03, 0xFF0F, 0xFF1A, 0xFF1F, 0xFF20].contains c.toNat

/-- The host between the first opening bracket and the next closing one. -/
def bracketed (authority : List Char) : List Char :=
  ((authority.dropWhile (· ≠ '[')).drop 1).takeWhile (· ≠ ']')

/-- Whether brackets come in pairs and hold an address. -/
def bracketsOk (authority : List Char) : Bool :=
  if '[' ∈ authority then ']' ∈ authority && isBracketedHost (bracketed authority)
  else ']' ∉ authority

def authorityOk (authority : List Char) : Bool :=
  bracketsOk authority && !authority.any hidesDelimiter

/-- Whether a URL can be taken apart. -/
def splits (url : List Char) : Bool :=
  authorityOk (authority url)

/-- Whether a URL carries a scheme and can be taken apart. -/
def isAbsolute (url : List Char) : Bool :=
  !isDrivePath url && hasScheme url && splits url

/-- Whether a URL begins with `http://` or `https://`. -/
def isHttp (url : List Char) : Bool :=
  Text.startsWith "http://".toList url || Text.startsWith "https://".toList url

/-- Whether a URL leads out of the documents. -/
def isExternal (url : List Char) : Bool :=
  isHttp url && isAbsolute url

end Url

def classify (url : String) : LinkKind :=
  if Url.isExternal url.toList then .external else .internal

def LinkKind.name : LinkKind → String
  | .internal => "internal"
  | .external => "external"

end LinkIndex
