import LinkIndex.Report.Emoji.AtoF
import LinkIndex.Report.Emoji.GtoN
import LinkIndex.Report.Emoji.OtoZ
import LinkIndex.Text.Lowercase
import LinkIndex.Text.Blank

/-!
Pictures by their names. A name between colons is written as its picture; an ending
of the name may ask for the form of the picture as text or in colour.
-/

namespace LinkIndex.Report

/-- The names by their first character, each with the characters it stands for. -/
def emojiFrom : Char → List (String × String)
  | 'a' => emojiA
  | 'b' => emojiB
  | 'c' => emojiC
  | 'd' => emojiD
  | 'e' => emojiE
  | 'f' => emojiF
  | 'g' => emojiG
  | 'h' => emojiH
  | 'i' => emojiI
  | 'j' => emojiJ
  | 'k' => emojiK
  | 'l' => emojiL
  | 'm' => emojiM
  | 'n' => emojiN
  | 'o' => emojiO
  | 'p' => emojiP
  | 'q' => emojiQ
  | 'r' => emojiR
  | 's' => emojiS
  | 't' => emojiT
  | 'u' => emojiU
  | 'v' => emojiV
  | 'w' => emojiW
  | 'x' => emojiX
  | 'y' => emojiY
  | 'z' => emojiZ
  | _ => emojiOther

/-- The characters that a name stands for, in any case. -/
def emoji? (name : List Char) : Option (List Char) :=
  match lowercase name with
  | [] => none
  | c :: rest => ((emojiFrom c).lookup (String.ofList (c :: rest))).map String.toList

/-- The endings of names that ask for a form, and the marks for them. -/
def emojiForms : List (List Char × List Char) :=
  [("-emoji".toList, ['\ufe0f']), ("-text".toList, ['\ufe0e'])]

/-- The mark for the form that is asked for where a name ends: what stands there is a colon, or an
ending and a colon. With the mark comes what follows the colon. -/
def nameEnd? (cs : List Char) : Option (List Char × List Char) :=
  match cs with
  | ':' :: after => some ([], after)
  | cs => emojiForms.findSome? fun (ending, mark) =>
    match Text.dropPrefix? ending cs with
    | some (':' :: after) => some (mark, after)
    | _ => none

/-- The name behind a colon, the mark for its form, and what follows the colon that closes it. No
name holds a blank. -/
def named? : List Char → Option (List Char × List Char × List Char)
  | [] => none
  | c :: rest =>
    match nameEnd? (c :: rest) with
    | some (mark, after) => some ([], mark, after)
    | none =>
      if isBlank c then none
      else (named? rest).map fun (name, mark, after) => (c :: name, mark, after)

/-- Writes pictures for the names between colons in the text from its place on, as far as the fuel
goes. What is no name of a picture stays, its colons with it. -/
def withEmojiFrom : Nat → List Char → List Char
  | 0, cs => cs
  | _, [] => []
  | fuel + 1, ':' :: rest =>
    match named? rest with
    | none => ':' :: withEmojiFrom fuel rest
    | some (name, mark, after) =>
      let written := rest.take (rest.length - after.length)
      (match emoji? name with
        | some picture => picture ++ mark
        | none => ':' :: written) ++ withEmojiFrom fuel after
  | fuel + 1, c :: rest => c :: withEmojiFrom fuel rest

/-- Writes pictures for the names between colons. -/
def withEmoji (text : List Char) : List Char :=
  withEmojiFrom text.length text

end LinkIndex.Report
