import TraversalSdk.Text.EmojiTable
import TraversalSdk.Text.Pieces
import TraversalSdk.Text.Digit
import TraversalSdk.Text.Letter
import TraversalSdk.Text.Blank
import TraversalSdk.Order

namespace TraversalSdk.Text

def hexNumber (cs : List Char) : Nat := cs.foldl (fun n c => n * 16 + (hexValue? c).getD 0) 0

/-- An entry of the table: a name, a colon, and code points between commas. -/
def emojiEntry (cs : List Char) : String × List Char :=
  let codes := (cs.dropWhile (· != ':')).drop 1
  (String.ofList (cs.takeWhile (· != ':')),
    (pieces ',' codes).map fun code => Char.ofNat (hexNumber code))

def emojiTable : List (String × List Char) :=
  emojiRows.flatMap fun row => (pieces ' ' row.toList).map emojiEntry

/-- Ways to show an emoji, with the character that asks for each. -/
def emojiVariants : List (List Char × List Char) :=
  [("-text".toList, ['\ufe0e']), ("-emoji".toList, ['\ufe0f'])]

/-- The name without the variant it ends in, and the character for that variant. -/
def splitVariant (name : List Char) : List Char × List Char :=
  match emojiVariants.find? fun v => v.1.isSuffixOf name with
  | some v => (name.take (name.length - v.1.length), v.2)
  | none => (name, [])

/-- The emoji of a name in any case. -/
def emoji? (name : List Char) : Option (List Char) :=
  let (bare, variant) := splitVariant name
  (lookup (String.ofList (lower bare)) emojiTable).map (· ++ variant)

/-- A name that stands between colons and holds no blank. -/
def colonName? (cs : List Char) : Option (List Char) :=
  let name := cs.takeWhile fun c => c != ':' && !isBlank c
  if (cs.drop name.length).head? == some ':' then some name else none

/-- Puts emoji in place of their names, after passing over `n` characters. An unknown name is kept,
and its closing colon opens no other. -/
def withEmojiFrom (n : Nat) : List Char → List Char
  | [] => []
  | c :: cs =>
    if 0 < n then withEmojiFrom (n - 1) cs
    else if c == ':' then
      match colonName? cs with
      | some name =>
        ((emoji? name).getD (':' :: name ++ [':'])) ++ withEmojiFrom (name.length + 1) cs
      | none => c :: withEmojiFrom 0 cs
    else c :: withEmojiFrom 0 cs

def withEmoji (cs : List Char) : List Char := withEmojiFrom 0 cs

end TraversalSdk.Text
