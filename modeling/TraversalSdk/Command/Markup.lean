import TraversalSdk.Text.Emoji

namespace TraversalSdk.Markup

def opensTag (c : Char) : Bool := ('a' ≤ c && c ≤ 'z') || c == '#' || c == '/' || c == '@'

/-- Whether a tag goes on behind an opening bracket. -/
def isTag : List Char → Bool
  | [] => false
  | c :: cs => opensTag c
    && (cs.dropWhile fun d => d != '[' && d != ']').head? == some ']'

def backslashes (n : Nat) : List Char := List.replicate n '\\'

/-- Makes text of tags, `n` backslashes having just been read. -/
def escapeFrom (n : Nat) : List Char → List Char
  | [] => backslashes n
  | c :: cs =>
    if c == '\\' then escapeFrom (n + 1) cs
    else if c == '[' && isTag cs then backslashes (2 * n + 1) ++ c :: escapeFrom 0 cs
    else backslashes n ++ c :: escapeFrom 0 cs

/-- A single backslash at the end is doubled, so that it cannot escape a tag that follows. -/
def closeEnd (cs : List Char) : List Char :=
  match cs.reverse with
  | '\\' :: '\\' :: _ => cs
  | '\\' :: _ => cs ++ ['\\']
  | _ => cs

def escape (s : String) : String := String.ofList (closeEnd (escapeFrom 0 s.toList))

/-- Where the reading stands: in text, in a tag, or in a tag that is text. -/
inductive Mode
  | text
  | tag
  | literal

/-- The stretches of text between tags. A tag that is text is a stretch of its own, and so are the
backslashes before a tag, which come in pairs there. `piece` is the start of the stretch backwards, and
`n` backslashes have just been read. -/
def stretchesFrom (mode : Mode) (piece : List Char) (n : Nat) : List Char → List (List Char)
  | [] => [(backslashes n ++ piece).reverse]
  | c :: cs => match mode with
    | .tag => stretchesFrom (if c == ']' then .text else .tag) [] 0 cs
    | .literal =>
      if c == ']' then (c :: piece).reverse :: stretchesFrom .text [] 0 cs
      else stretchesFrom .literal (c :: piece) 0 cs
    | .text =>
      if c == '\\' then stretchesFrom .text piece (n + 1) cs
      else if c == '[' then
        if isTag cs then
          piece.reverse :: backslashes (n / 2) ::
            (if n % 2 = 0 then stretchesFrom .tag [] 0 cs else stretchesFrom .literal [c] 0 cs)
        else stretchesFrom .text (c :: (backslashes (n - 1) ++ piece)) 0 cs
      else stretchesFrom .text (c :: (backslashes n ++ piece)) 0 cs

/-- Bell, backspace, vertical tab, form feed and carriage return are never shown. -/
def isSilent (c : Char) : Bool := [7, 8, 11, 12, 13].contains c.toNat

def shownStretch (cs : List Char) : List Char := (Text.withEmoji cs).filter (!isSilent ·)

def shown (s : String) : String :=
  String.ofList ((stretchesFrom .text [] 0 s.toList).flatMap shownStretch)

end TraversalSdk.Markup
