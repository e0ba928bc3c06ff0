import TraversalSdk.Text.Letter
import TraversalSdk.Text.Digit

namespace TraversalSdk.Casing
open Text

def isDelimiter (c : Char) : Bool := c == '_' || c == '-' || c == ' ' || c == '·'

/-- Whether a word ends between `c` and the text behind it: at a change from lower to upper case,
between letters and digits, and before the last of several capitals when a small letter follows. -/
def endsBefore (c : Char) : List Char → Bool
  | [] => false
  | d :: rest =>
    (isLower c && isUpper d) || ((isLower c || isUpper c) && isDigit d)
      || (isDigit c && (isLower d || isUpper d))
      || (isUpper c && isUpper d && rest.head?.any isLower)

/-- A word given backwards, in front of the words that follow it; an empty word is none. -/
def closeWord (word : List Char) (others : List (List Char)) : List (List Char) :=
  if word.isEmpty then others else word.reverse :: others

def wordsFrom (word : List Char) : List Char → List (List Char)
  | [] => closeWord word []
  | c :: rest =>
    if isDelimiter c then closeWord word (wordsFrom [] rest)
    else if endsBefore c rest then closeWord (c :: word) (wordsFrom [] rest)
    else wordsFrom (c :: word) rest

/-- A text is cut into words at delimiters and where letter case or digits change. -/
def words (cs : List Char) : List (List Char) := wordsFrom [] cs

/-- How the first and the other words are written and what stands between them. -/
structure Style where
  first : List Char → List Char
  others : List Char → List Char
  delimiter : Option Char

def isPunctuation (c : Char) : Bool :=
  ('!' ≤ c && c ≤ '/') || (':' ≤ c && c ≤ '@') || ('[' ≤ c && c.toNat ≤ 0x60)
    || (0x7B ≤ c.toNat && c ≤ '~')

def Style.keeps (style : Style) (c : Char) : Bool := style.delimiter == some c || !isPunctuation c

def Style.recased (style : Style) : List (List Char) → List (List Char)
  | [] => []
  | w :: ws => style.first w :: ws.map style.others

def trimDelimiter (delimiter : Option Char) (cs : List Char) : List Char :=
  let isEnd := fun c => delimiter == some c
  ((cs.dropWhile isEnd).reverse.dropWhile isEnd).reverse

/-- The delimiter is trimmed off both ends before punctuation goes, so one that stood beside
punctuation stays. -/
def Style.chars (style : Style) (cs : List Char) : List Char :=
  let joined := List.intercalate style.delimiter.toList (style.recased (words cs))
  (trimDelimiter style.delimiter joined).filter style.keeps

/-- The words are recased, joined, and freed of punctuation. -/
def Style.apply (style : Style) (s : String) : String := String.ofList (style.chars s.toList)

def pascalStyle : Style := ⟨capitalize, capitalize, none⟩
def camelStyle : Style := ⟨lower, capitalize, none⟩
def snakeStyle : Style := ⟨lower, lower, some '_'⟩
def kebabStyle : Style := ⟨lower, lower, some '-'⟩
def titleStyle : Style := ⟨capitalize, capitalize, some ' '⟩
def sentenceStyle : Style := ⟨capitalize, lower, some ' '⟩

def pascal (s : String) : String := pascalStyle.apply s
def camel (s : String) : String := camelStyle.apply s
def snake (s : String) : String := snakeStyle.apply s
def kebab (s : String) : String := kebabStyle.apply s
def title (s : String) : String := titleStyle.apply s
def sentence (s : String) : String := sentenceStyle.apply s

end TraversalSdk.Casing
