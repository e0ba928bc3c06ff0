import TraversalSdk.Text.Digit
import TraversalSdk.Text.Blank

namespace TraversalSdk.Numeral
open Text

/-- Digits of other scripts turn into ASCII ones, and other blanks into spaces. -/
def plainChar (c : Char) : Char :=
  if c.toNat < 127 then c
  else if isBlank c then ' '
  else match decimalValue? c with
    | some d => Char.ofNat (d + 48)
    | none => '?'

/-- ASCII white space. -/
def isGap (c : Char) : Bool := c == ' ' || (9 ≤ c.toNat && c.toNat ≤ 13)

/-- Drops underscores; each has to stand between digits. `last` is the character before. -/
def dropUnderscores? (last : Char) : List Char → Option (List Char)
  | [] => some []
  | '_' :: c :: cs =>
    if isAsciiDigit last && isAsciiDigit c then (dropUnderscores? c cs).map (c :: ·) else none
  | ['_'] => none
  | c :: cs => (dropUnderscores? c cs).map (c :: ·)

def isSign (c : Char) : Bool := c == '+' || c == '-'

def dropSign : List Char → List Char
  | c :: cs => if isSign c then cs else c :: cs
  | [] => []

def startsWith (word : String) (cs : List Char) : Bool :=
  word.toList.isPrefixOf (cs.map fun c => if 'A' ≤ c && c ≤ 'Z' then Char.ofNat (c.toNat + 32) else c)

/-- What follows an exponent, if there is one. -/
def afterExponent : List Char → List Char
  | e :: cs =>
    let rest := dropSign cs
    if (e == 'e' || e == 'E') && rest.head?.any isAsciiDigit then rest.dropWhile isAsciiDigit
    else e :: cs
  | [] => []

/-- What follows digits with a decimal point among them or beside them. -/
def afterDigits? (cs : List Char) : Option (List Char) :=
  match cs.dropWhile isAsciiDigit with
  | '.' :: rest =>
    if cs.head?.any isAsciiDigit || rest.head?.any isAsciiDigit then some (rest.dropWhile isAsciiDigit)
    else none
  | rest => if cs.head?.any isAsciiDigit then some rest else none

/-- What follows a real number at the start of a text. -/
def afterReal? (cs : List Char) : Option (List Char) :=
  let unsigned := dropSign cs
  match afterDigits? unsigned with
  | some rest => some (afterExponent rest)
  | none =>
    if startsWith "infinity" unsigned then some (unsigned.drop 8)
    else if startsWith "inf" unsigned || startsWith "nan" unsigned then some (unsigned.drop 3)
    else none

/-- Whether nothing is left but the letter of an imaginary part. -/
def endsImaginary : List Char → Bool
  | c :: cs => (c == 'j' || c == 'J') && cs.all isGap
  | [] => false

/-- A real part, an imaginary part, or both; an imaginary part may be a mere sign. -/
def isComplex (cs : List Char) : Bool :=
  match afterReal? cs with
  | none => endsImaginary (dropSign cs)
  | some rest =>
    if rest.head?.any isSign then endsImaginary ((afterReal? rest).getD rest.tail)
    else rest.all isGap || endsImaginary rest

/-- The bases that a letter behind a zero names. -/
def bases : List (Char × Nat) :=
  [('x', 16), ('X', 16), ('o', 8), ('O', 8), ('b', 2), ('B', 2)]

def isDigitOf (base : Nat) (c : Char) : Bool := (hexValue? c).any (· < base)

/-- Digits of a base, with single underscores between them and blanks behind. -/
def isGrouped (base : Nat) : List Char → Bool
  | [] => false
  | c :: cs => isDigitOf base c && match cs with
    | '_' :: rest => isGrouped base rest
    | [] => true
    | d :: rest => isGrouped base (d :: rest) || (d :: rest).all isGap

/-- A whole number with the letter of its base; one underscore may follow the letter. -/
def isBased (cs : List Char) : Bool :=
  match dropSign cs with
  | '0' :: letter :: rest => (bases.find? fun b => b.1 == letter).any fun b => match rest with
    | '_' :: digits => isGrouped b.2 digits
    | digits => isGrouped b.2 digits
  | _ => false

/-- Whether a word spells a number. -/
def isNumber (word : String) : Bool :=
  let cs := (word.toList.map plainChar).dropWhile isGap
  (dropUnderscores? ' ' cs).any isComplex || isBased cs

end TraversalSdk.Numeral
