import TraversalSdk.Text.LetterTable

namespace TraversalSdk.Text

def isAscii (c : Char) : Bool := c.toNat < 128

def isLower (c : Char) : Bool :=
  if isAscii c then 'a' ≤ c && c ≤ 'z' else inRuns lowercaseRuns c

def isUpper (c : Char) : Bool :=
  if isAscii c then 'A' ≤ c && c ≤ 'Z' else inRuns uppercaseRuns c

def isCased (c : Char) : Bool :=
  isLower c || isUpper c || (!isAscii c && inRuns titlecaseRuns c)

def isIgnorable (c : Char) : Bool := inRanges ignorableRanges c

def asciiLower (c : Char) : Char :=
  if 'A' ≤ c && c ≤ 'Z' then Char.ofNat (c.toNat + 32) else c

def asciiUpper (c : Char) : Char :=
  if 'a' ≤ c && c ≤ 'z' then Char.ofNat (c.toNat - 32) else c

/-- Lower case of a character wherever it stands. -/
def lowerChar (c : Char) : List Char :=
  if isAscii c then [asciiLower c]
  else if c == 'İ' then ['i', '\u0307']
  else [shifted lowerShifts c]

def titleChar (c : Char) : List Char :=
  if isAscii c then [asciiUpper c]
  else match titleExpansions.find? (·.1 == c.toNat) with
    | some e => e.2.map Char.ofNat
    | none => [shifted titleShifts c]

/-- A sigma ends a word when a letter stands before it and none after, marks not counting. -/
def endsWord (before after : List Char) : Bool :=
  (before.dropWhile isIgnorable).head?.any isCased && !(after.dropWhile isIgnorable).head?.any isCased

/-- Lower case of a text whose preceding characters, nearest first, are `before`. -/
def lowerAfter (before : List Char) : List Char → List Char
  | [] => []
  | c :: rest =>
    (if c == 'Σ' then [if endsWord before rest then 'ς' else 'σ'] else lowerChar c)
      ++ lowerAfter (c :: before) rest

/-- The full mapping: a capital sigma at the end of a word becomes the final form, and one capital letter
becomes two code points. -/
def lower (cs : List Char) : List Char := lowerAfter [] cs

/-- Title case for the first character and lower case for the rest. -/
def capitalize : List Char → List Char
  | [] => []
  | c :: rest => titleChar c ++ lowerAfter [c] rest

def lowerString (s : String) : String := String.ofList (lower s.toList)

end TraversalSdk.Text
