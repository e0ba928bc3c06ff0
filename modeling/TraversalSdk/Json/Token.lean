import TraversalSdk.Text.Digit

namespace TraversalSdk.Json

inductive Token
  | openArray
  | closeArray
  | openObject
  | closeObject
  | comma
  | colon
  | text (s : String)
  | word (cs : List Char)
  deriving DecidableEq

/-- Where the machine stands: between tokens, in a word, in a string, behind a backslash, in the four
digits of a code, and between the halves of a surrogate pair. Accumulators run backwards. -/
inductive Lexer.Mode
  | between
  | word (acc : List Char)
  | text (acc : List Char)
  | escape (acc : List Char)
  | code (acc : List Char) (left value : Nat) (high : Option Nat)
  | pairSlash (acc : List Char) (high : Nat)
  | pairLetter (acc : List Char) (high : Nat)

/-- The mode and the finished tokens, last first. -/
structure Lexer where
  mode : Lexer.Mode
  tokens : List Token

namespace Lexer

def isSpace (c : Char) : Bool := c == ' ' || c == '\t' || c == '\n' || c == '\r'

def punctuation? (c : Char) : Option Token :=
  match c.toNat with
  | 0x5B => some .openArray
  | 0x5D => some .closeArray
  | 0x7B => some .openObject
  | 0x7D => some .closeObject
  | 0x2C => some .comma
  | 0x3A => some .colon
  | _ => none

/-- A character that belongs to no word and no string. -/
def outside (c : Char) (tokens : List Token) : Lexer :=
  if isSpace c then ⟨.between, tokens⟩
  else if c == '"' then ⟨.text [], tokens⟩
  else match punctuation? c with
    | some t => ⟨.between, t :: tokens⟩
    | none => ⟨.word [c], tokens⟩

def isWordChar (c : Char) : Bool := !isSpace c && c != '"' && (punctuation? c).isNone

def simpleEscape? (c : Char) : Option Char :=
  if c == '"' || c == '\\' || c == '/' then some c
  else if c == 'b' then some (Char.ofNat 8)
  else if c == 'f' then some (Char.ofNat 12)
  else if c == 'n' then some '\n'
  else if c == 'r' then some '\r'
  else if c == 't' then some '\t'
  else none

/-- What a finished code stands for: a character, the first half of a pair, or nothing. -/
def finishCode (acc : List Char) (code : Nat) : Option Nat → Option Mode
  | none =>
    if 0xD800 ≤ code && code ≤ 0xDBFF then some (.pairSlash acc code)
    else if 0xDC00 ≤ code && code ≤ 0xDFFF then none
    else some (.text (Char.ofNat code :: acc))
  | some high =>
    if 0xDC00 ≤ code && code ≤ 0xDFFF then
      some (.text (Char.ofNat (0x10000 + (high - 0xD800) * 0x400 + (code - 0xDC00)) :: acc))
    else none

def step (l : Lexer) (c : Char) : Option Lexer :=
  match l.mode with
  | .between => some (outside c l.tokens)
  | .word acc =>
    if isWordChar c then some ⟨.word (c :: acc), l.tokens⟩
    else some (outside c (.word acc.reverse :: l.tokens))
  | .text acc =>
    if c == '"' then some ⟨.between, .text (String.ofList acc.reverse) :: l.tokens⟩
    else if c == '\\' then some ⟨.escape acc, l.tokens⟩
    else if c.toNat < 0x20 then none
    else some ⟨.text (c :: acc), l.tokens⟩
  | .escape acc =>
    if c == 'u' then some ⟨.code acc 4 0 none, l.tokens⟩
    else (simpleEscape? c).map fun d => ⟨.text (d :: acc), l.tokens⟩
  | .code acc left value high =>
    (Text.hexValue? c).bind fun d =>
      if left ≤ 1 then (finishCode acc (value * 16 + d) high).map fun m => ⟨m, l.tokens⟩
      else some ⟨.code acc (left - 1) (value * 16 + d) high, l.tokens⟩
  | .pairSlash acc high => if c == '\\' then some ⟨.pairLetter acc high, l.tokens⟩ else none
  | .pairLetter acc high => if c == 'u' then some ⟨.code acc 4 0 (some high), l.tokens⟩ else none

/-- The tokens in order, when the text ends outside strings. -/
def finish (l : Lexer) : Option (List Token) :=
  match l.mode with
  | .between => some l.tokens.reverse
  | .word acc => some (.word acc.reverse :: l.tokens).reverse
  | _ => none

end Lexer

def Token.ofText? (cs : List Char) : Option (List Token) :=
  (cs.foldlM Lexer.step ⟨.between, []⟩).bind Lexer.finish

end TraversalSdk.Json
