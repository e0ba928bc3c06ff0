import TraversalSdk.Json.Basic
import TraversalSdk.Json.Token
import TraversalSdk.Number.WholeText

namespace TraversalSdk.Json
open Text WholeText

/-- How many digits a number may have before its point, and within how many arrays and objects a value
may lie. -/
structure Limits where
  digits : Nat
  depth : Nat

def documentLimits : Limits := ⟨digitLimit, 200⟩

/-- The part behind the decimal point, and what follows it; `none` for a point without digits. -/
def fraction? : List Char → Option (List Char × List Char)
  | '.' :: rest =>
    let ds := rest.takeWhile isAsciiDigit
    if ds.isEmpty then none else some (ds, rest.dropWhile isAsciiDigit)
  | rest => some ([], rest)

/-- The exponent that a text is, the empty text being none. -/
def exponent? : List Char → Option (Option Int)
  | [] => some none
  | e :: rest =>
    if e == 'e' || e == 'E' then
      let minus := rest.head? == some '-'
      let ds := if minus || rest.head? == some '+' then rest.tail else rest
      if ds.isEmpty || !ds.all isAsciiDigit then none
      else some (some (if minus then -(naturalOfDigits ds : Int) else naturalOfDigits ds))
    else none

/-- A number of the strict grammar: no sign but minus, no leading zero, digits around the point. -/
def number? (limits : Limits) (cs : List Char) : Option Json :=
  let negative := cs.head? == some '-'
  let unsigned := if negative then cs.tail else cs
  let whole := unsigned.takeWhile isAsciiDigit
  if whole.isEmpty || (whole.head? == some '0' && whole.length ≠ 1) || limits.digits < whole.length then
    none
  else do
    let (fraction, rest) ← fraction? (unsigned.dropWhile isAsciiDigit)
    let exponent ← exponent? rest
    if fraction.isEmpty && exponent.isNone then
      let n : Int := naturalOfDigits whole
      some (.int (if negative then -n else n))
    else
      some (.real (.ofDecimal negative (naturalOfDigits (whole ++ fraction))
        (exponent.getD 0 - fraction.length)))

/-- The value of a word. -/
def scalar? (limits : Limits) (cs : List Char) : Option Json :=
  if cs = "null".toList then some .null
  else if cs = "true".toList then some (.bool true)
  else if cs = "false".toList then some (.bool false)
  else if cs = "NaN".toList then some (.real .notANumber)
  else if cs = "Infinity".toList then some (.real (.infinite false))
  else if cs = "-Infinity".toList then some (.real (.infinite true))
  else number? limits cs

/-- An unfinished array, its items backwards, or an unfinished object and the key whose value is due. -/
inductive Reader.Frame
  | array (items : List Json)
  | object (members : List (String × Json)) (key : String)

inductive Reader.Due
  | value
  | itemOrEnd
  | commaOrEnd
  | keyOrEnd
  | key
  | colon
  | nothing (v : Json)

/-- The tokens of a text are taken one at a time by a machine that holds the unfinished arrays and objects. -/
structure Reader where
  frames : List Reader.Frame
  due : Reader.Due

namespace Reader

/-- Puts a finished value where it belongs. Of two members with one key the last value stands at the place of
the first. -/
def put (v : Json) : List Frame → Reader
  | [] => ⟨[], .nothing v⟩
  | .array items :: fs => ⟨.array (v :: items) :: fs, .commaOrEnd⟩
  | .object members key :: fs => ⟨.object (assign key v members) key :: fs, .commaOrEnd⟩

/-- The first token of a value. -/
def begin? (limits : Limits) (fs : List Frame) (t : Token) : Option Reader :=
  if limits.depth < fs.length then none
  else match t with
    | .openArray => some ⟨.array [] :: fs, .itemOrEnd⟩
    | .openObject => some ⟨.object [] "" :: fs, .keyOrEnd⟩
    | .text s => some (put (.str s) fs)
    | .word cs => (scalar? limits cs).map (put · fs)
    | _ => none

def setKey? (s : String) : List Frame → Option Reader
  | .object members _ :: fs => some ⟨.object members s :: fs, .colon⟩
  | _ => none

def close? : Token → List Frame → Option Reader
  | .closeArray, .array items :: fs => some (put (.arr items.reverse) fs)
  | .closeObject, .object members _ :: fs => some (put (.obj members) fs)
  | _, _ => none

/-- What a comma announces. -/
def next? : List Frame → Option Reader
  | .array items :: fs => some ⟨.array items :: fs, .value⟩
  | .object members key :: fs => some ⟨.object members key :: fs, .key⟩
  | [] => none

def step (limits : Limits) (r : Reader) (t : Token) : Option Reader :=
  match r.due, t with
  | .value, t => begin? limits r.frames t
  | .itemOrEnd, .closeArray => close? .closeArray r.frames
  | .itemOrEnd, t => begin? limits r.frames t
  | .commaOrEnd, .comma => next? r.frames
  | .commaOrEnd, t => close? t r.frames
  | .keyOrEnd, .closeObject => close? .closeObject r.frames
  | .keyOrEnd, .text s => setKey? s r.frames
  | .key, .text s => setKey? s r.frames
  | .colon, .colon => some ⟨r.frames, .value⟩
  | _, _ => none

def finish (r : Reader) : Option Json :=
  match r.due with
  | .nothing v => some v
  | _ => none

end Reader

def ofTokens? (limits : Limits) (ts : List Token) : Option Json :=
  (ts.foldlM (Reader.step limits) ⟨[], .value⟩).bind Reader.finish

def ofText? (s : String) : Option Json := (Token.ofText? s.toList).bind (ofTokens? documentLimits)

/-- Reads without limits; nothing in a text is larger than the text. -/
def ofTextOfAnySize? (s : String) : Option Json :=
  (Token.ofText? s.toList).bind (ofTokens? ⟨s.length, s.length⟩)

end TraversalSdk.Json
