import TraversalSdk.Text.Letter
import TraversalSdk.Text.Blank
import TraversalSdk.Text.Lines
import TraversalSdk.Text.Utf8
import TraversalSdk.Order

namespace TraversalSdk.Variables
open Text

def isLineEnd (c : Char) : Bool := c == '\n'

def isGap (c : Char) : Bool := isBlank c && !isLineEnd c

def skipGap (cs : List Char) : List Char := cs.dropWhile isGap

/-- What follows the line. -/
def afterLine (cs : List Char) : List Char := (cs.dropWhile (!isLineEnd ·)).drop 1

/-- Whether nothing but a comment is left on the line. -/
def endsLine (cs : List Char) : Bool :=
  match skipGap cs with
  | [] => true
  | c :: _ => isLineEnd c || c == '#'

def skipExport (cs : List Char) : List Char :=
  let rest := cs.drop 6
  if cs.take 6 = "export".toList && rest.head?.any isGap then skipGap rest else cs

def isNameChar (c : Char) : Bool := c != '=' && c != '#' && !isBlank c

/-- The name at the start of a line and what follows it; the inner option is none for a comment. -/
def name? : List Char → Option (Option (List Char) × List Char)
  | '#' :: rest => some (none, '#' :: rest)
  | '\'' :: rest =>
    let name := rest.takeWhile (· != '\'')
    let after := rest.dropWhile (· != '\'')
    if name.isEmpty || after.isEmpty then none else some (some name, after.drop 1)
  | cs =>
    let name := cs.takeWhile isNameChar
    if name.isEmpty then none else some (some name, cs.dropWhile isNameChar)

/-- The text up to the quote that closes it, and what follows. A backslash and the character behind it
belong together. -/
def quotedValue? (quote : Char) : List Char → Option (List Char × List Char)
  | [] => none
  | '\\' :: c :: rest => (quotedValue? quote rest).map fun v => ('\\' :: c :: v.1, v.2)
  | c :: rest =>
    if c == quote then some ([], rest)
    else (quotedValue? quote rest).map fun v => (c :: v.1, v.2)

def unescapeChar (quote c : Char) : Option Char :=
  if c == '\\' || c == '\'' then some c
  else if quote == '\'' then none
  else match c with
    | '"' => some '"'
    | 'a' => some '\x07'
    | 'b' => some '\x08'
    | 'f' => some '\x0c'
    | 'n' => some '\n'
    | 'r' => some '\r'
    | 't' => some '\t'
    | 'v' => some '\x0b'
    | _ => none

def unescape (quote : Char) : List Char → List Char
  | '\\' :: c :: rest => match unescapeChar quote c with
    | some d => d :: unescape quote rest
    | none => '\\' :: unescape quote (c :: rest)
  | c :: rest => c :: unescape quote rest
  | [] => []
termination_by cs => cs.length

/-- A value ends before a blank and a number sign. -/
def bare : List Char → List Char
  | [] => []
  | c :: rest => if isBlank c && (rest.dropWhile isBlank).head? == some '#' then [] else c :: bare rest

/-- The value behind an equals sign and what follows it. -/
def value? (cs : List Char) : Option (List Char × List Char) :=
  match skipGap cs with
  | '\'' :: rest => (quotedValue? '\'' rest).map fun v => (unescape '\'' v.1, v.2)
  | '"' :: rest => (quotedValue? '"' rest).map fun v => (unescape '"' v.1, v.2)
  | _ => some (strip (bare (cs.takeWhile (!isLineEnd ·))), cs.dropWhile (!isLineEnd ·))

/-- The binding at the start of a text, if it can be read to the end of its line, and what follows. A
name without an equals sign has no value. -/
def binding? (cs : List Char) : Option (String × Option String) × List Char :=
  match name? (skipExport cs) with
  | none => (none, afterLine cs)
  | some (none, rest) => (none, afterLine rest)
  | some (some name, rest) =>
    let found := match skipGap rest with
      | '=' :: rest => (value? rest).map fun v => (some (String.ofList v.1), v.2)
      | rest => some (none, rest)
    match found with
    | some (value, rest) =>
      (if endsLine rest then some (String.ofList name, value) else none, afterLine rest)
    | none => (none, afterLine rest)

def bindingsFrom : Nat → List Char → List (String × Option String)
  | 0, _ => []
  | n + 1, cs => match cs.dropWhile isBlank with
    | [] => []
    | cs =>
      let (found, rest) := binding? cs
      found.toList ++ bindingsFrom n rest

/-- The bindings of a text; every one takes at least one character. -/
def bindings (s : String) : List (String × Option String) :=
  bindingsFrom s.toList.length (normalizeNewlines s.toList)

/-- A file may begin with a byte order mark. One that ends within the mark is empty. -/
def withoutMark : List UInt8 → List UInt8
  | 0xEF :: 0xBB :: 0xBF :: bs => bs
  | [0xEF, 0xBB] => []
  | [0xEF] => []
  | bs => bs

def fileText (bytes : ByteArray) : Except Utf8Fault String :=
  let bytes := withoutMark bytes.data.toList
  match Utf8.fault? bytes with
  | some fault => .error fault
  | none => .ok ((String.fromUTF8? ⟨bytes.toArray⟩).getD "")

/-- A reference at the start of a text: the name, what stands in for it, and the length. -/
def reference? : List Char → Option (String × List Char × Nat)
  | '$' :: '\x7b' :: cs =>
    let name := cs.takeWhile fun c => c != '\x7d' && c != ':'
    match cs.drop name.length with
    | '\x7d' :: _ => some (String.ofList name, [], name.length + 3)
    | ':' :: '-' :: rest =>
      let fallback := rest.takeWhile (· != '\x7d')
      if fallback.length < rest.length then
        some (String.ofList name, fallback, name.length + fallback.length + 5)
      else none
    | _ => none
  | _ => none

/-- Puts values in place of references, after passing over `n` characters. -/
def expandFrom (value? : String → Option String) (n : Nat) : List Char → List Char
  | [] => []
  | c :: cs =>
    if 0 < n then expandFrom value? (n - 1) cs
    else match reference? (c :: cs) with
      | some (name, fallback, length) =>
        ((value? name).map String.toList).getD fallback ++ expandFrom value? (length - 1) cs
      | none => c :: expandFrom value? 0 cs

def expand (value? : String → Option String) (s : String) : String :=
  String.ofList (expandFrom value? 0 s.toList)

/-- What a name stands for: what the file said last, or else what the environment says. A name that
the file leaves without a value is empty. -/
def meaning? (environment : List (String × String)) (file : List (String × Option String))
    (name : String) : Option String :=
  ((lookup name file).map fun value => value.getD "").or (lookup name environment)

/-- The variables of a file; of several bindings of a name the last holds. -/
def ofText (environment : List (String × String)) (s : String) : List (String × Option String) :=
  (bindings s).foldl (fun file b =>
    assign b.1 (b.2.map (expand (meaning? environment file))) file) []

/-- Names in any case; of several bindings of a name the last holds. -/
def foldNames {α : Type} (bindings : List (String × α)) : List (String × α) :=
  bindings.foldl (fun found b => assign (lowerString b.1) b.2 found) []

end TraversalSdk.Variables
