import TraversalSdk.Order
import TraversalSdk.Casing

namespace TraversalSdk.Naming
open Text

def isNameStart (c : Char) : Bool :=
  ('a' ≤ c && c ≤ 'z') || ('A' ≤ c && c ≤ 'Z') || c == '_'

def isNameChar (c : Char) : Bool := isNameStart c || isAsciiDigit c

def isIdentifierChars : List Char → Bool
  | [] => false
  | c :: cs => isNameStart c && cs.all isNameChar

/-- A letter or underscore followed by letters, digits and underscores, all ASCII. -/
def isIdentifier (s : String) : Bool := isIdentifierChars s.toList

/-- The reserved words of the generated code. -/
def keywords : List String := [
  "False", "None", "True", "and", "as", "assert", "async", "await", "break", "class", "continue",
  "def", "del", "elif", "else", "except", "finally", "for", "from", "global", "if", "import", "in",
  "is", "lambda", "nonlocal", "not", "or", "pass", "raise", "return", "try", "while", "with", "yield"]

def isKeyword (s : String) : Bool := keywords.contains s

/-- A reserved word gets a trailing underscore. -/
def safeIdentifier (s : String) : String := if isKeyword s then s ++ "_" else s

/-- Readable names of symbols. -/
def symbolNames : List (String × String) := [
  ("!", "exclamation"), ("\"", "quote"), ("#", "hash"), ("$", "dollar"), ("%", "percent"),
  ("&", "ampersand"), ("'", "apostrophe"), ("(", "lparen"), (")", "rparen"), ("*", "asterisk"),
  ("+", "plus"), (",", "comma"), ("-", "minus"), (".", "dot"), ("/", "slash"), (":", "colon"),
  (";", "semicolon"), ("<", "lt"), ("=", "equals"), (">", "gt"), ("?", "question"), ("@", "at"),
  ("[", "lbracket"), ("\\", "backslash"), ("]", "rbracket"), ("^", "caret"), ("_", "underscore"),
  ("`", "backtick"), ("\x7b", "lbrace"), ("|", "pipe"), ("\x7d", "rbrace"), ("~", "tilde"),
  ("\"\"\"", "triple_quote"), ("...", "ellipsis")]

def isCapitals (s : String) : Bool :=
  !s.isEmpty && s.toList.all fun c => ('A' ≤ c && c ≤ 'Z') || c == '_'

/-- The word for a character that no identifier holds: its readable name or its code point. -/
def symbolWord (c : Char) : List Char :=
  match lookup (String.singleton c) symbolNames with
  | some name => name.toList
  | none => 'u' :: hex 4 c.toNat

/-- The run of identifier characters that ends at `word`, read backwards, and the words behind it. -/
def spelledFrom (word : List Char) : List Char → List (List Char)
  | [] => if word.isEmpty then [] else [word.reverse]
  | c :: rest =>
    if isNameChar c then spelledFrom (c :: word) rest
    else (if word.isEmpty then [] else [word.reverse]) ++ symbolWord c :: spelledFrom [] rest

/-- The words of a text: runs of identifier characters, and one word for each other character. -/
def spelled (cs : List Char) : List (List Char) := spelledFrom [] cs

/-- Writes every run of underscores as one. -/
def collapseUnderscores : List Char → List Char
  | '_' :: '_' :: rest => collapseUnderscores ('_' :: rest)
  | c :: rest => c :: collapseUnderscores rest
  | [] => []

def stripUnderscores (cs : List Char) : List Char :=
  ((cs.dropWhile (· == '_')).reverse.dropWhile (· == '_')).reverse

/-- A name that starts with a digit gets `n` in front. -/
def guardDigit : List Char → List Char
  | [] => []
  | c :: cs => if isAsciiDigit c then 'n' :: c :: cs else c :: cs

def orWord (fallback : String) (cs : List Char) : List Char :=
  if cs.isEmpty then fallback.toList else cs

/-- The identifier and file stem for a node type. Symbols become words, capitals get a mark that keeps
them apart from their small spelling, and other texts are spelled out. -/
def sanitize (nodeType : String) : String :=
  match lookup nodeType symbolNames with
  | some name => name
  | none =>
    if isIdentifier nodeType then
      if isCapitals nodeType then "upper_" ++ lowerString nodeType else safeIdentifier nodeType
    else
      let joined := collapseUnderscores (List.intercalate ['_'] (spelled nodeType.toList))
      safeIdentifier (String.ofList (guardDigit (orWord "empty" (stripUnderscores joined))))

/-- The method name for a field or a child type. -/
def accessorName (name : String) : String :=
  let snake := (Casing.snake (sanitize name)).toList
  safeIdentifier (String.ofList (guardDigit (orWord "child" snake)))

end TraversalSdk.Naming
