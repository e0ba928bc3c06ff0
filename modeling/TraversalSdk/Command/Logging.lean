import TraversalSdk.Text.Letter
import TraversalSdk.Order

namespace TraversalSdk

/-- A level by number or by name. -/
inductive LogLevel
  | number (n : Int)
  | name (s : String)

namespace LogLevel

def named : List (String × Int) := [("CRITICAL", 50), ("FATAL", 50), ("ERROR", 40), ("WARN", 30),
  ("WARNING", 30), ("INFO", 20), ("DEBUG", 10), ("NOTSET", 0)]

/-- Characters outside ASCII whose capitals are ASCII letters. -/
def foreignCapitals : List (Nat × String) := [(0xDF, "SS"), (0x131, "I"), (0x17F, "S"),
  (0xFB00, "FF"), (0xFB01, "FI"), (0xFB02, "FL"), (0xFB03, "FFI"), (0xFB04, "FFL"), (0xFB05, "ST"),
  (0xFB06, "ST")]

/-- The capitals of a character, as far as they can spell a level. -/
def capitals (c : Char) : List Char :=
  match lookup c.toNat foreignCapitals with
  | some s => s.toList
  | none => [Text.asciiUpper c]

/-- A name that is no level counts as a warning. -/
def value : LogLevel → Int
  | number n => n
  | name s => (lookup (String.ofList (s.toList.flatMap capitals)) named).getD 30

end LogLevel

structure Logger where
  level : Int
  richHandlers : Nat
  otherHandlers : Nat

namespace Logger

/-- Rich output takes the place of all handlers; plain output leaves them. -/
def setUp (l : Logger) (level : LogLevel) (rich : Bool) : Logger :=
  if rich then ⟨level.value, 1, 0⟩ else { l with level := level.value }

def handlers (l : Logger) : Nat := l.richHandlers + l.otherHandlers

end Logger

end TraversalSdk
