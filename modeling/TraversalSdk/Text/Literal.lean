import TraversalSdk.Text.Digit

namespace TraversalSdk.Text

def escapeChar (c : Char) : List Char :=
  if c == '"' then ['\\', '"']
  else if c == '\\' then ['\\', '\\']
  else if c.toNat == 8 then ['\\', 'b']
  else if c.toNat == 12 then ['\\', 'f']
  else if c == '\n' then ['\\', 'n']
  else if c == '\r' then ['\\', 'r']
  else if c == '\t' then ['\\', 't']
  else if c.toNat < 0x20 then '\\' :: 'u' :: hex 4 c.toNat
  else [c]

def literalChars (cs : List Char) : List Char := '"' :: cs.flatMap escapeChar ++ ['"']

/-- A double-quoted string literal, the form that documents and generated sources share. -/
def literal (s : String) : String := String.ofList (literalChars s.toList)

end TraversalSdk.Text
