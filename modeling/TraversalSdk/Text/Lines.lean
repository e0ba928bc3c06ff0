namespace TraversalSdk.Text

/-- Turns `\r\n` and a lone `\r` into a line feed. -/
def normalizeNewlines : List Char → List Char
  | [] => []
  | '\r' :: '\n' :: rest => '\n' :: normalizeNewlines rest
  | c :: rest => (if c == '\r' then '\n' else c) :: normalizeNewlines rest

def isLineBoundary (c : Char) : Bool :=
  let n := c.toNat
  (10 ≤ n && n ≤ 13) || (0x1C ≤ n && n ≤ 0x1E) || n == 0x85 || n == 0x2028 || n == 0x2029

/-- The line that ends at `acc`, read backwards, in front of the lines that follow. -/
def splitLinesFrom (acc : List Char) : List Char → List (List Char)
  | [] => if acc.isEmpty then [] else [acc.reverse]
  | '\r' :: '\n' :: rest => acc.reverse :: splitLinesFrom [] rest
  | c :: rest =>
    if isLineBoundary c then acc.reverse :: splitLinesFrom [] rest
    else splitLinesFrom (c :: acc) rest

/-- Lines without their boundaries; a boundary at the end opens no further line. -/
def splitLines (cs : List Char) : List (List Char) := splitLinesFrom [] cs

end TraversalSdk.Text
