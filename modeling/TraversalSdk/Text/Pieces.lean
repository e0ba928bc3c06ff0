namespace TraversalSdk.Text

/-- The pieces between separators, `piece` being the start of the first one backwards. -/
def piecesFrom (separator : Char) (piece : List Char) : List Char → List (List Char)
  | [] => [piece.reverse]
  | c :: cs =>
    if c == separator then piece.reverse :: piecesFrom separator [] cs
    else piecesFrom separator (c :: piece) cs

/-- One piece more than there are separators. -/
def pieces (separator : Char) (cs : List Char) : List (List Char) := piecesFrom separator [] cs

end TraversalSdk.Text
