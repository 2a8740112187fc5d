namespace SerialScript.Text

/-- The piece up to the first separator, and the pieces after it. -/
def leadingPiece (separator : Char) : List Char → List Char × List (List Char)
  | [] => ([], [])
  | c :: rest =>
    let (piece, later) := leadingPiece separator rest
    if c = separator then ([], piece :: later) else (c :: piece, later)

/-- The pieces between separators. There is one more than there are separators. -/
def pieces (separator : Char) (text : List Char) : List (List Char) :=
  (leadingPiece separator text).1 :: (leadingPiece separator text).2

/-- The lines of a text, cut at line feeds. -/
def lines (text : String) : List String := (pieces '\n' text.toList).map String.ofList

theorem pieces_cons_self (separator : Char) (rest : List Char) :
    pieces separator (separator :: rest) = [] :: pieces separator rest := by
  simp [pieces, leadingPiece]

end SerialScript.Text
