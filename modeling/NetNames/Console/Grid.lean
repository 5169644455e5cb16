import NetNames.Text.Sequence

/-!
A grid of cells with a heading. Every column is as wide as its widest line, and a row is as high as
its highest cell.
-/
namespace NetNames.Grid

open Text

/-- The lines of a cell. -/
abbrev Cell := List (List Char)

def cell (s : String) : Cell := s.toList.splitOn '\n'

def cellWidth (c : Cell) : Nat := (c.map width).foldl max 0

/-- The greater of the widths, column by column. -/
def widths (rows : List (List Cell)) : List Nat :=
  rows.foldl (fun ws row => List.zipWith max ws (row.map cellWidth))
    (((rows.head?).getD []).map fun _ => 0)

/-- The characters of a line across the grid: at its ends, in it and between columns. -/
structure Rule where
  left : Char
  fill : Char
  between : Char
  right : Char

def top : Rule := ⟨'┌', '─', '┬', '┐'⟩
def underHeading : Rule := ⟨'╞', '═', '╪', '╡'⟩
def betweenRows : Rule := ⟨'├', '╌', '┼', '┤'⟩
def bottom : Rule := ⟨'└', '─', '┴', '┘'⟩

private def joined (left between right : Char) (parts : List (List Char)) : List Char :=
  left :: ([between].intercalate parts ++ [right])

def ruleLine (r : Rule) (ws : List Nat) : List Char :=
  joined r.left r.between r.right (ws.map fun w => List.replicate (w + 2) r.fill)

def padded (w : Nat) (line : List Char) : List Char :=
  ' ' :: (line ++ List.replicate (w - width line) ' ' ++ [' '])

def rowLines (ws : List Nat) (row : List Cell) : List (List Char) :=
  let height := (row.map List.length).foldl max 0
  (List.range height).map fun i =>
    joined '│' '┆' '│' (List.zipWith (fun w cell => padded w (cell[i]?.getD [])) ws row)

/-- The lines of the grid. -/
def render (heading : List String) (rows : List (List String)) : List String :=
  let cells := rows.map (·.map cell)
  let heading := heading.map cell
  let ws := widths (heading :: cells)
  let body := [ruleLine betweenRows ws].intercalate (cells.map (rowLines ws))
  ([ruleLine top ws] ++ rowLines ws heading ++ [ruleLine underHeading ws] ++ body ++
    [ruleLine bottom ws]).map String.ofList

end NetNames.Grid
