/-!
Text cut into lines. A line ends with a line feed, and a carriage return just before it belongs
to the ending; the last line may have no ending.
-/
namespace NetNames.Text

/-- Cuts after every line feed, so that the pieces joined are the text. -/
def cutLines : List Char → List (List Char)
  | [] => []
  | c :: r =>
    if c = '\n' then [c] :: cutLines r
    else match cutLines r with
      | [] => [[c]]
      | l :: ls => (c :: l) :: ls

/-- The line without its ending. -/
def dropEnding (l : List Char) : List Char :=
  match l.reverse with
  | '\n' :: '\r' :: r => r.reverse
  | '\n' :: r => r.reverse
  | _ => l

def lines (s : List Char) : List (List Char) := (cutLines s).map dropEnding

end NetNames.Text
