import NetNames.NamesFile.Line
import NetNames.Text.Lines

/-!
A names file as a sequence of blocks. An alias line opens a definition, whose body reaches to the
next alias line, the next include line or the end; text before the first of these belongs to none.
-/
namespace NetNames.NamesFile

open Text

inductive Block where
  | definition (name : List Char) (body : List Char)
  | inclusion (target : List Char)
  | stray (line : List Char)
deriving DecidableEq, Repr

/-- The body of a definition: the rest of its alias line and the lines below, trimmed. -/
def bodyOf (rest : List Char) (below : List (List Char)) : List Char :=
  let first := trim rest
  trim ((if first.isEmpty then [] else first ++ ['\n']) ++ below.flatMap (· ++ ['\n']))

/-- The text lines at the start of what was read so far, from the end, and the blocks after. -/
structure Pending where
  lines : List (List Char) := []
  blocks : List Block := []

def Pending.add (l : Line) (p : Pending) : Pending :=
  match l with
  | .blank => p
  | .text s => { p with lines := s :: p.lines }
  | .definition name rest => { blocks := .definition name (bodyOf rest p.lines) :: p.blocks }
  | .inclusion target => { blocks := .inclusion target :: (p.lines.map .stray ++ p.blocks) }

def Pending.close (p : Pending) : List Block := p.lines.map .stray ++ p.blocks

def Block.ofLines (ls : List Line) : List Block := (ls.foldr Pending.add {}).close

def Block.ofText (s : List Char) : List Block := Block.ofLines ((lines s).map Line.of)

end NetNames.NamesFile
