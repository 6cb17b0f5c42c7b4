import CodecLink.Text.Segments
import CodecLink.Text.Width

/-! Text tables with drawn borders: every column is as wide as its widest line, and a cell of
several lines makes its row taller. -/
namespace CodecLink

structure Table where
  header : List String
  rows : List (List String)
  deriving DecidableEq, Repr

namespace Table

def linesOf (cell : String) : List String := Segments.ofString '\n' cell

def cellWidth (cell : String) : Nat :=
  (linesOf cell).foldl (fun most line => max most (Width.ofString line)) 0

def widths (t : Table) : List Nat :=
  t.rows.foldl (fun widths row => List.zipWith max widths (row.map cellWidth))
    (t.header.map cellWidth)

def pad (width : Nat) (line : String) : String :=
  " " ++ line ++ String.ofList (List.replicate (width - Width.ofString line) ' ') ++ " "

structure Rule where
  left : String
  fill : Char
  between : String
  right : String

def top : Rule := ⟨"┌", '─', "┬", "┐"⟩

def underHeader : Rule := ⟨"╞", '═', "╪", "╡"⟩

def middle : Rule := ⟨"├", '╌', "┼", "┤"⟩

def bottom : Rule := ⟨"└", '─', "┴", "┘"⟩

def drawRule (widths : List Nat) (rule : Rule) : String :=
  let bars := widths.map fun width => String.ofList (List.replicate (width + 2) rule.fill)
  rule.left ++ rule.between.intercalate bars ++ rule.right

def drawRow (widths : List Nat) (row : List String) : List String :=
  let cells := row.map linesOf
  let height := cells.foldl (fun most lines => max most lines.length) 0
  (List.range height).map fun i =>
    let line := List.zipWith (fun width lines => pad width (lines.getD i "")) widths cells
    "│" ++ "┆".intercalate line ++ "│"

def lines (t : Table) : List String :=
  let rows := (t.rows.map (drawRow t.widths)).intersperse [drawRule t.widths middle]
  drawRule t.widths top :: drawRow t.widths t.header ++ drawRule t.widths underHeader
    :: rows.flatten ++ [drawRule t.widths bottom]

end Table

end CodecLink
