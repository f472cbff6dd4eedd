import IssueTracker.Terminal.Line
import IssueTracker.Terminal.Markup

/-!
# Tables and panels

Text in boxes.  A table has a row for each of its items and a column for each thing to say about
one; it is as wide as its content.  A panel is a box around one text, with a title in its upper
edge.
-/

namespace IssueTracker.Terminal

/-- The columns of the screen. -/
def screenColumns : Nat := 500

/-- A character at which a text is cut to find its longest line. -/
def endsLine (c : Char) : Bool :=
  [0x0A, 0x1C, 0x1D, 0x1E, 0x85, 0x2028, 0x2029].contains c.toNat

/-- The columns that a text takes: those of its longest line. -/
def textWidth (cs : List Char) : Nat := ((Text.pieces endsLine cs).map width).foldl max 0

/-- A line for each part of a rule or row, between two edges and with dividers. -/
def between (left divider right : Char) (parts : List (List Char)) : List Char :=
  left :: [divider].intercalate parts ++ [right]

/-- A line of one character for each column. -/
def rule (left line divider right : Char) (widths : List Nat) : List Char :=
  between left divider right (widths.map fun w => List.replicate (w + 2) line)

/-! ## Tables -/

/-- A column of a table about items of a type. -/
structure Column (α : Type) where
  /-- The markup of the header. -/
  header : String
  alignment : Alignment := .left
  /-- Whether lines of its cells may be broken. -/
  breaks : Bool := true
  /-- The markup of the cell about an item. -/
  cell : α → String

/-- A table. -/
structure Table (α : Type) where
  /-- The markup of the title, if there is one. -/
  title : Option String := none
  hasHeader : Bool := true
  columns : List (Column α)
  items : List α

/-- Cells of a column, all of one width. -/
structure Cells where
  width : Nat
  cells : List (List (List Char))
deriving Repr, DecidableEq

namespace Table

variable {α : Type}

/-- The shown cells of a column, with its header first if the table has one. -/
def cells (t : Table α) (column : Column α) : Except MarkupError Cells := do
  let markup := (if t.hasHeader then [column.header] else []) ++ t.items.map column.cell
  let texts ← markup.mapM shown
  let columns := (texts.map textWidth).foldl max 0
  let arrangement : Arrangement :=
    { columns, overflow := .ellipsis, alignment := column.alignment, breaks := column.breaks }
  return { width := columns, cells := texts.map arrangement.layOut }

/-- The lines of one row: cells of the given widths side by side, as high as the highest. -/
def row (edge divider : Char) (widths : List Nat) (cells : List (List (List Char))) :
    List (List Char) :=
  let height := (cells.map List.length).foldl max 1
  (List.range height).map fun i =>
    between edge divider edge <| (widths.zip cells).map fun (columns, lines) =>
      ' ' :: fill columns ((lines[i]?).getD []) ++ [' ']

/-- The lines of a table. -/
def lines (t : Table α) : Except MarkupError (List (List Char)) := do
  let columns ← t.columns.mapM t.cells
  let widths := columns.map Cells.width
  let cellsAt (i : Nat) : List (List (List Char)) := columns.map fun c => (c.cells[i]?).getD []
  let header := if t.hasHeader then
      rule '┏' '━' '┳' '┓' widths :: row '┃' '┃' widths (cellsAt 0) ++
        [rule '┡' '━' '╇' '┩' widths]
    else [rule '┌' '─' '┬' '┐' widths]
  let first := if t.hasHeader then 1 else 0
  let rows := (List.range t.items.length).flatMap fun i => row '│' '│' widths (cellsAt (first + i))
  let body := header ++ rows ++ [rule '└' '─' '┴' '┘' widths]
  match t.title with
  | none => return body
  | some title =>
    let columns := widths.foldr (fun w columns => w + 3 + columns) 1
    let arrangement : Arrangement := { columns, alignment := .centre }
    return arrangement.layOut (← shown title) ++ body

end Table

/-! ## Panels -/

/-- A text in a box. -/
structure Panel where
  /-- The markup of the title. -/
  title : String
  /-- The markup of the text. -/
  text : String
deriving Repr, DecidableEq

/-- A title on one line, between spaces. -/
def titleLine (cs : List Char) : List Char :=
  ' ' :: withoutTabs (cs.map fun c => if c = '\n' then ' ' else c) ++ [' ']

/-- The lines of a panel. -/
def Panel.lines (p : Panel) : Except MarkupError (List (List Char)) := do
  let title := titleLine (← shown p.title)
  let text ← shown p.text
  let columns := min (screenColumns - 4) (max (textWidth text) (width title))
  let title := fit columns .fold title
  let before := (columns - width title) / 2
  let after := columns - width title - before
  let arrangement : Arrangement := { columns }
  let edge := List.replicate before '─' ++ title ++ List.replicate after '─'
  let top := '╭' :: '─' :: ({ arrangement with breaks := false }.layOut edge).flatten ++ ['─', '╮']
  let bottom := '╰' :: List.replicate (columns + 2) '─' ++ ['╯']
  return top :: (arrangement.layOut text).map (fun line =>
    '│' :: ' ' :: fill columns line ++ [' ', '│']) ++ [bottom]

end IssueTracker.Terminal
