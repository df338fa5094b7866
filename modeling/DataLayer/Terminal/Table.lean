import DataLayer.Terminal.Wrapping

/-! Tables between lines of a box, with a heavy head and a title above. Columns are as wide as
their widest cell as long as the table fits; a cell that is wider than its column is wrapped. -/

namespace DataLayer.Terminal

open DataLayer.Markup DataLayer.Text

/-- A table: its title, the heads of its columns, and its rows. All of them are marked up. -/
structure Table where
  title : String
  heads : List String
  rows : List (List String)

namespace Table

/-- Holds of the characters that end a line wherever text is measured. -/
def isLineEnd (c : Char) : Bool :=
  [0x0a, 0x1c, 0x1d, 0x1e, 0x85, 0x2028, 0x2029].contains c.toNat

/-- The cells of the widest line of a text. -/
def widest (text : List Char) : Nat :=
  ((splitAtChar '\n' (text.map fun c => if isLineEnd c then '\n' else c)).map cells).foldl max 0

/-- The spaces before a cell: one, but none at the edge of the table. -/
def before (column : Nat) : Nat := if column = 0 then 0 else 1

/-- The spaces after a cell: one, but none at the edge of the table. -/
def after (columns column : Nat) : Nat := if column + 1 = columns then 0 else 1

/-- The nearest whole number to a fraction; a half goes to the even neighbour. -/
def nearest (numerator denominator : Nat) : Nat :=
  let whole := numerator / denominator
  let rest := 2 * (numerator % denominator)
  if rest < denominator then whole
  else if denominator < rest then whole + 1
  else whole + whole % 2

/-- Takes an excess off the columns of one width, none more than `most`. -/
def shed (width most : Nat) (excess : Nat) : List Nat → List Nat
  | [] => []
  | first :: rest =>
    if first = width then
      let part := min most (nearest excess ((first :: rest).count width))
      (first - part) :: shed width most (excess - part) rest
    else first :: shed width most excess rest

/-- Narrows the widest columns to the next ones until the excess is gone. Every round takes away
some of it, so that `fuel` need not be larger than the excess. -/
def narrowed (limit : Nat) (fuel : Nat) (widths : List Nat) : List Nat :=
  match fuel with
  | 0 => widths
  | fuel + 1 =>
    let excess := total widths - limit
    let most := widths.foldl max 0
    let next := (widths.filter (· != most)).foldl max 0
    if excess = 0 || most = next then widths
    else narrowed limit fuel (shed most (min excess (most - next)) excess widths)

/-- The widths of the columns, together with their spaces. -/
def columnWidths (limit : Nat) (columns : Nat) (rows : List (List (List Char))) : List Nat :=
  let full := (List.range columns).map fun column =>
    let widths := rows.map fun row => widest ((row[column]?).getD [])
    min limit (max 1 (widths.foldl max 0 + before column + after columns column))
  narrowed limit (total full) full

/-- The space at a side of a cell. -/
def side (width : Nat) : List (List Char) := if width = 0 then [] else [spaces width]

/-- The lines of a cell in a column of a width, each of them in pieces. -/
def cellLines (columns column width : Nat) (cell : Marked) :
    Except Misuse (List (List (List Char))) := do
  let inner := width - before column - after columns column
  let lines ← wrap inner true cell
  lines.forM Marked.checkStyles
  lines.mapM fun line => do
    let body ← adjusted inner line.runs
    adjusted width (side (before column) ++ body ++ side (after columns column))

/-- The lines of a row between upright lines of the box, no wider than a limit. Cells with fewer
lines than others have empty ones below them, or above them where the row is the `head`. -/
def rowLines (limit : Nat) (edge : Char) (head : Bool) (widths : List Nat) (row : List Marked) :
    Except Misuse (List String) := do
  let cells ← (widths.zip row).zipIdx.mapM fun part =>
    (cellLines widths.length part.2 part.1.1 part.1.2).map fun lines => (part.1.1, lines)
  let height := (cells.map fun cell => cell.2.length).foldl max 0
  let filled ← cells.mapM fun (width, lines) => do
    let blank := List.replicate (height - lines.length) [spaces width]
    (if head then blank ++ lines else lines ++ blank).mapM (adjusted width)
  (List.range height).mapM fun line => do
    let parts := filled.map fun lines => (lines[line]?).getD []
    let pieces ← limited limit
      ([edge] :: parts.flatMap fun part => part ++ [[edge]])
    return String.ofList pieces.flatten

/-- A level line of the box. -/
def levelLine (left line cross right : String) (widths : List Nat) : String :=
  left ++ cross.intercalate (widths.map fun width => String.join (List.replicate width line))
    ++ right

/-- The lines of a title in the middle above a table. -/
def titleLines (width : Nat) (title : Marked) : Except Misuse (List String) :=
  (wrap width false title).map fun lines => lines.map fun line =>
    let bare := trimEnd line.chars
    let left := (width - cells bare) / 2
    String.ofList (spaces left ++ bare ++ spaces (width - left - cells bare))

/-- Reads the cells of a table, one column after the other. -/
def marked (rows : List (List String)) (columns : Nat) : Except Misuse (List (List Marked)) := do
  let read ← (List.range columns).mapM fun column =>
    rows.mapM fun row => Marked.ofText ((row[column]?).getD "")
  return (List.range rows.length).map fun row => read.filterMap fun column => column[row]?

/-- The lines of a table on a terminal of a width. -/
def lines (width : Nat) (table : Table) : Except Misuse (List String) := do
  let columns := table.heads.length
  let marks ← marked (table.heads :: table.rows) columns
  let title ← Marked.ofText table.title
  let widths := columnWidths (width - columns - 1) columns
    (marks.map fun row => row.map Marked.chars)
  let above ← titleLines (total widths + columns + 1) title
  let heads ← (marks.take 1).mapM (rowLines width '┃' true widths)
  let rows ← (marks.drop 1).mapM (rowLines width '│' false widths)
  return above ++ [levelLine "┏" "━" "┳" "┓" widths] ++ heads.flatten
    ++ [levelLine "┡" "━" "╇" "┩" widths] ++ rows.flatten
    ++ [levelLine "└" "─" "┴" "┘" widths]

end Table
end DataLayer.Terminal
