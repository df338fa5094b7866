import DataLayer.Terminal.Accent
import DataLayer.Terminal.Table
import DataLayer.Text.Line

/-! What commands show: lines and tables on the output, and complaints beside it. -/

namespace DataLayer.Command

open DataLayer.Terminal

/-- One thing that is shown. All texts are marked up. -/
inductive Shown where
  | line (text : String)
  | complaint (text : String)
  | table (table : Table)

/-- What stands on the output and beside it. -/
structure Screen where
  output : List String := []
  complaints : List String := []

namespace Screen

/-- The width of the terminal. -/
def width : Nat := 1000

/-- Lines of the terminal as they are read back: some characters end a line within them. -/
def readBack (lines : List String) : List String :=
  lines.flatMap fun line => Text.lines (line ++ "\n")

/-- The lines of a marked-up text. -/
def linesOf (text : String) : Except Misuse (List String) := do
  let marked ← Markup.Marked.ofText text
  let lines ← wrap width false (accented marked)
  lines.forM Markup.Marked.checkStyles
  let shown ← lines.mapM fun line => limited width line.runs
  return readBack (shown.map fun pieces => String.ofList pieces.flatten)

/-- Shows one thing. -/
def add (screen : Screen) : Shown → Except Misuse Screen
  | .line text => (linesOf text).map fun lines =>
    { screen with output := screen.output ++ lines }
  | .complaint text => (linesOf text).map fun lines =>
    { screen with complaints := screen.complaints ++ lines }
  | .table table => (table.lines width).map fun lines =>
    { screen with output := screen.output ++ readBack lines }

/-- Shows things one after the other, up to the first that cannot be shown. -/
def addAll (screen : Screen) : List Shown → Screen × Option Misuse
  | [] => (screen, none)
  | first :: rest =>
    match screen.add first with
    | .ok next => next.addAll rest
    | .error misuse => (screen, some misuse)

end Screen
end DataLayer.Command
