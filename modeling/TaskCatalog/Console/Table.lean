import TaskCatalog.Console.Markup
import TaskCatalog.Console.Paragraph

/-!
Tables with a heavy frame around their headings, and panels with a round frame. Titles and cells are
texts with markup; a cell takes one line.
-/

namespace TaskCatalog

open Text Paragraph

def Text.repeated (t : Text) (n : Nat) : Text := (List.replicate n t).flatten

structure Column where
  heading : Text
  /-- Whether cells stand at the right end of the column. -/
  toRight : Bool

structure Table where
  title : Text
  columns : List Column
  rows : List (List Text)

namespace Table

/-- The width of a column around its widest cell, with a blank on both sides. -/
def naturalWidth (cells : List Text) : Nat := (cells.map width).foldl max 0 + 2

def total : List Nat → Nat
  | [] => 0
  | n :: rest => n + total rest

/-- Takes what does not fit in some columns from the widest of some widths. -/
def narrow (limit : Nat) (widths : List Nat) : List Nat :=
  let excess := total widths - limit
  let widest := widths.foldl max 0
  match widths.idxOf? widest with
  | some i => widths.set i (widest - excess)
  | none => widths

def cell (c : Column) (columns : Nat) (t : Text) : Text :=
  let t := cutMarked (columns - 2) t
  let filled := if c.toRight then List.replicate (columns - 2 - width t) (.scalar ' ') ++ t else padTo (columns - 2) t
  " " ++ filled ++ " "

/-- A line of the frame: its left end, its fill, its crossings and its right end. -/
def rule (left fill crossing right : Text) (widths : List Nat) : Text :=
  left ++ join crossing (widths.map (repeated fill)) ++ right

def bars (bar : Text) (columns : List Column) (widths : List Nat) (cells : List Text) : Text :=
  bar ++ join bar ((columns.zip (widths.zip cells)).map fun (c, columns, t) => cell c columns t) ++ bar

def lines (limit : Nat) (t : Table) : Except Failure (List Text) := do
  let title ← Markup.plain t.title
  let rows ← t.rows.mapM fun row => row.mapM Markup.plain
  let headings := t.columns.map (·.heading)
  let natural := (List.range t.columns.length).map fun i =>
    naturalWidth ((headings :: rows).filterMap fun row => row[i]?)
  let widths := narrow (limit - (t.columns.length + 1)) natural
  let columns := total widths + t.columns.length + 1
  return (wrap columns title).map (centred columns)
    ++ [rule "┏" "━" "┳" "┓" widths, bars "┃" t.columns widths headings, rule "┡" "━" "╇" "┩" widths]
    ++ rows.map (bars "│" t.columns widths)
    ++ [rule "└" "─" "┴" "┘" widths]

end Table

/-- A framed text under a title. -/
structure Panel where
  title : Text
  content : Text

namespace Panel

def titleLine (columns : Nat) (title : Text) : Text :=
  let title : Text := " " ++ title ++ " "
  let left := (columns - width title) / 2
  repeated "─" left ++ title ++ repeated "─" (columns - width title - left)

def lines (columns : Nat) (p : Panel) : Except Failure (List Text) := do
  let title ← Markup.plain p.title
  let content ← Markup.plain p.content
  return ["╭─" ++ titleLine (columns - 4) title ++ "─╮"]
    ++ (wrap (columns - 4) content).map (fun line => "│ " ++ padTo (columns - 4) line ++ " │")
    ++ ["╰" ++ repeated "─" (columns - 2) ++ "╯"]

end Panel

end TaskCatalog
