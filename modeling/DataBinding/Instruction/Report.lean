import DataBinding.Instruction.ParseError
import DataBinding.Text.Width

namespace DataBinding

/-!
# Error reports

A report shows the lines that an error is on and points at the place.  The span
of an error is read as character offsets into the source.  What stands below a
line follows the columns of its characters, and a tab reaches to the next
multiple of four, counted in characters.  An error within a line is underlined.
One that crosses lines is bracketed in the margin, and the lines between its
first and its last are left out.
-/

namespace Report

/-- The characters that end a line by themselves. -/
def isLineEnd (c : Char) : Bool :=
  c == '\r' || c == '\n' || c == '\x0b' || c == '\x0c' || c.toNat == 0x85 ||
    c.toNat == 0x2028 || c.toNat == 0x2029

/-- The lines of characters, each with its end.  A carriage return and the line
feed after it are one end. -/
def splitLines : List Char → List (List Char)
  | [] => []
  | '\r' :: '\n' :: rest => ['\r', '\n'] :: splitLines rest
  | c :: rest =>
      if isLineEnd c then
        [c] :: splitLines rest
      else
        match splitLines rest with
        | [] => [[c]]
        | line :: others => (c :: line) :: others

/-- A line of a source: its number from zero, the offset of its first character,
and its characters with its end. -/
structure Line where
  number : Nat
  start : Nat
  chars : List Char
  deriving Repr, DecidableEq

namespace Line

/-- The offset behind a line. -/
def stop (line : Line) : Nat :=
  line.start + line.chars.length

/-- The characters of a line that are shown: those up to the last one that is not
blank. -/
def visible (line : Line) : List Char :=
  Text.trimEnd line.chars

/-- The number of a line as it is shown. -/
def numeral (line : Line) : String :=
  Nat.repr (line.number + 1)

end Line

/-- Lines with their numbers and offsets, counted from those of the first. -/
def locateLines
    (number start : Nat) :
    List (List Char) → List Line
  | [] => []
  | chars :: rest =>
      ⟨number, start, chars⟩ :: locateLines (number + 1) (start + chars.length) rest

/-- The lines of a source. -/
def linesOf (source : String) : List Line :=
  locateLines 0 0 (splitLines source.toList)

/-- The last line that an offset is in or behind.  An offset behind the source is
in no line. -/
def lineAt?
    (offset : Nat)
    (lines : List Line) : Option Line :=
  (lines.filter fun line => line.start ≤ offset && offset ≤ line.stop).getLast?

/-- The offset of the last character of a span, or its start if it is empty. -/
def lastOffset (span : Span) : Nat :=
  max span.start (span.stop - 1)

/-- The number of columns that the character at an index of its line takes. -/
def columnsAt
    (index : Nat)
    (c : Char) : Nat :=
  if c = '\t' then
    4 - index % 4
  else if Text.isBlank c then
    1
  else
    Text.columns c

/-- Characters as they are shown, the first of them at an index of its line: the
blank ones are spaces. -/
def shownChars :
    Nat → List Char → List Char
  | _, [] => []
  | index, c :: rest =>
      let shown := if Text.isBlank c then List.replicate (columnsAt index c) ' ' else [c]
      shown ++ shownChars (index + 1) rest

/-- A line as it is shown. -/
def Line.text (line : Line) : String :=
  String.ofList (shownChars 0 line.visible)

/-- What is drawn below a character: in its first column, and in those after it. -/
structure Stroke where
  first : Char
  rest : Char
  deriving Repr, DecidableEq

namespace Stroke

/-- Nothing. -/
def blank : Stroke :=
  ⟨' ', ' '⟩

/-- A line from left to right. -/
def bar : Stroke :=
  ⟨'─', '─'⟩

/-- A stroke that fills some columns. -/
def fill
    (stroke : Stroke) :
    Nat → List Char
  | 0 => []
  | count + 1 => stroke.first :: List.replicate count stroke.rest

end Stroke

/-- A row below a line, drawn for as many characters as are asked for.  Behind the
visible characters each takes one column. -/
def Line.below
    (line : Line)
    (count : Nat)
    (stroke : Nat → Stroke) : String :=
  String.ofList ((List.range count).flatMap fun index =>
    (stroke index).fill ((line.visible[index]?.map (columnsAt index)).getD 1))

/-- The margin in front of a line, as wide as the largest number needs it. -/
def numberMargin
    (digits : Nat)
    (line : Line) : String :=
  String.ofList (List.replicate (digits + 1 - line.numeral.length) ' ') ++ line.numeral ++ " │ "

/-- The margin in front of a row without number. -/
def emptyMargin
    (digits : Nat)
    (border : Char) : String :=
  String.ofList (List.replicate (digits + 2) ' ') ++ String.singleton border ++ " "

/-- The stroke that underlines the characters from one index to another and marks
the middle.  An empty range has a mark only. -/
def underline
    (start stop middle index : Nat) : Stroke :=
  if index = middle then
    if start < stop then ⟨'┬', '─'⟩ else ⟨'│', ' '⟩
  else if start ≤ index ∧ index < stop then
    .bar
  else
    .blank

/-- The stroke that leads from below the middle to the message. -/
def arrow
    (middle index : Nat) : Stroke :=
  if index = middle then
    ⟨'╰', '─'⟩
  else if middle < index then
    .bar
  else
    .blank

/-- The rows of an error within one line.  One that reaches behind its line is not
shown. -/
def rowsWithin
    (digits : Nat)
    (span : Span)
    (label : String)
    (line : Line) : List String :=
  let margin := emptyMargin digits '│'
  if span.stop ≤ line.stop then
    let start := span.start - line.start
    let stop := span.stop - line.start
    let middle := start + (stop - start) / 2
    [numberMargin digits line ++ line.text,
      margin ++ line.below (stop + 2) (underline start stop middle),
      margin ++ line.below (stop + 2) (arrow middle) ++ " " ++ label]
  else
    [margin]

/-- The rows that a line adds to an error that crosses lines from `first` on. -/
def rowsAcross
    (digits : Nat)
    (span : Span)
    (label : String)
    (first line : Line) : List String :=
  let margin := emptyMargin digits '│'
  if line.number = first.number then
    [numberMargin digits line ++ "╭─▶ " ++ line.text]
  else if line.start ≤ lastOffset span ∧ lastOffset span < line.stop then
    let count := line.chars.length + 2
    [numberMargin digits line ++ "├─▶ " ++ line.text,
      margin ++ "│   " ++ line.below count (fun _ => .blank),
      margin ++ "╰───" ++ line.below count (fun _ => .bar) ++ " " ++ label]
  else if line.number = first.number + 1 then
    [emptyMargin digits '┆' ++ "┆   "]
  else
    []

/-- The rows of an error from its first to its last line. -/
def rows
    (digits : Nat)
    (span : Span)
    (label : String)
    (lines : List Line)
    (first last : Line) : List String :=
  if first.number = last.number then
    rowsWithin digits span label first
  else
    let touched := lines.filter fun line =>
      first.number ≤ line.number && line.number ≤ last.number
    touched.flatMap (rowsAcross digits span label first)

end Report

/-- The lines of the report of a fault in a source with a given name.  A place that
is not in the source is left out. -/
def Fault.report
    (fault : Fault)
    (source file : String) : List String :=
  let heading := "Error: " ++ fault.cause.title
  let lines := Report.linesOf source
  let first? := Report.lineAt? fault.span.start lines
  let last? := Report.lineAt? (Report.lastOffset fault.span) lines
  match first?, last? with
  | some first, some last =>
      let column := Nat.repr (fault.span.start - first.start + 1)
      let digits := last.numeral.length
      let indent := String.ofList (List.replicate (digits + 2) ' ')
      [heading,
        indent ++ "╭─[" ++ file ++ ":" ++ first.numeral ++ ":" ++ column ++ "]",
        indent ++ "│"] ++
      Report.rows digits fault.span fault.cause.label lines first last ++
      [String.ofList (List.replicate (digits + 2) '─') ++ "╯", ""]
  | _, _ => [heading, ""]

end DataBinding
