import DataBinding.Instruction.Prepare
import DataBinding.Proofs.ReportLines
import DataBinding.Text.Utf8

namespace DataBinding

/-!
# The places that reports point at

A report names the line and the column of the first character of its span, and the
row below that line underlines the span.  Rows are compared column by column, as a
tab and a wide character take several.  Spans count bytes, and the report reads them
as counting characters: it points at the right place where all characters up to the
end of the span take one byte.
-/

namespace Report

/-!
## Columns
-/

/-- The number of columns that characters take side by side. -/
def width : List Char → Nat
  | [] => 0
  | c :: rest => Text.columns c + width rest

/-- The characters of a line as the rows below it count them: those behind the last
visible one take one column each. -/
def settled (line : List Char) : List Char :=
  Text.trimEnd line ++ List.replicate (line.length - (Text.trimEnd line).length) ' '

/-- Whether a row underlines characters between others of their line, whose text is
above it: it is blank below what is shown of those in front, drawn below all that is
shown of those between, and blank behind. -/
def Underlines
    (text row front marked rest : List Char) : Prop :=
  let line := settled (front ++ marked ++ rest)
  let before := shownChars 0 (line.take front.length)
  let part := shownChars front.length ((line.drop front.length).take marked.length)
  (∃ behind hidden, text ++ List.replicate hidden ' ' = before ++ part ++ behind) ∧
    ∃ strokes blanks,
      row = List.replicate (width before) ' ' ++ strokes ++ List.replicate blanks ' ' ∧
      strokes.length = width part ∧
      ∀ c ∈ strokes, c = '─' ∨ c = '┬'

@[simp] theorem width_append
    (first second : List Char) :
    width (first ++ second) = width first + width second := by
  induction first with
  | nil =>
      simp [width]
  | cons c rest inductionHypothesis =>
      simp [width, inductionHypothesis, Nat.add_assoc]

@[simp] theorem width_replicate_blank
    (count : Nat) :
    width (List.replicate count ' ') = count := by
  induction count with
  | zero =>
      rfl
  | succ count inductionHypothesis =>
      rw [List.replicate_succ, width, inductionHypothesis, Nat.add_comm]
      rfl

theorem columnsAt_of_visible
    {c : Char}
    (visible : Text.isBlank c = false)
    (index : Nat) :
    columnsAt index c = Text.columns c := by
  have notTab : c ≠ '\t' := by
    rintro rfl
    exact absurd visible (by decide)
  rw [columnsAt, if_neg notTab, visible, if_neg Bool.false_ne_true]

@[simp] theorem columnsAt_blank
    (index : Nat) :
    columnsAt index ' ' = 1 := by
  rfl

theorem shownChars_append
    (index : Nat)
    (first second : List Char) :
    shownChars index (first ++ second) =
      shownChars index first ++ shownChars (index + first.length) second := by
  induction first generalizing index with
  | nil =>
      rfl
  | cons c rest inductionHypothesis =>
      simp only [List.cons_append, shownChars, inductionHypothesis, List.length_cons,
        List.append_assoc, Nat.add_assoc, Nat.add_comm 1]

theorem shownChars_replicate_blank
    (index count : Nat) :
    shownChars index (List.replicate count ' ') = List.replicate count ' ' := by
  induction count generalizing index with
  | zero =>
      rfl
  | succ count inductionHypothesis =>
      rw [List.replicate_succ, shownChars, inductionHypothesis]
      rfl

/-- What is shown of a line, with its blank end. -/
theorem shownChars_settled
    (line : List Char) :
    shownChars 0 (settled line) =
      shownChars 0 (Text.trimEnd line) ++
        List.replicate (line.length - (Text.trimEnd line).length) ' ' := by
  rw [settled, shownChars_append, shownChars_replicate_blank]

theorem length_settled
    (line : List Char) :
    (settled line).length = line.length := by
  have shorter := (Text.trimEnd_isPrefix line).length_le
  rw [settled, List.length_append, List.length_replicate]
  omega

/-!
## Strokes
-/

/-- What is drawn below characters, the first of them at an index of its line. -/
def strokesBelow
    (stroke : Nat → Stroke)
    (index : Nat)
    (chars : List Char) : List Char :=
  (chars.zipIdx index).flatMap fun cell => (stroke cell.2).fill (columnsAt cell.2 cell.1)

section Strokes

variable
  (stroke : Nat → Stroke)
  (index : Nat)

theorem strokesBelow_cons
    (c : Char)
    (rest : List Char) :
    strokesBelow stroke index (c :: rest) =
      (stroke index).fill (columnsAt index c) ++ strokesBelow stroke (index + 1) rest := by
  rw [strokesBelow, List.zipIdx_cons, List.flatMap_cons]
  rfl

theorem strokesBelow_append
    (first second : List Char) :
    strokesBelow stroke index (first ++ second) =
      strokesBelow stroke index first ++ strokesBelow stroke (index + first.length) second := by
  rw [strokesBelow, List.zipIdx_append, List.flatMap_append]
  rfl

theorem Stroke.length_fill
    (stroke : Stroke)
    (count : Nat) :
    (stroke.fill count).length = count := by
  cases count <;> simp [fill]

/-- What is drawn below characters takes as many columns as what is shown of them. -/
theorem length_strokesBelow
    (chars : List Char) :
    (strokesBelow stroke index chars).length = width (shownChars index chars) := by
  induction chars generalizing index with
  | nil =>
      rfl
  | cons c rest inductionHypothesis =>
      rw [strokesBelow_cons, List.length_append, Stroke.length_fill, inductionHypothesis,
        shownChars, width_append]
      cases blank : Text.isBlank c with
      | true =>
          simp
      | false =>
          simp [columnsAt_of_visible blank, width]

/-- What is drawn is the stroke of one of the characters. -/
theorem mem_strokesBelow
    {chars : List Char}
    {c : Char}
    (member : c ∈ strokesBelow stroke index chars) :
    ∃ place, index ≤ place ∧ place < index + chars.length ∧
      (c = (stroke place).first ∨ c = (stroke place).rest) := by
  obtain ⟨⟨shown, place⟩, isCell, drawn⟩ := List.mem_flatMap.mp member
  refine ⟨place, List.le_snd_of_mem_zipIdx isCell, List.snd_lt_add_of_mem_zipIdx isCell, ?_⟩
  cases count : columnsAt place shown with
  | zero =>
      simp [count, Stroke.fill] at drawn
  | succ count =>
      simp only [*, Stroke.fill, List.mem_cons, List.mem_replicate] at drawn
      exact drawn.imp_right And.right

/-- Below characters without strokes all columns are blank. -/
theorem strokesBelow_of_blank
    {chars : List Char}
    (blank : ∀ place, index ≤ place → place < index + chars.length → stroke place = .blank) :
    strokesBelow stroke index chars =
      List.replicate (width (shownChars index chars)) ' ' := by
  rw [List.eq_replicate_iff]
  refine ⟨length_strokesBelow stroke index chars, fun c member => ?_⟩
  obtain ⟨place, above, below, drawn⟩ := mem_strokesBelow stroke index member
  rw [blank place above below] at drawn
  exact drawn.elim id id

/-- A row below a line is what is drawn below its visible characters, as if spaces
followed. -/
theorem Line.below_eq
    (line : Line)
    {count : Nat}
    {cells : List Char}
    (counted : cells.length = count)
    (visible : cells <+: line.visible ++ List.replicate count ' ') :
    line.below count stroke = String.ofList (strokesBelow stroke 0 cells) := by
  rw [below, strokesBelow, List.flatMap_def, List.flatMap_def]
  congr 2
  refine List.ext_getElem (by simp [counted]) fun place isIn _ => ?_
  have isCell : place < cells.length := by
    simpa [counted] using isIn
  have cell : cells[place] = line.visible[place]?.getD ' ' := by
    rw [visible.getElem isCell, List.getElem_append]
    split
    next isVisible =>
        simp [isVisible]
    next hidden =>
        simp [List.getElem?_eq_none (Nat.le_of_not_lt hidden)]
  simp only [List.getElem_map, List.getElem_range, List.getElem_zipIdx, Nat.zero_add, cell]
  cases line.visible[place]? <;> simp

end Strokes

/-!
## Underlined characters
-/

/-- The stroke in front of underlined characters. -/
theorem underline_front
    {start stop index : Nat}
    (inFront : index < start) :
    underline start stop (start + (stop - start) / 2) index = .blank := by
  have notMiddle : index ≠ start + (stop - start) / 2 := by
    omega
  rw [underline, if_neg notMiddle, if_neg (by omega)]

/-- The stroke behind underlined characters. -/
theorem underline_behind
    {start stop index : Nat}
    (solid : start < stop)
    (isBehind : stop ≤ index) :
    underline start stop (start + (stop - start) / 2) index = .blank := by
  have notMiddle : index ≠ start + (stop - start) / 2 := by
    omega
  rw [underline, if_neg notMiddle, if_neg (by omega)]

/-- The stroke of underlined characters. -/
theorem underline_within
    {start stop index : Nat}
    (middle : Nat)
    (above : start ≤ index)
    (below : index < stop) :
    underline start stop middle index = .bar ∨
      underline start stop middle index = ⟨'┬', '─'⟩ := by
  rw [underline]
  split
  · exact .inr (if_pos (by omega))
  · exact .inl (if_pos ⟨above, below⟩)

/-- The first characters of a line and the two columns behind them, as the rows below
the line count them. -/
theorem Line.exists_cells
    (line : Line)
    {stop : Nat}
    (fits : stop ≤ line.chars.length) :
    ∃ tail, tail.length = 2 ∧
      (settled line.chars).take stop ++ tail <+:
        line.visible ++ List.replicate (stop + 2) ' ' := by
  let padded := line.visible ++ List.replicate (stop + 2) ' '
  have same : (settled line.chars).take stop = padded.take stop := by
    simp only [settled, padded, visible, List.take_append, List.take_replicate]
    congr 2
    omega
  refine ⟨(padded.drop stop).take 2, ?_, ?_⟩
  · simp only [padded, List.length_take, List.length_drop, List.length_append,
      List.length_replicate]
    omega
  · rw [same, ← List.take_add]
    exact List.take_prefix (stop + 2) padded

/-- The row below a line that is drawn from one place to another underlines the characters
between them. -/
theorem Line.below_underlines
    (line : Line)
    {front marked rest : List Char}
    (chars : line.chars = front ++ marked ++ rest)
    (solid : marked ≠ []) :
    let start := front.length
    let stop := front.length + marked.length
    Underlines line.text.toList
      (line.below (stop + 2) (underline start stop (start + (stop - start) / 2))).toList
      front marked rest := by
  intro start stop
  let stroke := underline start stop (start + (stop - start) / 2)
  let cells := settled line.chars
  let before := cells.take start
  let part := (cells.drop start).take marked.length
  have nonempty : start < stop :=
    Nat.lt_add_of_pos_right (List.length_pos_iff.mpr solid)
  have counted : line.chars.length = stop + rest.length := by
    rw [chars, List.length_append, List.length_append]
  have lengthCells : cells.length = stop + rest.length := by
    rw [length_settled, counted]
  have lengthBefore : before.length = start := by
    rw [List.length_take]
    omega
  have lengthPart : start + part.length = stop := by
    rw [List.length_take, List.length_drop]
    omega
  have taken : cells.take stop = before ++ part :=
    List.take_add
  obtain ⟨tail, two, visible⟩ := line.exists_cells (counted ▸ Nat.le_add_right stop rest.length)
  rw [taken] at visible
  rw [Underlines, ← chars]
  refine ⟨⟨shownChars stop (cells.drop stop),
    line.chars.length - (Text.trimEnd line.chars).length, ?_⟩,
    strokesBelow stroke start part, width (shownChars stop tail), ?_, ?_, ?_⟩
  · calc line.text.toList ++
          List.replicate (line.chars.length - (Text.trimEnd line.chars).length) ' '
        = shownChars 0 cells := by
          rw [shownChars_settled, Line.text, String.toList_ofList]
          rfl
      _ = shownChars 0 (before ++ part ++ cells.drop stop) := by
          rw [← taken, List.take_append_drop]
      _ = shownChars 0 before ++ shownChars start part ++ shownChars stop (cells.drop stop) := by
          rw [shownChars_append, shownChars_append, List.length_append, Nat.zero_add,
            lengthBefore, Nat.zero_add, lengthPart]
  · have blankBefore :
        strokesBelow stroke 0 before = List.replicate (width (shownChars 0 before)) ' ' :=
      strokesBelow_of_blank stroke 0 fun place _ inFront =>
        underline_front (by omega)
    have blankBehind :
        strokesBelow stroke stop tail = List.replicate (width (shownChars stop tail)) ' ' :=
      strokesBelow_of_blank stroke stop fun place isBehind _ =>
        underline_behind nonempty isBehind
    have cellCount : (before ++ part ++ tail).length = stop + 2 := by
      rw [List.length_append, List.length_append, two, lengthBefore, lengthPart]
    rw [line.below_eq stroke cellCount visible, String.toList_ofList, strokesBelow_append,
      strokesBelow_append, List.length_append, Nat.zero_add, lengthBefore, Nat.zero_add,
      lengthPart, blankBefore, blankBehind]
  · exact length_strokesBelow stroke start part
  · intro c member
    obtain ⟨place, above, below, drawn⟩ := mem_strokesBelow stroke start member
    rw [lengthPart] at below
    rcases underline_within (start + (stop - start) / 2) above below with bar | mark
    · rw [show stroke place = .bar from bar] at drawn
      exact drawn.elim .inl .inl
    · rw [show stroke place = ⟨'┬', '─'⟩ from mark] at drawn
      exact drawn.elim .inr .inl

/-!
## Reports within a line
-/

/-- The margin in front of a number that is as long as the longest. -/
theorem numberMargin_numeral
    (line : Line) :
    numberMargin line.numeral.length line = " " ++ line.numeral ++ " │ " := by
  rw [numberMargin, Nat.add_sub_cancel_left]
  rfl

theorem emptyMargin_border
    (digits : Nat) :
    emptyMargin digits '│' = String.ofList (List.replicate (digits + 2) ' ') ++ "│ " := by
  rw [emptyMargin, String.append_assoc]
  rfl

/-- The report of a fault that starts and ends in a line. -/
theorem report_withinLine
    {fault : Fault}
    {source : String}
    (file : String)
    {line last : Line}
    (found : lineAt? fault.span.start (linesOf source) = some line)
    (foundLast : lineAt? (lastOffset fault.span) (linesOf source) = some last)
    (same : line.number = last.number)
    {start stop : Nat}
    (spanStart : fault.span.start = line.start + start)
    (spanStop : fault.span.stop = line.start + stop)
    (fits : stop ≤ line.chars.length) :
    let middle := start + (stop - start) / 2
    let indent := String.ofList (List.replicate (line.numeral.length + 2) ' ')
    fault.report source file =
      ["Error: " ++ fault.cause.title,
        indent ++ "╭─[" ++ file ++ ":" ++ line.numeral ++ ":" ++ Nat.repr (start + 1) ++ "]",
        indent ++ "│",
        " " ++ line.numeral ++ " │ " ++ line.text,
        indent ++ "│ " ++ line.below (stop + 2) (underline start stop middle),
        indent ++ "│ " ++ line.below (stop + 2) (arrow middle) ++ " " ++ fault.cause.label,
        String.ofList (List.replicate (line.numeral.length + 2) '─') ++ "╯", ""] := by
  have sameNumeral : last.numeral = line.numeral := by
    rw [Line.numeral, Line.numeral, same]
  have isWithin : line.start + stop ≤ line.stop :=
    Nat.add_le_add_left fits line.start
  simp only [Fault.report, found, foundLast, sameNumeral, rows, if_pos same]
  simp only [rowsWithin, spanStart, spanStop, if_pos isWithin, Nat.add_sub_cancel_left,
    emptyMargin_border, numberMargin_numeral]
  rfl

/-!
## The line of a span
-/

section Place

variable
  {source : String}
  {before marked behind : List Char}
  (split : source.toList = before ++ marked ++ behind)
  (solid : marked ≠ [])
  (inside : ∀ index, before.length < index → index < before.length + marked.length →
    startsLine source.toList index = false)

include split solid inside

/-- Characters that no line starts within are looked up in one line, which has them between
others. -/
theorem exists_lineAt? :
    ∃ line front rest,
      lineAt? before.length (linesOf source) = some line ∧
      line.number + 1 = lineNumber source.toList before.length ∧
      line.start = lineStart source.toList before.length ∧
      line.start + front.length = before.length ∧
      line.chars = front ++ marked ++ rest ∧
      IsLine source.toList line.start line.chars := by
  let start := lineStart source.toList before.length
  have pos := List.length_pos_iff.mpr solid
  have lengths : source.toList.length = before.length + marked.length + behind.length := by
    rw [split, List.length_append, List.length_append]
  have isIn : before.length < source.toList.length := by
    omega
  obtain ⟨line, found, isLine⟩ := lineAt?_linesOf source isIn
  have reaches := isLine.stop_le inside (by omega)
  have startsBefore : start ≤ before.length :=
    Nat.findGreatest_le before.length
  obtain ⟨later, place⟩ := isLine.place
  have around :
      source.toList.drop start = before.drop start ++ marked ++ behind := by
    rw [split, List.append_assoc, List.drop_append_of_le_length startsBefore, List.append_assoc]
  have lengthFront : start + (before.drop start).length = before.length := by
    rw [List.length_drop]
    omega
  obtain ⟨rest, rfl⟩ : before.drop start ++ marked <+: line := by
    refine List.prefix_of_prefix_length_le (around ▸ List.prefix_append _ behind)
      (place ▸ List.prefix_append line later) ?_
    rw [List.length_append]
    omega
  exact ⟨_, before.drop start, rest, found,
    Nat.sub_add_cancel (lineNumber_pos source.toList before.length), rfl, lengthFront, rfl, isLine⟩

/-- The last of the characters is looked up in a line with the same number. -/
theorem exists_lineAt?_last :
    ∃ last,
      lineAt? (before.length + marked.length - 1) (linesOf source) = some last ∧
      last.number + 1 = lineNumber source.toList before.length := by
  have pos := List.length_pos_iff.mpr solid
  have lengths : source.toList.length = before.length + marked.length + behind.length := by
    rw [split, List.length_append, List.length_append]
  have isIn : before.length + marked.length - 1 < source.toList.length := by
    omega
  obtain ⟨line, found, -⟩ := lineAt?_linesOf source isIn
  refine ⟨_, found, ?_⟩
  rw [Nat.sub_add_cancel (lineNumber_pos source.toList _),
    lineNumber_of_inside inside (by omega) (by omega)]

end Place

end Report

/-!
## Bytes and characters
-/

theorem Text.byteLength_of_single
    {text : List Char}
    (single : ∀ c ∈ text, c.utf8Size = 1) :
    byteLength text = text.length := by
  induction text with
  | nil =>
      rfl
  | cons c rest inductionHypothesis =>
      rw [List.forall_mem_cons] at single
      rw [byteLength, single.1, inductionHypothesis single.2, List.length_cons, Nat.add_comm]

open Report

/-- Whether the report of a fault points at characters from an offset of a source on: it
names the line and the column of the first of them, shows their line, and underlines
them in the row below it. -/
def Fault.ReportPointsAt
    (fault : Fault)
    (source file : String)
    (offset : Nat)
    (marked : List Char) : Prop :=
  let chars := source.toList
  let start := lineStart chars offset
  let number := Nat.repr (lineNumber chars offset)
  let column := Nat.repr (columnNumber chars offset)
  let indent := String.ofList (List.replicate (number.length + 2) ' ')
  ∃ front rest text row arrow,
    IsLine chars start (front ++ marked ++ rest) ∧
    start + front.length = offset ∧
    Underlines text.toList row.toList front marked rest ∧
    fault.report source file =
      ["Error: " ++ fault.cause.title,
        indent ++ "╭─[" ++ file ++ ":" ++ number ++ ":" ++ column ++ "]",
        indent ++ "│",
        " " ++ number ++ " │ " ++ text,
        indent ++ "│ " ++ row,
        indent ++ "│ " ++ arrow ++ " " ++ fault.cause.label,
        String.ofList (List.replicate (number.length + 2) '─') ++ "╯", ""]

section Report

variable
  (fault : Fault)
  {source : String}
  (file : String)
  {before marked behind : List Char}
  (split : source.toList = before ++ marked ++ behind)
  (solid : marked ≠ [])
  (inside : ∀ index, before.length < index → index < before.length + marked.length →
    startsLine source.toList index = false)

include split solid inside

/-- The report of a fault within a line points at the characters that its span counts. -/
theorem Fault.report_of_characters
    (spanStart : fault.span.start = before.length)
    (spanStop : fault.span.stop = before.length + marked.length) :
    fault.ReportPointsAt source file before.length marked := by
  unfold ReportPointsAt
  intro chars lineOffset number column indent
  have pos := List.length_pos_iff.mpr solid
  obtain ⟨line, front, rest, found, lineNumbered, lineStarts, lengthFront, lineChars, isLine⟩ :=
    exists_lineAt? split solid inside
  obtain ⟨last, foundLast, lastNumbered⟩ := exists_lineAt?_last split solid inside
  have isLast : lastOffset fault.span = before.length + marked.length - 1 := by
    rw [lastOffset, spanStart, spanStop]
    omega
  have sameLine : line.number = last.number := by
    omega
  have startsAt : fault.span.start = line.start + front.length := by
    omega
  have stopsAt : fault.span.stop = line.start + (front.length + marked.length) := by
    omega
  have fits : front.length + marked.length ≤ line.chars.length := by
    simp [lineChars]
  have reported :=
    report_withinLine file (spanStart ▸ found) (isLast ▸ foundLast) sameLine startsAt stopsAt fits
  have numeral : line.numeral = number := by
    rw [Line.numeral, lineNumbered]
  have isColumn : Nat.repr (front.length + 1) = column := by
    rw [show column = Nat.repr (before.length - line.start + 1) by rw [lineStarts]; rfl,
      ← lengthFront, Nat.add_sub_cancel_left]
  rw [numeral, isColumn] at reported
  refine ⟨front, rest, line.text, _, _, ?_, ?_, line.below_underlines lineChars solid, reported⟩
  · rwa [← lineChars, show lineOffset = line.start from lineStarts.symm]
  · rwa [show lineOffset = line.start from lineStarts.symm]

/--
The report of a fault points at what its span counts in bytes, where all characters up
to the end of the span take one byte: whatever the fault and wherever lines end in the
source, the report names the line and the column of the first character of the span
and underlines the characters of the span and no others.
-/
theorem Fault.report_pointsAt
    (spanStart : fault.span.start = Text.byteLength before)
    (spanStop : fault.span.stop = Text.byteLength (before ++ marked))
    (single : ∀ c ∈ before ++ marked, c.utf8Size = 1) :
    fault.ReportPointsAt source file before.length marked := by
  have lengthBefore : Text.byteLength before = before.length :=
    Text.byteLength_of_single fun c member => single c (List.mem_append_left marked member)
  have lengthBoth : Text.byteLength (before ++ marked) = before.length + marked.length := by
    rw [Text.byteLength_of_single single, List.length_append]
  exact fault.report_of_characters file split solid inside (spanStart.trans lengthBefore)
    (spanStop.trans lengthBoth)

end Report

/-- Two instructions on two lines.  The second one has a tab in front of it and a word that
names no action. -/
def indentedSource : String :=
  "name .,\r\n\tname bogus"

/-- The error of an instruction on the second line, of which the tab is the first
character. -/
theorem Fault.report_pointsAt_indentedSource :
    let fault := Fault.unknownAction (.name "bogus" ⟨15, 20⟩)
    errorsOf (prepareEach (.ofData .null) indentedSource) = [⟨fault, "name bogus"⟩] ∧
      lineNumber indentedSource.toList 15 = 2 ∧
      columnNumber indentedSource.toList 15 = 7 ∧
      fault.ReportPointsAt indentedSource "<z-var>" 15 "bogus".toList := by
  have split :
      indentedSource.toList = "name .,\r\n\tname ".toList ++ "bogus".toList ++ [] := by
    decide
  have inside :
      ∀ index < 20, 15 < index → startsLine indentedSource.toList index = false := by
    decide
  have single :
      ∀ c ∈ "name .,\r\n\tname ".toList ++ "bogus".toList, c.utf8Size = 1 := by
    have all :
        ("name .,\r\n\tname ".toList ++ "bogus".toList).all (fun c => c.utf8Size == 1) := by
      decide
    simpa only [List.all_eq_true, beq_iff_eq] using all
  refine ⟨rfl, by decide, by decide, ?_⟩
  exact Fault.report_pointsAt _ "<z-var>" split (by decide)
    (fun index above below => inside index below above) rfl rfl single

/-- Behind a character of two bytes, the report names the column after the one that the
word is in, and shows nothing of the line, as the place seems to reach behind it. -/
theorem Fault.report_pointsAt_accentedName :
    let fault := Fault.unknownAction (.name "bogus" ⟨3, 8⟩)
    errorsOf (prepareEach (.ofData .null) "é bogus") = [⟨fault, "é bogus"⟩] ∧
      fault.span = ⟨Text.byteLength "é ".toList, Text.byteLength "é bogus".toList⟩ ∧
      lineNumber "é bogus".toList "é ".toList.length = 1 ∧
      columnNumber "é bogus".toList "é ".toList.length = 3 ∧
      fault.report "é bogus" "<z-var>" =
        ["Error: Unknown action", "   ╭─[<z-var>:1:4]", "   │", "   │ ", "───╯", ""] ∧
      ¬fault.ReportPointsAt "é bogus" "<z-var>" "é ".toList.length "bogus".toList := by
  intro fault
  have reported :
      fault.report "é bogus" "<z-var>" =
        ["Error: Unknown action", "   ╭─[<z-var>:1:4]", "   │", "   │ ", "───╯", ""] := by
    decide +kernel
  refine ⟨rfl, rfl, by decide, by decide, reported, ?_⟩
  rintro ⟨front, rest, text, row, arrow, -, -, -, lines⟩
  rw [reported] at lines
  have tooFar := (List.cons.inj (List.cons.inj lines).2).1
  exact absurd tooFar (by decide)

end DataBinding
