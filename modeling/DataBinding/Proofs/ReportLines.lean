import DataBinding.Instruction.Report
import Mathlib.Data.Nat.Count
import Mathlib.Data.Nat.Find

namespace DataBinding.Report

/-!
# The lines of reports

Where a line starts is told by the two characters in front of and at an offset.
The number of an offset's line is then a count of starts, and the front of the
line is the greatest of them.  The lines that a report looks a place up in are
the ones between two starts, with these numbers.
-/

/-- Whether a line starts at an offset of characters: in front of them all, and behind
each character that ends a line if another one follows.  None starts between a
carriage return and a line feed. -/
def startsLine
    (chars : List Char) :
    Nat → Bool
  | 0 => true
  | index + 1 =>
      match chars[index]?, chars[index + 1]? with
      | some c, some next => isLineEnd c && !(c == '\r' && next == '\n')
      | _, _ => false

/-- The number of the line that the character at an offset is in, from one. -/
def lineNumber
    (chars : List Char)
    (offset : Nat) : Nat :=
  Nat.count (startsLine chars ·) (offset + 1)

theorem lineNumber_pos
    (chars : List Char)
    (offset : Nat) :
    0 < lineNumber chars offset := by
  rw [lineNumber, Nat.add_comm, Nat.count_add]
  exact Nat.lt_of_lt_of_le Nat.one_pos (Nat.le_add_right 1 _)

/-- The offset of the first character of the line that the character at an offset is
in. -/
def lineStart
    (chars : List Char)
    (offset : Nat) : Nat :=
  Nat.findGreatest (startsLine chars ·) offset

/-- The place of a character in its line, from one. -/
def columnNumber
    (chars : List Char)
    (offset : Nat) : Nat :=
  offset - lineStart chars offset + 1

/-- Whether characters at an offset are a line: there are some, a line starts there, none
starts within, and behind them is the end or the next one. -/
structure IsLine
    (chars : List Char)
    (offset : Nat)
    (line : List Char) : Prop where
  solid : line ≠ []
  place : ∃ behind, chars.drop offset = line ++ behind
  starts : startsLine chars offset
  within : ∀ index, offset < index → index < offset + line.length →
    startsLine chars index = false
  behind : offset + line.length < chars.length → startsLine chars (offset + line.length)

/-!
## Starts of lines behind a first line
-/

section Starts

@[simp] theorem startsLine_zero
    (chars : List Char) :
    startsLine chars 0 = true :=
  rfl

theorem startsLine_cons
    (c : Char)
    (chars : List Char)
    (index : Nat) :
    startsLine (c :: chars) (index + 2) = startsLine chars (index + 1) :=
  rfl

/-- Behind a line, lines start where they do without it. -/
theorem startsLine_append
    (line rest : List Char)
    (index : Nat) :
    startsLine (line ++ rest) (line.length + (index + 1)) = startsLine rest (index + 1) := by
  induction line with
  | nil =>
      simp
  | cons c line inductionHypothesis =>
      rw [← inductionHypothesis, List.cons_append, List.length_cons,
        show line.length + 1 + (index + 1) = line.length + index + 2 by omega,
        startsLine_cons]
      rfl

/-- Whether characters are divided into a first line and the rest. -/
structure FirstLine (line rest : List Char) : Prop where
  solid : line ≠ []
  within : ∀ index, 0 < index → index < line.length → startsLine (line ++ rest) index = false
  behind : rest ≠ [] → startsLine (line ++ rest) line.length

namespace FirstLine

variable
  {line rest : List Char}
  (first : FirstLine line rest)

include first

theorem length_pos :
    0 < line.length :=
  List.length_pos_iff.mpr first.solid

/-- The lines of the rest start where those of all characters do. -/
theorem startsLine_add
    (index : Nat)
    (isIn : index < rest.length) :
    startsLine (line ++ rest) (line.length + index) = startsLine rest index := by
  cases index with
  | zero =>
      exact first.behind (List.ne_nil_of_length_pos isIn)
  | succ index =>
      exact startsLine_append line rest index

theorem count_within
    {count : Nat}
    (pos : 0 < count)
    (isIn : count ≤ line.length) :
    Nat.count (startsLine (line ++ rest) ·) count = 1 := by
  induction count, pos using Nat.le_induction with
  | base =>
      rfl
  | succ count pos inductionHypothesis =>
      rw [Nat.count_succ, inductionHypothesis (by omega),
        if_neg (by simp [first.within count pos (by omega)])]

theorem lineNumber_within
    {offset : Nat}
    (isIn : offset < line.length) :
    lineNumber (line ++ rest) offset = 1 :=
  first.count_within (Nat.succ_pos offset) isIn

theorem lineStart_within
    {offset : Nat}
    (isIn : offset < line.length) :
    lineStart (line ++ rest) offset = 0 := by
  rw [lineStart, Nat.findGreatest_eq_zero_iff]
  intro index pos bound
  simp [first.within index pos (by omega)]

theorem lineNumber_add
    {offset : Nat}
    (isIn : offset < rest.length) :
    lineNumber (line ++ rest) (line.length + offset) = lineNumber rest offset + 1 := by
  have counted :
      Nat.count (fun index => startsLine (line ++ rest) (line.length + index)) (offset + 1) =
        Nat.count (startsLine rest ·) (offset + 1) := by
    rw [Nat.count_eq_card_filter_range, Nat.count_eq_card_filter_range]
    congr 1
    refine Finset.filter_congr fun index member => ?_
    rw [first.startsLine_add index (by have := Finset.mem_range.mp member; omega)]
  rw [lineNumber, Nat.add_assoc, Nat.count_add, counted,
    first.count_within first.length_pos (Nat.le_refl _), Nat.add_comm]
  rfl

theorem lineStart_add
    {offset : Nat}
    (isIn : offset < rest.length) :
    lineStart (line ++ rest) (line.length + offset) = line.length + lineStart rest offset := by
  have bound : lineStart rest offset ≤ offset :=
    Nat.findGreatest_le offset
  have starts : startsLine rest (lineStart rest offset) :=
    @Nat.findGreatest_spec 0 (startsLine rest ·) _ offset (Nat.zero_le _) rfl
  rw [lineStart, Nat.findGreatest_eq_iff]
  refine ⟨by omega, fun _ => ?_, fun index above below isStart => ?_⟩
  · rw [first.startsLine_add _ (by omega)]
    exact starts
  · obtain ⟨index, rfl⟩ : ∃ later, index = line.length + later :=
      ⟨index - line.length, by omega⟩
    rw [first.startsLine_add _ (by omega)] at isStart
    have atMost : index ≤ lineStart rest offset :=
      Nat.le_findGreatest (by omega) isStart
    omega

/-- The first line is a line. -/
theorem isLine :
    IsLine (line ++ rest) 0 line where
  solid := first.solid
  place := ⟨rest, rfl⟩
  starts := rfl
  within index pos bound := first.within index pos (by omega)
  behind bound := by
    rw [Nat.zero_add]
    apply first.behind
    rintro rfl
    simp at bound

/-- A line of the rest is a line. -/
theorem isLine_add
    {offset : Nat}
    {later : List Char}
    (isIn : offset < rest.length)
    (isLine : IsLine rest offset later) :
    IsLine (line ++ rest) (line.length + offset) later := by
  have place : ∃ behind, rest.drop offset = later ++ behind :=
    isLine.place
  have fits : offset + later.length ≤ rest.length := by
    obtain ⟨behind, split⟩ := place
    have lengths := congrArg List.length split
    rw [List.length_drop, List.length_append] at lengths
    omega
  refine ⟨isLine.solid, ?_, ?_, fun index above below => ?_, fun bound => ?_⟩
  · rwa [List.drop_append, List.drop_of_length_le (by omega), Nat.add_sub_cancel_left]
  · rw [first.startsLine_add _ isIn]
    exact isLine.starts
  · obtain ⟨index, rfl⟩ : ∃ place, index = line.length + place :=
      ⟨index - line.length, by omega⟩
    rw [first.startsLine_add _ (by omega)]
    exact isLine.within index (by omega) (by omega)
  · rw [List.length_append] at bound
    rw [Nat.add_assoc, first.startsLine_add _ (by omega)]
    exact isLine.behind (by omega)

end FirstLine

end Starts

/-!
## The division into lines
-/

/-- The lines that characters are divided into. -/
inductive Lines : List Char → List (List Char) → Prop where
  | nil : Lines [] []
  | cons
      {line rest : List Char}
      {lines : List (List Char)}
      (first : FirstLine line rest)
      (others : Lines rest lines) :
      Lines (line ++ rest) (line :: lines)

/-- A character is a line by itself if none follows or it ends a line there. -/
theorem FirstLine.single
    {c : Char}
    {rest : List Char}
    (ends : ∀ next others, rest = next :: others →
      (isLineEnd c && !(c == '\r' && next == '\n')) = true) :
    FirstLine [c] rest where
  solid := List.cons_ne_nil c []
  within index pos bound := by
    simp only [List.length_singleton] at bound
    omega
  behind isMore := by
    obtain ⟨next, others, rfl⟩ := List.exists_cons_of_ne_nil isMore
    exact ends next others rfl

/-- A character that ends no line belongs to the first line. -/
theorem FirstLine.cons
    {c : Char}
    (inner : isLineEnd c = false)
    {line rest : List Char}
    (first : FirstLine line rest) :
    FirstLine (c :: line) rest where
  solid := List.cons_ne_nil c line
  within
    | 1, _, _ => by
        obtain ⟨next, line, rfl⟩ := List.exists_cons_of_ne_nil first.solid
        simp [startsLine, inner]
    | index + 2, _, bound =>
        first.within (index + 1) (Nat.succ_pos index) (Nat.lt_of_succ_lt_succ bound)
  behind isMore := by
    obtain ⟨next, line, rfl⟩ := List.exists_cons_of_ne_nil first.solid
    exact first.behind isMore

/-- The characters of a source are divided into its lines. -/
theorem lines_splitLines
    (chars : List Char) :
    Lines chars (splitLines chars) := by
  fun_induction splitLines chars with
  | case1 =>
      exact .nil
  | case2 rest inductionHypothesis =>
      have first : FirstLine ['\r', '\n'] rest := by
        refine ⟨List.cons_ne_nil _ _, fun index pos bound => ?_, fun isMore => ?_⟩
        · obtain rfl : index = 1 := by
            simp only [List.length_cons, List.length_nil] at bound
            omega
          rfl
        · obtain ⟨next, rest, rfl⟩ := List.exists_cons_of_ne_nil isMore
          rfl
      exact .cons first inductionHypothesis
  | case3 c rest notPair ends inductionHypothesis =>
      refine .cons (.single fun next others more => ?_) inductionHypothesis
      have single : ¬(c = '\r' ∧ next = '\n') := by
        rintro ⟨rfl, rfl⟩
        exact notPair others rfl more
      simpa [ends, -not_and, not_and_or] using single
  | case4 c rest notPair inner noLines inductionHypothesis =>
      rw [noLines] at inductionHypothesis
      cases inductionHypothesis
      exact .cons (.single fun _ _ more => (List.cons_ne_nil _ _ more.symm).elim) .nil
  | case5 c rest notPair inner line others lines inductionHypothesis =>
      rw [lines] at inductionHypothesis
      cases inductionHypothesis with
      | cons first others =>
          exact .cons (first.cons (by simpa using inner)) others

/-!
## The line of an offset
-/

/-- Lines that are not first start behind the first. -/
theorem start_le_of_mem_locateLines
    {pieces : List (List Char)}
    {number start : Nat}
    {line : Line}
    (member : line ∈ locateLines number start pieces) :
    start ≤ line.start := by
  induction pieces generalizing number start with
  | nil =>
      cases member
  | cons piece pieces inductionHypothesis =>
      rcases List.mem_cons.mp member with rfl | later
      · exact Nat.le_refl start
      · have bound := inductionHypothesis later
        omega

/-- An offset in the first line is looked up there. -/
theorem lineAt?_first
    {piece : List Char}
    (pieces : List (List Char))
    (number start : Nat)
    {offset : Nat}
    (isIn : offset < piece.length) :
    lineAt? (start + offset) (locateLines number start (piece :: pieces)) =
      some ⟨number, start, piece⟩ := by
  have noOther :
      (locateLines (number + 1) (start + piece.length) pieces).filter
        (fun line => line.start ≤ start + offset && start + offset ≤ line.stop) = [] := by
    refine List.filter_eq_nil_iff.mpr fun line member => ?_
    have bound := start_le_of_mem_locateLines member
    simp only [Bool.and_eq_true, decide_eq_true_eq, not_and]
    omega
  have touched : start ≤ start + offset ∧ start + offset ≤ start + piece.length := by
    omega
  rw [lineAt?, locateLines, List.filter_cons_of_pos, noOther]
  · rfl
  · simpa [Line.stop] using touched

/-- An offset behind the first line is looked up in the others. -/
theorem lineAt?_others
    {piece : List Char}
    {pieces : List (List Char)}
    {number start offset : Nat}
    {line : Line}
    (found : lineAt? offset (locateLines (number + 1) (start + piece.length) pieces) = some line) :
    lineAt? offset (locateLines number start (piece :: pieces)) = some line := by
  rw [lineAt?, locateLines, List.filter_cons]
  split
  · rw [List.getLast?_cons, ← lineAt?, found]
    rfl
  · exact found

/-- An offset within a source is looked up in the line that it is in, with the number of
that line and its first offset. -/
theorem lineAt?_lines
    {chars : List Char}
    {pieces : List (List Char)}
    (divided : Lines chars pieces)
    (number start : Nat)
    {offset : Nat}
    (isIn : offset < chars.length) :
    ∃ line,
      lineAt? (start + offset) (locateLines number start pieces) =
        some ⟨number + (lineNumber chars offset - 1), start + lineStart chars offset, line⟩ ∧
      IsLine chars (lineStart chars offset) line := by
  induction divided generalizing number start offset with
  | nil =>
      cases isIn
  | @cons line rest pieces first others inductionHypothesis =>
      by_cases within : offset < line.length
      · refine ⟨line, ?_, ?_⟩
        · rw [lineAt?_first pieces number start within, first.lineNumber_within within,
            first.lineStart_within within]
          rfl
        · rw [first.lineStart_within within]
          exact first.isLine
      · obtain ⟨offset, rfl⟩ : ∃ later, offset = line.length + later :=
          ⟨offset - line.length, by omega⟩
        have isInRest : offset < rest.length := by
          rw [List.length_append] at isIn
          omega
        obtain ⟨later, found, isLine⟩ :=
          inductionHypothesis (number + 1) (start + line.length) isInRest
        have counted := lineNumber_pos rest offset
        have startsWithin : lineStart rest offset < rest.length :=
          Nat.lt_of_le_of_lt (Nat.findGreatest_le offset) isInRest
        refine ⟨later, ?_, ?_⟩
        · rw [first.lineNumber_add isInRest, first.lineStart_add isInRest, ← Nat.add_assoc,
            lineAt?_others found]
          congr 2 <;> omega
        · rw [first.lineStart_add isInRest]
          exact first.isLine_add startsWithin isLine

/-- An offset within a source is looked up in the line that it is in. -/
theorem lineAt?_linesOf
    (source : String)
    {offset : Nat}
    (isIn : offset < source.toList.length) :
    ∃ line,
      lineAt? offset (linesOf source) =
        some ⟨lineNumber source.toList offset - 1, lineStart source.toList offset, line⟩ ∧
      IsLine source.toList (lineStart source.toList offset) line := by
  have found := lineAt?_lines (lines_splitLines source.toList) 0 0 isIn
  simpa [linesOf] using found

/-!
## Spans within a line
-/

section Within

variable
  {chars : List Char}
  {start stop : Nat}
  (inside : ∀ index, start < index → index < stop → startsLine chars index = false)

include inside

/-- A span that no line starts in has the number of one line. -/
theorem lineNumber_of_inside
    {offset : Nat}
    (isBehind : start ≤ offset)
    (isIn : offset < stop) :
    lineNumber chars offset = lineNumber chars start := by
  induction offset, isBehind using Nat.le_induction with
  | base =>
      rfl
  | succ offset isBehind inductionHypothesis =>
      rw [← inductionHypothesis (by omega), lineNumber, Nat.count_succ,
        if_neg (by simp [inside (offset + 1) (by omega) isIn])]
      rfl

/-- A span that no line starts in ends within the line that it starts in. -/
theorem IsLine.stop_le
    {line : List Char}
    (isLine : IsLine chars (lineStart chars start) line)
    (fits : stop ≤ chars.length) :
    stop ≤ lineStart chars start + line.length := by
  by_contra reaches
  have next : startsLine chars (lineStart chars start + line.length) :=
    isLine.behind (by omega)
  by_cases within : start < lineStart chars start + line.length
  · exact absurd next (by simp [inside _ within (by omega)])
  · -- A start between the front of the line and the span would be the front.
    have atMost : lineStart chars start + line.length ≤ lineStart chars start :=
      Nat.le_findGreatest (by omega) next
    have pos := List.length_pos_iff.mpr isLine.solid
    omega

end Within

end DataBinding.Report
