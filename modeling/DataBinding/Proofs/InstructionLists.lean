import DataBinding.Proofs.ShiftedCommands
import DataBinding.Proofs.TextSlice
import DataBinding.Proofs.TokenForm
import Mathlib.Data.List.Induction

namespace DataBinding

/-!
# Lists of instructions put together

A comma parts two lists of instructions unless the first one swallows it: inside a
quotation, inside a block or behind a backslash.  In front of such a comma the lexer
and the stack of open blocks come to rest, so both lists are read as they are by
themselves, and the second only stands further on.
-/

namespace Text

theorem charsBetween_shifted
    (distance : Nat)
    (span : Span)
    (offset : Nat)
    (chars : List Char) :
    charsBetween (span.shifted distance) (distance + offset) chars =
      charsBetween span offset chars := by
  induction chars generalizing offset with
  | nil =>
      rfl
  | cons c rest inductionHypothesis =>
      have begins : (span.shifted distance).start ≤ distance + offset ↔ span.start ≤ offset :=
        Nat.add_le_add_iff_left
      have ends : distance + offset < (span.shifted distance).stop ↔ offset < span.stop :=
        Nat.add_lt_add_iff_left
      simp only [charsBetween, begins, ends, Nat.add_assoc, inductionHypothesis]

/-- What stands behind a text has no part in its slices. -/
theorem slice_front
    (front behind : String)
    {span : Span}
    (ends : span.stop ≤ front.utf8ByteSize) :
    slice (front ++ behind) span = slice front span := by
  rw [← byteLength_toList] at ends
  rw [slice, String.toList_append, charsBetween_append,
    charsBetween_of_le (by omega) behind.toList, List.append_nil, slice]

/-- A slice of a text behind another is the slice of it by itself. -/
theorem slice_behind
    (front behind : String)
    (span : Span) :
    slice (front ++ behind) (span.shifted front.utf8ByteSize) = slice behind span := by
  have skipped :
      charsBetween (span.shifted front.utf8ByteSize) 0 front.toList = [] := by
    apply charsBetween_of_ge
    rw [byteLength_toList, Span.shifted]
    dsimp only
    omega
  rw [slice, String.toList_append, charsBetween_append, skipped, List.nil_append,
    byteLength_toList, Nat.add_comm 0, charsBetween_shifted, slice]

/-- Whether a text ends in a backslash that escapes nothing: the last of an odd number
of backslashes. -/
def endsInEscape (text : String) : Bool :=
  (text.toList.reverse.takeWhile (· == '\\')).length % 2 == 1

end Text

namespace Lexeme

namespace Mode

/-- Reads characters, the first of them at `offset`: the lexemes that are complete with
them, and the one that is under way behind them. -/
def run
    (mode : Mode)
    (offset : Nat) :
    List Char → List (Located Lexeme) × Mode
  | [] => ([], mode)
  | c :: rest =>
      let step := mode.read offset c
      let later := run step.2 (offset + c.utf8Size) rest
      (step.1 ++ later.1, later.2)

theorem readAll_append
    (mode : Mode)
    (offset : Nat)
    (chars rest : List Char) :
    mode.readAll offset (chars ++ rest) =
      (mode.run offset chars).1 ++
        (mode.run offset chars).2.readAll (offset + Text.byteLength chars) rest := by
  induction chars generalizing mode offset with
  | nil =>
      rfl
  | cons c chars inductionHypothesis =>
      simp only [List.cons_append, readAll, run, Text.byteLength, inductionHypothesis,
        List.append_assoc, Nat.add_assoc]

theorem readAll_eq_run
    (mode : Mode)
    (offset : Nat)
    (chars : List Char) :
    mode.readAll offset chars =
      (mode.run offset chars).1 ++
        (mode.run offset chars).2.ended (offset + Text.byteLength chars) := by
  have all := mode.readAll_append offset chars []
  rwa [List.append_nil] at all

theorem run_concat
    (mode : Mode)
    (offset : Nat)
    (chars : List Char)
    (c : Char) :
    (mode.run offset (chars ++ [c])).2 =
      ((mode.run offset chars).2.read (offset + Text.byteLength chars) c).2 := by
  induction chars generalizing mode offset with
  | nil =>
      rfl
  | cons first rest inductionHypothesis =>
      simp only [List.cons_append, run, Text.byteLength, inductionHypothesis, Nat.add_assoc]

/-- Whether a quotation is under way. -/
def isQuotation : Mode → Bool
  | quotation _ _ _ _ => true
  | _ => false

/-- Whether the last character was a backslash that escapes the next. -/
def isEscaping : Mode → Bool
  | quotation _ _ _ escaping => escaping
  | word _ _ escaping => escaping
  | _ => false

theorem isEscaping_begin
    (offset : Nat)
    (c : Char) :
    (begin offset c).2.isEscaping = (c == '\\') := by
  by_cases isBackslash : c = '\\'
  · subst isBackslash
    rfl
  · have begun := begins_begin offset c
    generalize begin offset c = step at begun ⊢
    rw [beq_eq_false_iff_ne.mpr isBackslash]
    cases begun with
    | escape same =>
        exact absurd same isBackslash
    | gap | operator | comma | opening | closing | quotation | word =>
        rfl

/-- Only a backslash escapes, and only if it is not escaped itself. -/
theorem isEscaping_read
    (mode : Mode)
    (offset : Nat)
    (c : Char) :
    (mode.read offset c).2.isEscaping = (c == '\\' && !mode.isEscaping) := by
  by_cases isBackslash : c = '\\'
  · subst isBackslash
    cases mode with
    | idle | operator _ _ =>
        rfl
    | quotation _ _ _ escaping | word _ _ escaping =>
        cases escaping <;> rfl
  · have other := beq_eq_false_iff_ne.mpr isBackslash
    have step := mode.reads_read offset c
    generalize mode.read offset c = step' at step ⊢
    rw [other, Bool.false_and]
    cases step with
    | restart =>
        rw [restart, isEscaping_begin, other]
    | quotationEscape same | wordEscape same =>
        exact absurd same isBackslash
    | operator | quotation | quotationEnd | word =>
        rfl

/-- What is under way in front of a comma ends there, unless the comma is quoted or
escaped. -/
theorem read_comma
    {mode : Mode}
    (unquoted : mode.isQuotation = false)
    (unescaped : mode.isEscaping = false)
    (offset : Nat) :
    mode.read offset ',' =
      (mode.ended offset ++ [⟨.comma, ⟨offset, offset + 1⟩⟩], idle) := by
  cases mode with
  | idle =>
      rfl
  | operator start text =>
      rfl
  | quotation quote start text escaping =>
      cases unquoted
  | word start text escaping =>
      cases unescaped
      rfl

end Mode

/-- What is under way at the end of a source. -/
def modeAtEnd (source : String) : Mode :=
  (Mode.idle.run 0 source.toList).2

theorem isEscaping_modeAtEnd
    (source : String) :
    (modeAtEnd source).isEscaping = Text.endsInEscape source := by
  unfold modeAtEnd Text.endsInEscape
  induction source.toList using List.reverseRecOn with
  | nil =>
      rfl
  | append_singleton chars c inductionHypothesis =>
      rw [Mode.run_concat, Mode.isEscaping_read, inductionHypothesis, List.reverse_concat,
        List.takeWhile_cons]
      by_cases isBackslash : c = '\\'
      · simp only [isBackslash, beq_self_eq_true, Bool.true_and, ↓reduceIte, List.length_cons]
        generalize (chars.reverse.takeWhile (· == '\\')).length = count
        rcases Nat.mod_two_eq_zero_or_one count with even | odd
        · simp [Nat.add_mod, even]
        · simp [Nat.add_mod, odd]
      · simp [isBackslash]

end Lexeme

namespace Nesting

/-- The sequences under way behind lexemes. -/
def after
    (nesting : Nesting)
    (lexemes : List (Located Lexeme)) : Nesting :=
  lexemes.foldl (fun reached located => (reached.take located).2) nesting

/-- A comma outside all blocks parts sequences. -/
theorem sequences_comma
    (nesting : Nesting)
    (stop : Nat)
    {lexemes : List (Located Lexeme)}
    (closed : (nesting.after lexemes).opened = [])
    (comma : Span)
    (rest : List (Located Lexeme)) :
    nesting.sequences stop (lexemes ++ ⟨.comma, comma⟩ :: rest) =
      nesting.sequences stop lexemes ++ start.sequences comma.stop rest := by
  induction lexemes generalizing nesting stop with
  | nil =>
      have outside : nesting.opened = [] := closed
      simp [sequences, take, outside, closeAll]
  | cons located lexemes inductionHypothesis =>
      have later := inductionHypothesis (nesting.take located).2 located.span.stop closed
      simp only [List.cons_append, sequences, later, List.append_assoc]

end Nesting

/-- A source at whose end everything is complete: it ends outside every block and every
quotation, and not in a backslash that would escape what follows. -/
structure IsComplete (source : String) : Prop where
  blocksClosed : (Nesting.start.after (lexemes source)).opened = []
  quotationsClosed : (Lexeme.modeAtEnd source).isQuotation = false
  nothingEscaped : Text.endsInEscape source = false

/-- A comma behind a complete source is a lexeme, and the lexemes on both sides are those
of the two sources. -/
theorem lexemes_comma
    {first : String}
    (complete : IsComplete first)
    (second : String) :
    lexemes (first ++ "," ++ second) =
      lexemes first ++
        ⟨.comma, ⟨first.utf8ByteSize, first.utf8ByteSize + 1⟩⟩ ::
          (lexemes second).map (Located.shifted (first.utf8ByteSize + 1)) := by
  have unescaped := (Lexeme.isEscaping_modeAtEnd first).trans complete.nothingEscaped
  have comma :=
    Lexeme.Mode.read_comma complete.quotationsClosed unescaped first.utf8ByteSize
  have firstReads :
      lexemes first =
        (Lexeme.Mode.idle.run 0 first.toList).1 ++
          (Lexeme.modeAtEnd first).ended first.utf8ByteSize := by
    rw [lexemes, Lexeme.Mode.readAll_eq_run, Nat.zero_add, Text.byteLength_toList,
      Lexeme.modeAtEnd]
  have secondReads := Lexeme.Mode.readAll_further (first.utf8ByteSize + 1) second
  have commaSize : Char.utf8Size ',' = 1 := by decide
  have chars : (first ++ "," ++ second).toList = first.toList ++ ',' :: second.toList := by
    simp
  rw [lexemes, chars, Lexeme.Mode.readAll_append, Nat.zero_add, Text.byteLength_toList,
    ← Lexeme.modeAtEnd, Lexeme.Mode.readAll, comma, commaSize, secondReads, firstReads]
  simp only [List.append_assoc, List.singleton_append]

namespace Instruction

/-- Tokens of a source make up the same instruction whatever stands behind it. -/
theorem ofTokens?_front
    (front behind : String)
    {tokens : List Token}
    (within : ∀ token ∈ tokens, token.span.stop ≤ front.utf8ByteSize) :
    ofTokens? (front ++ behind) tokens = ofTokens? front tokens := by
  unfold ofTokens?
  cases tokens.head? with
  | none =>
      rfl
  | some first =>
      cases isLast : tokens.getLast? with
      | none =>
          rfl
      | some last =>
          have ends := within last (List.mem_of_getLast? isLast)
          have sameText :
              Text.slice (front ++ behind) ⟨first.span.start, last.span.stop⟩ =
                Text.slice front ⟨first.span.start, last.span.stop⟩ :=
            Text.slice_front front behind ends
          simp only [sameText]

/-- Tokens behind a source make up an instruction that stands behind it. -/
theorem ofTokens?_behind
    (front behind : String)
    (tokens : List Token) :
    ofTokens? (front ++ behind) (tokens.map (Token.shifted front.utf8ByteSize)) =
      (ofTokens? behind tokens).map (shifted front.utf8ByteSize) := by
  unfold ofTokens?
  rw [List.head?_map, List.getLast?_map]
  cases tokens.head? with
  | none =>
      rfl
  | some first =>
      cases tokens.getLast? with
      | none =>
          rfl
      | some last =>
          have sameText := Text.slice_behind front behind ⟨first.span.start, last.span.stop⟩
          simp only [Option.map_some, shifted, Token.span_shifted, Span.shifted] at sameText ⊢
          rw [sameText]

end Instruction

/-- Every token of a source, in whatever instruction, ends within it. -/
theorem stop_le_of_mem_sequences
    {source : String}
    {tokens : List Token}
    (member : tokens ∈ Nesting.start.sequences 0 (lexemes source)) :
    ∀ token ∈ tokens, token.span.stop ≤ source.utf8ByteSize := by
  intro token inTokens
  have inAll := List.mem_flatten.mpr ⟨tokens, member, inTokens⟩
  exact ((placed_tokens source).inOrder.of_mem (List.mem_map_of_mem inAll)).2.2

theorem nested_of_mem_instructions
    {source : String}
    {instruction : Instruction}
    (member : instruction ∈ instructions source) :
    ∀ token ∈ instruction.tokens, token.Nested :=
  (liesIn_of_mem_instructions member).placed.nested

/-- The instructions of two sources with a comma between them. -/
theorem instructions_comma
    {first : String}
    (complete : IsComplete first)
    (second : String) :
    instructions (first ++ "," ++ second) =
      instructions first ++
        (instructions second).map (Instruction.shifted (first.utf8ByteSize + 1)) := by
  have distance : (first ++ ",").utf8ByteSize = first.utf8ByteSize + 1 := by
    rw [String.utf8ByteSize_append]
    rfl
  have sequences :
      Nesting.start.sequences 0 (lexemes (first ++ "," ++ second)) =
        Nesting.start.sequences 0 (lexemes first) ++
          (Nesting.start.sequences 0 (lexemes second)).map
            (List.map (Token.shifted (first.utf8ByteSize + 1))) := by
    rw [lexemes_comma complete, Nesting.sequences_comma _ _ complete.blocksClosed]
    congr 1
    exact Nesting.sequences_shifted (first.utf8ByteSize + 1) .start 0 (lexemes second)
  have front :
      (Nesting.start.sequences 0 (lexemes first)).filterMap
          (Instruction.ofTokens? (first ++ "," ++ second)) =
        instructions first := by
    rw [instructions, String.append_assoc]
    apply List.filterMap_congr
    intro tokens member
    exact Instruction.ofTokens?_front first _ (stop_le_of_mem_sequences member)
  have behind :
      ((Nesting.start.sequences 0 (lexemes second)).map
            (List.map (Token.shifted (first.utf8ByteSize + 1)))).filterMap
          (Instruction.ofTokens? (first ++ "," ++ second)) =
        (instructions second).map (Instruction.shifted (first.utf8ByteSize + 1)) := by
    rw [instructions, List.filterMap_map, List.map_filterMap]
    apply List.filterMap_congr
    intro tokens _
    rw [← distance]
    exact Instruction.ofTokens?_behind (first ++ ",") second tokens
  rw [instructions, sequences, List.filterMap_append, front, behind]

/--
Lists of instructions compose.  Behind a complete source, a comma and a second source
add the instructions of the second, with all places shifted by the bytes in front.  So
in every context the commands and errors of the first source stay what they are, and
so do those of the second but for the places of its errors.
-/
theorem instructionLists_compose
    {first : String}
    (complete : IsComplete first)
    (second : String) :
    instructions (first ++ "," ++ second) =
        instructions first ++
          (instructions second).map (Instruction.shifted (first.utf8ByteSize + 1)) ∧
      (∀ context,
        prepareEach context (first ++ "," ++ second) =
          prepareEach context first ++
            (prepareEach context second).map
              (Except.mapError (ParseError.shifted (first.utf8ByteSize + 1)))) ∧
      ∀ error : ParseError,
        let moved := error.shifted (first.utf8ByteSize + 1)
        moved.message = error.message ∧
          moved.instruction = error.instruction ∧
          moved.fault.cause.kindName = error.fault.cause.kindName ∧
          moved.fault.span = error.fault.span.shifted (first.utf8ByteSize + 1) := by
  have composed := instructions_comma complete second
  refine ⟨composed, fun context => ?_, fun error => ?_⟩
  · rw [prepareEach, composed, List.map_append, List.map_map]
    congr 1
    rw [prepareEach, List.map_map]
    apply List.map_congr_left
    intro instruction member
    exact Instruction.command_shifted _ context (nested_of_mem_instructions member)
  · exact ⟨error.message_shifted _, rfl, error.fault.cause.kindName_shifted _, rfl⟩

/-- Behind a quotation with a comma and a bracket in it, and behind an escaped backslash,
an error of the next instruction is only found further on. -/
theorem instructionLists_compose_escaped :
    IsComplete "'é, (' .\\\\" ∧
      (prepareEach (.ofData .null) ("'é, (' .\\\\" ++ "," ++ "x bogus")).length = 2 ∧
      (errorsOf (prepareEach (.ofData .null) "x bogus")).map (fun error => error.fault.span) =
        [⟨2, 7⟩] ∧
      (errorsOf (prepareEach (.ofData .null) ("'é, (' .\\\\" ++ "," ++ "x bogus"))).map
          (fun error => error.fault.span) =
        [⟨14, 19⟩] := by
  have complete : IsComplete "'é, (' .\\\\" := ⟨rfl, rfl, rfl⟩
  refine ⟨complete, ?_, rfl, ?_⟩
  · rw [(instructionLists_compose complete "x bogus").2.1]
    rfl
  · rw [(instructionLists_compose complete "x bogus").2.1]
    rfl

end DataBinding
