import DataBinding.Proofs.InstructionLists
import DataBinding.Proofs.LexemePatterns
import DataBinding.Proofs.SpanNesting

namespace DataBinding

/-!
# Instructions by themselves

The text of an instruction is cut out of its source from the first token to the end of the
last.  Both cuts run between lexemes, and a lexeme that ends where the text ends is read as
before.  So the text has the lexemes of the instruction but for words without tokens at its
ends, and these form the same tokens.
-/

namespace Lexeme

/-!
## Cuts between lexemes
-/

theorem LeftOut.of_append
    {front rest : List Char}
    (leftOut : LeftOut (front ++ rest)) :
    LeftOut front := by
  cases front with
  | nil =>
      exact Or.inl rfl
  | cons c front =>
      rcases leftOut with nothing | backslash
      · cases nothing
      · simp_all [LeftOut]

/-- A lexeme that cannot be prolonged stays so when less is behind it. -/
theorem SpelledBefore.of_append
    {front rest chars : List Char}
    {lexeme : Lexeme}
    (spelled : SpelledBefore (front ++ rest) chars lexeme) :
    SpelledBefore front chars lexeme := by
  have isHead : ∀ c ∈ front.head?, c ∈ (front ++ rest).head? := by
    intro c isHead
    rw [List.head?_append, isHead]
    rfl
  cases spelled with
  | opening =>
      exact .opening
  | closing =>
      exact .closing
  | comma =>
      exact .comma
  | operator form ends =>
      exact .operator form fun c member => ends c (isHead c member)
  | quotation escaped =>
      exact .quotation escaped
  | openQuotation escaped leftOut =>
      exact .openQuotation escaped leftOut.of_append
  | word nonempty escaped ends =>
      refine .word nonempty escaped ?_
      cases front with
      | nil =>
          exact Or.inl (Or.inl rfl)
      | cons c front =>
          exact ends.imp_left LeftOut.of_append

namespace FallsInto

/-- A source can be cut in front of each of its lexemes. -/
theorem cutBefore
    {offset : Nat}
    {chars : List Char}
    {before lexemes : List (Located Lexeme)}
    {first : Located Lexeme}
    (falls : FallsInto offset chars (before ++ first :: lexemes)) :
    ∃ front rest,
      chars = front ++ rest ∧
        offset + Text.byteLength front = first.span.start ∧
        FallsInto first.span.start rest (first :: lexemes) := by
  generalize parts : before ++ first :: lexemes = all at falls
  induction falls generalizing before with
  | leftOut =>
      simp at parts
  | @gap offset c _ _ _ _ inductionHypothesis =>
      obtain ⟨front, rest, rfl, reaches, behind⟩ := inductionHypothesis parts
      exact ⟨c :: front, rest, rfl, by rw [Text.byteLength, ← Nat.add_assoc, reaches], behind⟩
  | @lexeme offset spelled rest _ _ isSpelled falls inductionHypothesis =>
      cases before with
      | nil =>
          cases parts
          exact ⟨[], spelled ++ rest, rfl, rfl, .lexeme isSpelled falls⟩
      | cons _ before =>
          cases parts
          obtain ⟨front, rest, rfl, reaches, behind⟩ := inductionHypothesis rfl
          refine ⟨spelled ++ front, rest, by rw [List.append_assoc], ?_, behind⟩
          rw [Text.byteLength_append, ← Nat.add_assoc, reaches]

/-- A source can be cut behind each of its lexemes. -/
theorem cutBehind
    {offset : Nat}
    {chars : List Char}
    {lexemes behind : List (Located Lexeme)}
    {last : Located Lexeme}
    (falls : FallsInto offset chars (lexemes ++ last :: behind)) :
    ∃ front rest,
      chars = front ++ rest ∧
        offset + Text.byteLength front = last.span.stop ∧
        FallsInto offset front (lexemes ++ [last]) := by
  generalize parts : lexemes ++ last :: behind = all at falls
  induction falls generalizing lexemes with
  | leftOut =>
      simp at parts
  | @gap offset c _ _ isGap _ inductionHypothesis =>
      obtain ⟨front, rest, rfl, reaches, upTo⟩ := inductionHypothesis parts
      exact ⟨c :: front, rest, rfl, by rw [Text.byteLength, ← Nat.add_assoc, reaches],
        .gap isGap upTo⟩
  | @lexeme offset spelled rest _ _ isSpelled _ inductionHypothesis =>
      cases lexemes with
      | nil =>
          cases parts
          have alone := @SpelledBefore.of_append [] rest _ _ isSpelled
          have falls := @FallsInto.lexeme offset _ _ _ _ alone (.leftOut (Or.inl rfl))
          rw [List.append_nil] at falls
          exact ⟨spelled, rest, rfl, rfl, falls⟩
      | cons _ lexemes =>
          cases parts
          obtain ⟨front, rest, rfl, reaches, upTo⟩ := inductionHypothesis rfl
          refine ⟨spelled ++ front, rest, by rw [List.append_assoc], ?_,
            .lexeme isSpelled.of_append upTo⟩
          rw [Text.byteLength_append, ← Nat.add_assoc, reaches]

end FallsInto

end Lexeme

/-- The text from one lexeme of a source to another has the lexemes from the one to the
other. -/
theorem exists_text_of_lexemes
    {source : String}
    {before lexemes behind : List (Located Lexeme)}
    {first last : Located Lexeme}
    (parts : DataBinding.lexemes source = before ++ lexemes ++ behind)
    (isFirst : lexemes.head? = some first)
    (isLast : lexemes.getLast? = some last) :
    ∃ front text rest : String,
      source = front ++ (text ++ rest) ∧
        front.utf8ByteSize = first.span.start ∧
        Text.slice source ⟨first.span.start, last.span.stop⟩ = text ∧
        (DataBinding.lexemes text).map (Located.shifted first.span.start) = lexemes := by
  obtain ⟨others, rfl⟩ := List.head?_eq_some_iff.mp isFirst
  obtain ⟨inner, split⟩ := List.getLast?_eq_some_iff.mp isLast
  have falls := fallsInto_lexemes source
  rw [parts, List.append_assoc, List.cons_append] at falls
  obtain ⟨front, fromFirst, frontSplits, begins, falls⟩ := falls.cutBefore
  rw [← List.cons_append, split, List.append_assoc, List.singleton_append] at falls
  obtain ⟨text, rest, textSplits, ends, falls⟩ := falls.cutBehind
  rw [← split] at falls
  rw [Nat.zero_add] at begins
  rw [textSplits, ← List.append_assoc] at frontSplits
  refine ⟨String.ofList front, String.ofList text, String.ofList rest, ?_, ?_, ?_, ?_⟩
  · rw [← String.ofList_append, ← String.ofList_append, ← List.append_assoc, ← frontSplits,
      String.ofList_toList]
  · rw [Text.utf8ByteSize_ofList, begins]
  · rw [← Text.slice_between frontSplits, Text.byteLength_append, begins, ends]
  · rw [← Lexeme.Mode.readAll_further, String.toList_ofList, falls.readAll]

/-!
## Words without tokens at the ends
-/

namespace Token

/-- The end of tokens that follow an offset. -/
def endOf
    (stop : Nat)
    (tokens : List Token) : Nat :=
  (tokens.getLast?.map fun token => token.span.stop).getD stop

theorem endOf_append_cons
    (stop : Nat)
    (tokens rest : List Token)
    (token : Token) :
    endOf stop (tokens ++ token :: rest) = endOf token.span.stop rest := by
  simp only [endOf, List.getLast?_append, List.getLast?_cons, Option.some_or, Option.map_some,
    Option.getD_some, Option.getD_map]

theorem endOf_cons
    (stop : Nat)
    (token : Token)
    (rest : List Token) :
    endOf stop (token :: rest) = endOf token.span.stop rest :=
  endOf_append_cons stop [] rest token

end Token

namespace Lexeme

theorem Yields.eq_nil_or_single
    {innermost? : Option Bracket}
    {located : Located Lexeme}
    {tokens : List Token}
    (yields : Yields innermost? located tokens) :
    tokens = [] ∨ ∃ token, tokens = [token] ∧ token.span = located.span := by
  cases yields with
  | blank =>
      exact Or.inl rfl
  | operator | quotation | number | name | stray | separator =>
      exact Or.inr ⟨_, rfl, rfl⟩

/-- Whether lexemes begin where tokens begin, and are none where there are no tokens. -/
def BeginWith
    (lexemes : List (Located Lexeme))
    (tokens : List Token) : Prop :=
  (lexemes.head?.map fun located => located.span.start) =
    tokens.head?.map fun token => token.span.start

/-- Whether lexemes end where tokens end. -/
def EndWith
    (lexemes : List (Located Lexeme))
    (tokens : List Token) : Prop :=
  ∀ stop, endOf stop lexemes = Token.endOf stop tokens

section Trimmed

variable
  {innermost? : Option Bracket}
  {lexemes : List (Located Lexeme)}
  {tokens : List Token}

/-- Words without tokens can be left out in front. -/
theorem Form.trimmedFront
    (form : Form innermost? lexemes tokens) :
    ∃ before rest,
      lexemes = before ++ rest ∧ Form innermost? rest tokens ∧ BeginWith rest tokens := by
  induction form with
  | nothing =>
      exact ⟨[], [], rfl, .nothing, rfl⟩
  | @single _ located lexemes _ tokens yields form inductionHypothesis =>
      rcases yields.eq_nil_or_single with rfl | ⟨token, rfl, same⟩
      · obtain ⟨before, rest, rfl, restForm, begins⟩ := inductionHypothesis
        exact ⟨located :: before, rest, rfl, restForm, begins⟩
      · exact ⟨[], located :: lexemes, rfl, .single yields form, by simp [BeginWith, same]⟩
  | block inside form =>
      exact ⟨[], _, rfl, .block inside form, rfl⟩

/-- Words without tokens can be left out at the end. -/
theorem Form.trimmedEnd
    (form : Form innermost? lexemes tokens) :
    ∃ upTo behind,
      lexemes = upTo ++ behind ∧ Form innermost? upTo tokens ∧ EndWith upTo tokens := by
  induction form with
  | nothing =>
      exact ⟨[], [], rfl, .nothing, fun _ => rfl⟩
  | @single _ located lexemes _ tokens yields form inductionHypothesis =>
      obtain ⟨upTo, behind, rfl, upToForm, ends⟩ := inductionHypothesis
      rcases yields.eq_nil_or_single with rfl | ⟨token, rfl, same⟩
      · cases tokens with
        | nil =>
            exact ⟨[], located :: (upTo ++ behind), rfl, .nothing, fun _ => rfl⟩
        | cons first rest =>
            refine ⟨located :: upTo, behind, rfl, .single yields upToForm, fun stop => ?_⟩
            rw [endOf_cons, ends, List.nil_append, Token.endOf_cons, Token.endOf_cons]
      · refine ⟨located :: upTo, behind, rfl, .single yields upToForm, fun stop => ?_⟩
        rw [endOf_cons, ends, List.singleton_append, Token.endOf_cons, same]
  | @block _ bracket opening closing inside _ _ _ insideForm _ _ inductionHypothesis =>
      obtain ⟨upTo, behind, rfl, upToForm, ends⟩ := inductionHypothesis
      refine ⟨⟨.opening bracket, opening⟩ :: (inside ++ ⟨.closing bracket, closing⟩ :: upTo),
        behind, by simp, .block insideForm upToForm, fun stop => ?_⟩
      rw [endOf_cons, endOf_append_cons, ends, Token.endOf_cons]
      rfl

/-- Lexemes that form tokens reach from the first token to the last, but for words without
tokens in front and at the end. -/
theorem FormLast.trimmed
    (form : FormLast innermost? lexemes tokens) :
    ∃ before rest behind,
      lexemes = before ++ rest ++ behind ∧
        FormLast innermost? rest tokens ∧ BeginWith rest tokens ∧ EndWith rest tokens := by
  cases form with
  | closed form =>
      obtain ⟨upTo, behind, rfl, upToForm, ends⟩ := form.trimmedEnd
      obtain ⟨before, rest, rfl, restForm, begins⟩ := upToForm.trimmedFront
      refine ⟨before, rest, behind, rfl, .closed restForm, begins, fun stop => ?_⟩
      cases rest with
      | nil =>
          have noTokens : tokens = [] := by
            simpa [BeginWith] using begins.symm
          rw [noTokens]
          rfl
      | cons first rest =>
          rw [← ends, endOf_append_cons, endOf_cons]
  | @leftOpen _ bracket opening around inside before held form insideForm =>
      obtain ⟨dropped, rest, rfl, restForm, begins⟩ := form.trimmedFront
      refine ⟨dropped, rest ++ ⟨.opening bracket, opening⟩ :: inside, [], by simp,
        .leftOpen restForm insideForm, ?_, fun stop => ?_⟩
      · simp only [BeginWith, List.head?_append, Option.map_or] at begins ⊢
        rw [begins]
        rfl
      · rw [endOf_append_cons, Token.endOf_append_cons]
        rfl

end Trimmed

theorem FormSequences.exists_formLast
    {lexemes : List (Located Lexeme)}
    {sequences : List (List Token)}
    (form : FormSequences lexemes sequences)
    {tokens : List Token}
    (member : tokens ∈ sequences) :
    ∃ before own behind, lexemes = before ++ own ++ behind ∧ FormLast none own tokens := by
  induction form with
  | last form =>
      rw [List.mem_singleton.mp member]
      exact ⟨[], _, [], by simp, form⟩
  | @comma span lexemes rest _ _ form _ inductionHypothesis =>
      rcases List.mem_cons.mp member with rfl | inRest
      · exact ⟨[], lexemes, ⟨.comma, span⟩ :: rest, by simp, .closed form⟩
      · obtain ⟨before, own, behind, rfl, ownForm⟩ := inductionHypothesis inRest
        exact ⟨lexemes ++ ⟨.comma, span⟩ :: before, own, behind, by simp, ownForm⟩

end Lexeme

/-- The lexemes from the first token of an instruction to the last form its tokens. -/
theorem exists_formLast_of_mem_instructions
    {source : String}
    {instruction : Instruction}
    (member : instruction ∈ instructions source) :
    ∃ before own behind first last,
      lexemes source = before ++ own ++ behind ∧
        Lexeme.FormLast none own instruction.tokens ∧
        own.head? = some first ∧
        own.getLast? = some last ∧
        instruction.span = ⟨first.span.start, last.span.stop⟩ := by
  have formed :
      Lexeme.FormSequences (lexemes source) (Nesting.start.sequences 0 (lexemes source)) :=
    Nesting.formSequences_sequences Nesting.isFormedBy_start 0 (lexemes source)
  obtain ⟨before, all, behind, parts, allForm⟩ :=
    formed.exists_formLast (mem_instructions member).1
  obtain ⟨front, own, rest, rfl, form, begins, ends⟩ := allForm.trimmed
  obtain ⟨firstToken, lastToken, isFirst, isLast, reaches⟩ :=
    reachesOverTokens_of_mem_instructions member
  rw [Lexeme.BeginWith, isFirst] at begins
  obtain ⟨first, ownFirst, sameStart⟩ := Option.map_eq_some_iff.mp begins
  obtain ⟨others, rfl⟩ := List.head?_eq_some_iff.mp ownFirst
  have ownLast := List.getLast?_eq_some_getLast (List.cons_ne_nil first others)
  have sameStop := ends 0
  simp only [Lexeme.endOf, Token.endOf, ownLast, isLast, Option.map_some, Option.getD_some]
    at sameStop
  refine ⟨before ++ front, first :: others, rest ++ behind, first, _, ?_, form, rfl, ownLast, ?_⟩
  · rw [parts]
    simp
  · rw [reaches, sameStart, sameStop]

/--
An instruction stands on its own.  Its text, read by itself, is one instruction, which has
the same text and the same trees of tokens, with all places counted from its own start.
-/
theorem instruction_standsAlone
    {source : String}
    {instruction : Instruction}
    (member : instruction ∈ instructions source) :
    ∃ alone,
      instructions instruction.source = [alone] ∧
        instruction = alone.shifted instruction.span.start := by
  obtain ⟨before, own, behind, first, last, parts, form, isFirst, isLast, reaches⟩ :=
    exists_formLast_of_mem_instructions member
  obtain ⟨front, text, rest, rfl, begins, isText, ownLexemes⟩ :=
    exists_text_of_lexemes parts isFirst isLast
  have sameText : instruction.source = text := by
    rw [(liesIn_of_mem_instructions member).text, reaches, isText]
  have shiftedSequences :
      (Nesting.start.sequences 0 (lexemes text)).map
          (List.map (Token.shifted front.utf8ByteSize)) =
        [instruction.tokens] := by
    rw [← Nesting.sequences_shifted, begins, ownLexemes]
    exact Nesting.sequences_of_formLast form rfl _
  obtain ⟨tokens, sequences, sameTokens⟩ := List.map_eq_singleton_iff.mp shiftedSequences
  have made :
      Instruction.ofTokens? (front ++ (text ++ rest)) instruction.tokens = some instruction := by
    obtain ⟨found, _, made⟩ := List.mem_filterMap.mp member
    rw [(Instruction.ofTokens?_eq_some made).1]
    exact made
  have within := stop_le_of_mem_sequences (sequences ▸ List.mem_singleton_self tokens)
  rw [← sameTokens, Instruction.ofTokens?_behind,
    Instruction.ofTokens?_front text rest within] at made
  obtain ⟨alone, madeAlone, further⟩ := Option.map_eq_some_iff.mp made
  refine ⟨alone, ?_, ?_⟩
  · rw [sameText, instructions, sequences]
    simp [madeAlone]
  · rw [reaches, ← begins, further]

/-- An instruction with a block and a quotation that are left open. -/
def leftOpenInstruction : Instruction where
  source := "[b ü, 'x "
  span := ⟨7, 17⟩
  tokens :=
    [.block .square
      [.name "b" ⟨8, 9⟩, .name "ü" ⟨10, 12⟩, .separator ⟨12, 13⟩,
        .quotation .single "x " ⟨14, 17⟩] ⟨7, 17⟩]

/-- A word without a token in front of an instruction and a backslash behind it are no parts
of it. -/
theorem instruction_standsAlone_leftOpen :
    leftOpenInstruction ∈ instructions "é, \\  [b ü, 'x \\" ∧
      ∃ alone,
        instructions "[b ü, 'x " = [alone] ∧ leftOpenInstruction = alone.shifted 7 := by
  have read :
      instructions "é, \\  [b ü, 'x \\" =
        [⟨"é", ⟨0, 2⟩, [.name "é" ⟨0, 2⟩]⟩, leftOpenInstruction] :=
    rfl
  have member : leftOpenInstruction ∈ instructions "é, \\  [b ü, 'x \\" := by
    rw [read]
    exact List.mem_cons_of_mem _ (List.mem_singleton_self _)
  have alone := instruction_standsAlone member
  exact ⟨member, alone⟩

end DataBinding
