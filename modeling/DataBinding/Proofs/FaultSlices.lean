import DataBinding.Proofs.FaultPlaces
import DataBinding.Proofs.InstructionText
import DataBinding.Proofs.SpanNesting
import Mathlib.Data.List.TakeWhile

namespace DataBinding

/-!
# Slices of faults

A fault is found where tokens begin or end, at the one byte of a bracket, or where the
bracket that closes a block would be.  The first two begin and end between characters.  A
block that the source leaves open has no closing bracket: its last byte belongs to an
operator, or to a word of blanks that gives no token, and such a blank may be longer than
a byte.  Only then can the place of a fault not be sliced.
-/

namespace Lexeme

/-!
## Lexemes at their spans
-/

/-- A lexeme is spelled at its span. -/
theorem FallsInto.spelled_of_mem
    {offset : Nat}
    {chars : List Char}
    {lexemes : List (Located Lexeme)}
    (falls : FallsInto offset chars lexemes)
    {located : Located Lexeme}
    (member : located ∈ lexemes) :
    ∃ front spelled rest,
      chars = front ++ (spelled ++ rest) ∧
        SpelledBefore rest spelled located.value ∧
        located.span =
          ⟨offset + Text.byteLength front, offset + Text.byteLength (front ++ spelled)⟩ := by
  induction falls with
  | leftOut =>
      cases member
  | @gap offset c _ _ _ _ inductionHypothesis =>
      obtain ⟨front, spelled, rest, rfl, isSpelled, same⟩ := inductionHypothesis member
      refine ⟨c :: front, spelled, rest, rfl, isSpelled, ?_⟩
      rw [same, List.cons_append, Text.byteLength, Text.byteLength, Nat.add_assoc, Nat.add_assoc]
  | @lexeme offset spelled rest _ _ isSpelled _ inductionHypothesis =>
      rcases List.mem_cons.mp member with rfl | inRest
      · exact ⟨[], spelled, rest, rfl, isSpelled, rfl⟩
      · obtain ⟨front, others, behind, rfl, areSpelled, same⟩ := inductionHypothesis inRest
        refine ⟨spelled ++ front, others, behind, by simp, areSpelled, ?_⟩
        rw [same]
        simp only [Text.byteLength_append, Nat.add_assoc]

/-- The lexemes with which a block may end that its source leaves open behind an
operator: the operator, or a word that gives no token. -/
def IsOpenEnd : Lexeme → Prop
  | operator _ => True
  | word text => Text.trim text = ""
  | _ => False

/-- What such a lexeme ends in: an operator character or a blank. -/
def IsOpenEndChar (c : Char) : Prop :=
  isOperatorChar c = true ∨ Text.isBlank c = true

theorem isBlank_of_trim_eq_empty
    {text : String}
    (isBlank : Text.trim text = "")
    {c : Char}
    (member : c ∈ text.toList) :
    Text.isBlank c = true := by
  have nothing : Text.trimChars text.toList = [] :=
    (String.ofList_eq_empty_iff).mp isBlank
  have blankBehind : ∀ c ∈ Text.trimStart text.toList, Text.isBlank c = true := by
    simpa [Text.trimChars, Text.trimEnd, List.dropWhile_eq_nil_iff] using nothing
  have allBlank : Text.trimStart text.toList = [] := by
    cases start : Text.trimStart text.toList with
    | nil =>
        rfl
    | cons first rest =>
        have notBlank := Text.head_trimStart text.toList first (by rw [start]; rfl)
        have blank := blankBehind first (by rw [start]; exact List.mem_cons_self)
        rw [notBlank] at blank
        cases blank
  exact List.dropWhile_eq_nil_iff.mp allBlank c member

theorem Escaped.exists_last
    {isPlain : Char → Prop}
    {chars : List Char}
    {text : String}
    (escaped : Escaped isPlain chars text)
    (nonempty : chars ≠ []) :
    ∃ front c, chars = front ++ [c] ∧ c ∈ text.toList := by
  cases escaped with
  | nothing =>
      exact (nonempty rfl).elim
  | plain =>
      exact ⟨_, _, rfl, by simp⟩
  | @escape chars _ c =>
      exact ⟨chars ++ ['\\'], c, by simp, by simp⟩

theorem SpelledBefore.exists_openEndChar
    {rest chars : List Char}
    {lexeme : Lexeme}
    (spelled : SpelledBefore rest chars lexeme)
    (isOpenEnd : lexeme.IsOpenEnd) :
    ∃ front c, chars = front ++ [c] ∧ IsOpenEndChar c := by
  cases spelled with
  | @operator text form =>
      have nonempty : text.toList ≠ [] :=
        fun nothing => form.1 (String.toList_eq_nil_iff.mp nothing)
      refine ⟨text.toList.dropLast, text.toList.getLast nonempty, ?_, .inl ?_⟩
      · exact (List.dropLast_append_getLast nonempty).symm
      · exact form.isOperatorChar_of_mem _ (List.getLast_mem nonempty)
  | word nonempty escaped =>
      obtain ⟨front, c, split, member⟩ := escaped.exists_last nonempty
      exact ⟨front, c, split, .inr (isBlank_of_trim_eq_empty isOpenEnd member)⟩
  | opening | closing | comma | quotation | openQuotation =>
      exact isOpenEnd.elim

/-!
## Brackets of blocks
-/

/-- Whether a block has both of its brackets among lexemes. -/
def HasBrackets
    (lexemes : List (Located Lexeme))
    (bracket : Bracket)
    (span : Span) : Prop :=
  ∃ opening closing,
    ⟨.opening bracket, opening⟩ ∈ lexemes ∧
      ⟨.closing bracket, closing⟩ ∈ lexemes ∧
      span = ⟨opening.start, closing.stop⟩

/-- Whether a block has its opening bracket among lexemes and ends with the last of them,
which is neither a token nor a bracket if an operator is the last in the block. -/
def IsLeftOpen
    (lexemes : List (Located Lexeme))
    (bracket : Bracket)
    (inside : List Token)
    (span : Span) : Prop :=
  ∃ opening last,
    ⟨.opening bracket, opening⟩ ∈ lexemes ∧
      lexemes.getLast? = some last ∧
      span = ⟨opening.start, last.span.stop⟩ ∧
      (Token.EndInOperator inside → last.value.IsOpenEnd)

theorem HasBrackets.subset
    {lexemes others : List (Located Lexeme)}
    {bracket : Bracket}
    {span : Span}
    (hasBrackets : HasBrackets lexemes bracket span)
    (subset : lexemes ⊆ others) :
    HasBrackets others bracket span := by
  obtain ⟨opening, closing, opens, closes, same⟩ := hasBrackets
  exact ⟨opening, closing, subset opens, subset closes, same⟩

theorem IsLeftOpen.behind
    {lexemes : List (Located Lexeme)}
    {bracket : Bracket}
    {inside : List Token}
    {span : Span}
    (isLeftOpen : IsLeftOpen lexemes bracket inside span)
    (front : List (Located Lexeme)) :
    IsLeftOpen (front ++ lexemes) bracket inside span := by
  obtain ⟨opening, last, opens, isLast, same, ends⟩ := isLeftOpen
  refine ⟨opening, last, List.mem_append_right front opens, ?_, same, ends⟩
  rw [List.getLast?_append, isLast, Option.some_or]

theorem Yields.not_holds_block
    {innermost? : Option Bracket}
    {located : Located Lexeme}
    {tokens : List Token}
    (yields : Yields innermost? located tokens)
    {token : Token}
    (member : token ∈ tokens)
    {bracket : Bracket}
    {inside : List Token}
    {span : Span} :
    ¬ token.Holds (.block bracket inside span) := by
  intro holds
  cases yields with
  | blank =>
      cases member
  | operator | quotation | number | name | stray | separator =>
      rw [List.mem_singleton.mp member] at holds
      cases holds

variable
  {innermost? : Option Bracket}
  {lexemes : List (Located Lexeme)}
  {tokens : List Token}

/-- Blocks of which none is left open have both of their brackets. -/
theorem Form.hasBrackets
    (form : Form innermost? lexemes tokens)
    {token : Token}
    (member : token ∈ tokens)
    {bracket : Bracket}
    {inside : List Token}
    {span : Span}
    (holds : token.Holds (.block bracket inside span)) :
    HasBrackets lexemes bracket span := by
  induction form generalizing token with
  | nothing =>
      cases member
  | single yields _ inductionHypothesis =>
      rcases List.mem_append.mp member with inYielded | inRest
      · exact (yields.not_holds_block inYielded holds).elim
      · exact (inductionHypothesis inRest holds).subset (List.subset_cons_self _ _)
  | @block _ opened opening closing inner lexemes held _ _ _ insideHypothesis restHypothesis =>
      rcases List.mem_cons.mp member with rfl | inRest
      · cases holds with
        | itself =>
            exact ⟨opening, closing, by simp, by simp, rfl⟩
        | inside inHeld holds =>
            exact (insideHypothesis inHeld holds).subset fun _ member => by simp [member]
      · exact (restHypothesis inRest holds).subset fun _ member => by simp [member]

/-- The last of some lexemes gives the last of their tokens, closes it, or is blank. -/
theorem Form.last_cases
    (form : Form innermost? lexemes tokens)
    {last : Located Lexeme}
    (isLast : lexemes.getLast? = some last) :
    (∃ text, last.value = .word text ∧ Text.trim text = "") ∨
      ∃ token, tokens.getLast? = some token ∧
        (Yields innermost? last [token] ∨
          ∃ bracket inside span, token = .block bracket inside span) := by
  induction form with
  | nothing =>
      cases isLast
  | @single _ located lexemes yielded tokens yields form inductionHypothesis =>
      cases lexemes with
      | nil =>
          cases isLast
          cases form
          cases yields with
          | blank isBlank =>
              exact .inl ⟨_, rfl, isBlank⟩
          | operator | quotation | number | name | stray | separator =>
              exact .inr ⟨_, rfl, .inl (by constructor <;> assumption)⟩
      | cons next rest =>
          rw [List.getLast?_cons_cons] at isLast
          rcases inductionHypothesis isLast with isBlank | ⟨token, isLastToken, gives⟩
          · exact .inl isBlank
          · exact .inr ⟨token, by rw [List.getLast?_append, isLastToken, Option.some_or], gives⟩
  | @block _ bracket opening closing inner lexemes held tokens _ form _ restHypothesis =>
      cases lexemes with
      | nil =>
          cases form
          exact .inr ⟨_, rfl, .inr ⟨_, _, _, rfl⟩⟩
      | cons next rest =>
          have isLastBehind : (next :: rest).getLast? = some last := by
            simpa [List.getLast?_cons] using isLast
          rcases restHypothesis isLastBehind with isBlank | ⟨token, isLastToken, gives⟩
          · exact .inl isBlank
          · exact .inr ⟨token, by rw [List.getLast?_cons, isLastToken, Option.getD_some], gives⟩

/-- Where tokens end in an operator, their lexemes end with it or with a blank word. -/
theorem FormLast.exists_isOpenEnd
    (form : FormLast innermost? lexemes tokens)
    (ends : Token.EndInOperator tokens) :
    ∃ last, lexemes.getLast? = some last ∧ last.value.IsOpenEnd := by
  obtain ⟨text, span, isLastToken⟩ := ends
  cases form with
  | leftOpen =>
      simp at isLastToken
  | closed form =>
      cases isLast : lexemes.getLast? with
      | none =>
          rw [List.getLast?_eq_none_iff] at isLast
          subst isLast
          cases form
          cases isLastToken
      | some last =>
          refine ⟨last, rfl, ?_⟩
          obtain ⟨value, lexemeSpan⟩ := last
          rcases form.last_cases isLast with
            ⟨blank, rfl, isBlank⟩ | ⟨token, isLastToken', gives | ⟨_, _, _, rfl⟩⟩
          · exact isBlank
          · obtain rfl := Option.some.inj (isLastToken.symm.trans isLastToken')
            cases gives
            trivial
          · cases isLastToken.symm.trans isLastToken'

/-- A block whose lexemes nothing follows is left open. -/
theorem FormLast.isLeftOpen
    {bracket : Bracket}
    (form : FormLast (some bracket) lexemes tokens)
    {opening : Span} :
    IsLeftOpen (⟨.opening bracket, opening⟩ :: lexemes) bracket tokens
      ⟨opening.start, endOf opening.stop lexemes⟩ := by
  obtain ⟨last, isLast⟩ :=
    Option.isSome_iff_exists.mp
      (List.getLast?_isSome.mpr
        (List.cons_ne_nil (⟨.opening bracket, opening⟩ : Located Lexeme) lexemes))
  refine ⟨opening, last, List.mem_cons_self, isLast, ?_, fun ends => ?_⟩
  · rw [← endOf_cons 0 ⟨.opening bracket, opening⟩ lexemes, endOf, isLast]
    rfl
  · obtain ⟨last', isLast', isOpenEnd⟩ := form.exists_isOpenEnd ends
    rw [List.getLast?_cons, isLast', Option.getD_some] at isLast
    cases isLast
    exact isOpenEnd

/-- Blocks have both of their brackets or are left open. -/
theorem FormLast.hasBrackets_or_isLeftOpen
    (form : FormLast innermost? lexemes tokens)
    {token : Token}
    (member : token ∈ tokens)
    {bracket : Bracket}
    {inside : List Token}
    {span : Span}
    (holds : token.Holds (.block bracket inside span)) :
    HasBrackets lexemes bracket span ∨ IsLeftOpen lexemes bracket inside span := by
  induction form generalizing token with
  | closed form =>
      exact .inl (form.hasBrackets member holds)
  | @leftOpen _ opened opening lexemes inner tokens held form innerForm inductionHypothesis =>
      rcases List.mem_append.mp member with inFront | isBlock
      · exact .inl ((form.hasBrackets inFront holds).subset (List.subset_append_left _ _))
      · rw [List.mem_singleton.mp isBlock] at holds
        cases holds with
        | itself =>
            exact .inr (innerForm.isLeftOpen.behind lexemes)
        | inside inHeld holds =>
            rcases inductionHypothesis inHeld holds with hasBrackets | isLeftOpen
            · exact .inl (hasBrackets.subset fun _ member => by simp [member])
            · have behindOpening := isLeftOpen.behind (lexemes ++ [⟨.opening opened, opening⟩])
              rw [List.append_assoc] at behindOpening
              exact .inr behindOpening

end Lexeme

/-!
## What the place of a fault shows
-/

theorem Token.Holds.trans
    {outer middle part : Token}
    (holds : outer.Holds middle)
    (holdsPart : middle.Holds part) :
    outer.Holds part := by
  induction holds with
  | itself =>
      exact holdsPart
  | inside member _ inductionHypothesis =>
      exact .inside member (inductionHypothesis holdsPart)

namespace Instruction

/-- Whether tokens are those of an instruction, or those of one of its blocks at whatever
depth. -/
def HasSequence
    (instruction : Instruction)
    (sequence : List Token) : Prop :=
  sequence = instruction.tokens ∨
    ∃ outer ∈ instruction.tokens, ∃ bracket span, outer.Holds (.block bracket sequence span)

variable
  {instruction : Instruction}
  {sequence : List Token}

theorem HasSequence.holds
    (hasSequence : instruction.HasSequence sequence)
    {token : Token}
    (member : token ∈ sequence) :
    ∃ outer ∈ instruction.tokens, outer.Holds token := by
  rcases hasSequence with rfl | ⟨outer, isToken, bracket, span, holds⟩
  · exact ⟨token, member, .itself⟩
  · exact ⟨outer, isToken, holds.trans (.inside member .itself)⟩

theorem HasSequence.inside
    (hasSequence : instruction.HasSequence sequence)
    {bracket : Bracket}
    {inside : List Token}
    {span : Span}
    (member : .block bracket inside span ∈ sequence) :
    instruction.HasSequence inside := by
  obtain ⟨outer, isToken, holds⟩ := hasSequence.holds member
  exact .inr ⟨outer, isToken, bracket, span, holds⟩

end Instruction

/-- What the place of a fault shows of a source: a token of an instruction at whatever depth,
three tokens that are compared, a bracket of a block, or nothing behind a token. -/
inductive Fault.Shows
    (source : String)
    (instruction : Instruction)
    (fault : Fault) : Prop where
  | token
      {sequence : List Token}
      {token : Token} :
      instruction.HasSequence sequence →
      token ∈ sequence →
      fault.span = token.span →
      Shows source instruction fault
  | comparison
      {sequence : List Token}
      {left operator right : Token} :
      instruction.HasSequence sequence →
      [left, operator, right] <:+: sequence →
      fault.span = ⟨left.span.start, right.span.stop⟩ →
      Shows source instruction fault
  | opening
      {sequence inside : List Token}
      {bracket : Bracket}
      {span : Span} :
      instruction.HasSequence sequence →
      .block bracket inside span ∈ sequence →
      fault.span = ⟨span.start, span.start + 1⟩ →
      Text.slice source fault.span = String.singleton bracket.opening →
      Shows source instruction fault
  | closing
      {sequence inside : List Token}
      {bracket : Bracket}
      {span : Span} :
      instruction.HasSequence sequence →
      .block bracket inside span ∈ sequence →
      fault.span = ⟨span.stop - 1, span.stop⟩ →
      Text.slice source fault.span = String.singleton bracket.closing →
      Shows source instruction fault
  | behind
      {sequence : List Token}
      {token : Token} :
      instruction.HasSequence sequence →
      token ∈ sequence →
      fault.span = ⟨token.span.stop, token.span.stop⟩ →
      Shows source instruction fault

/-- Whether a fault is a closing bracket that an instruction lacks: it is missed in the last
byte of the instruction, behind the operator that is the last token of the block, and that
byte belongs to a character of the operator or to a blank. -/
structure Fault.InOpenEnd
    (instruction : Instruction)
    (c : Char)
    (fault : Fault) : Prop where
  misses :
    fault =
      .expression
        ⟨some .closing, .operand, ⟨instruction.span.stop - 1, instruction.span.stop⟩⟩
  leftOpen :
    ∃ sequence bracket inside start,
      instruction.HasSequence sequence ∧
        .block bracket inside ⟨start, instruction.span.stop⟩ ∈ sequence ∧
        Token.EndInOperator inside
  lastChar : instruction.source.toList.getLast? = some c
  isEnd : Lexeme.IsOpenEndChar c

/-!
## Faults between characters
-/

section Slices

variable
  {source : String}
  {front rest : List Char}
  {c : Char}

/-- A character of one byte can be sliced. -/
theorem Text.slice_char
    (split : source.toList = front ++ c :: rest)
    (oneByte : c.utf8Size = 1) :
    Span.OnBoundaries source.toList ⟨byteLength front, byteLength front + 1⟩ ∧
      slice source ⟨byteLength front, byteLength front + 1⟩ = String.singleton c := by
  have parts : source.toList = front ++ [c] ++ rest := by
    rw [split, List.append_assoc, List.singleton_append]
  have size : byteLength (front ++ [c]) = byteLength front + 1 := by
    rw [byteLength_append, byteLength, byteLength, oneByte]
  rw [← size]
  refine ⟨⟨⟨front, c :: rest, split, rfl⟩, ⟨front ++ [c], rest, parts, rfl⟩⟩, ?_⟩
  rw [slice_between parts, String.singleton_eq_ofList]

/-- A longer character has no boundary in front of its last byte. -/
theorem Text.not_isBoundary_of_size
    (split : source.toList = front ++ c :: rest)
    (longer : 1 < c.utf8Size) :
    ¬IsBoundary source.toList (byteLength (front ++ [c]) - 1) := by
  rintro ⟨upTo, behind, upToSplits, length⟩
  rw [byteLength_append, byteLength, byteLength] at length
  obtain ⟨middle, rfl⟩ :=
    exists_append_of_byteLength_le (split.symm.trans upToSplits) (by omega)
  rw [byteLength_append] at length
  cases middle with
  | nil =>
      rw [byteLength] at length
      omega
  | cons other middle =>
      rw [split, List.append_assoc] at upToSplits
      cases List.append_cancel_left upToSplits
      rw [byteLength] at length
      omega

theorem Bracket.size_opening (bracket : Bracket) :
    bracket.opening.utf8Size = 1 := by
  cases bracket <;> decide

theorem Bracket.size_closing (bracket : Bracket) :
    bracket.closing.utf8Size = 1 := by
  cases bracket <;> decide

/-- A lexeme of one byte is the character at its span. -/
theorem Lexeme.exists_split_of_char
    {lexeme : Lexeme}
    (isChar : ∀ {rest spelled : List Char}, SpelledBefore rest spelled lexeme → spelled = [c])
    (oneByte : c.utf8Size = 1)
    {span : Span}
    (member : ⟨lexeme, span⟩ ∈ lexemes source) :
    ∃ front rest,
      source.toList = front ++ c :: rest ∧
        span = ⟨Text.byteLength front, Text.byteLength front + 1⟩ := by
  obtain ⟨front, spelled, rest, split, isSpelled, same⟩ :=
    (fallsInto_lexemes source).spelled_of_mem member
  obtain rfl := isChar isSpelled
  refine ⟨front, rest, split, same.trans ?_⟩
  rw [Text.byteLength_append, Text.byteLength, Text.byteLength, oneByte]
  simp only [Nat.zero_add, Nat.add_zero]

theorem Lexeme.exists_split_opening
    {bracket : Bracket}
    {span : Span}
    (member : ⟨.opening bracket, span⟩ ∈ lexemes source) :
    ∃ front rest,
      source.toList = front ++ bracket.opening :: rest ∧
        span = ⟨Text.byteLength front, Text.byteLength front + 1⟩ :=
  exists_split_of_char (fun spelled => by cases spelled; rfl) bracket.size_opening member

theorem Lexeme.exists_split_closing
    {bracket : Bracket}
    {span : Span}
    (member : ⟨.closing bracket, span⟩ ∈ lexemes source) :
    ∃ front rest,
      source.toList = front ++ bracket.closing :: rest ∧
        span = ⟨Text.byteLength front, Text.byteLength front + 1⟩ :=
  exists_split_of_char (fun spelled => by cases spelled; rfl) bracket.size_closing member

variable
  {instruction : Instruction}
  (member : instruction ∈ instructions source)

include member

/-- An instruction is not empty, and its last character ends where it does. -/
theorem Instruction.exists_lastChar :
    ∃ front c rest,
      source.toList = front ++ c :: rest ∧
        Text.byteLength (front ++ [c]) = instruction.span.stop ∧
        instruction.source.toList.getLast? = some c := by
  obtain ⟨begins, ends⟩ := onBoundaries_of_mem_instructions member
  obtain ⟨_, nonempty, _⟩ := (inOrder_instructions source).of_mem (List.mem_map_of_mem member)
  obtain ⟨front, middle, behind, split, same⟩ :=
    Text.exists_split begins ends (Nat.le_of_lt nonempty)
  have text := (liesIn_of_mem_instructions member).text
  rw [same, Text.slice_between split] at text
  rw [same, Text.byteLength_append] at nonempty
  rcases List.eq_nil_or_concat middle with rfl | ⟨init, c, rfl⟩
  · simp [Text.byteLength] at nonempty
  · refine ⟨front ++ init, c, behind, ?_, ?_, ?_⟩
    · simpa using split
    · rw [same, List.append_assoc]
      simp
    · rw [text, String.toList_ofList, List.concat_eq_append, List.getLast?_concat]

/-- A lexeme that may end an open block ends in the last character of the instruction. -/
theorem Instruction.exists_openEndChar
    {last : Located Lexeme}
    (isLexeme : last ∈ lexemes source)
    (ends : instruction.span.stop = last.span.stop)
    (isOpenEnd : last.value.IsOpenEnd) :
    ∃ c, instruction.source.toList.getLast? = some c ∧ Lexeme.IsOpenEndChar c := by
  obtain ⟨upTo, c, behind, split, stop, isLast⟩ := exists_lastChar member
  obtain ⟨front, spelled, rest, spelledSplit, isSpelled, same⟩ :=
    (fallsInto_lexemes source).spelled_of_mem isLexeme
  obtain ⟨init, other, rfl, isOpenEndChar⟩ := isSpelled.exists_openEndChar isOpenEnd
  have sameStop :
      Text.byteLength (upTo ++ [c]) = Text.byteLength (front ++ (init ++ [other])) := by
    rw [stop, ends, same]
    simp only [Nat.zero_add]
  have sameChars : (upTo ++ [c]) ++ behind = (front ++ (init ++ [other])) ++ rest := by
    rw [List.append_assoc, List.singleton_append, ← split, spelledSplit]
    simp only [List.append_assoc]
  have samePart := Text.eq_of_byteLength_eq sameChars sameStop
  rw [← List.append_assoc] at samePart
  obtain ⟨-, sameChar⟩ := List.append_inj' samePart rfl
  cases sameChar
  exact ⟨c, isLast, isOpenEndChar⟩

variable
  {sequence inside : List Token}
  {bracket : Bracket}
  {span : Span}
  (hasSequence : instruction.HasSequence sequence)
  (isBlock : .block bracket inside span ∈ sequence)

include hasSequence isBlock

/-- A block has its opening bracket, and its closing bracket unless it is left open. -/
theorem Instruction.brackets_of_block :
    (∃ opening, ⟨.opening bracket, opening⟩ ∈ lexemes source ∧ opening.start = span.start) ∧
      ((∃ closing, ⟨.closing bracket, closing⟩ ∈ lexemes source ∧ closing.stop = span.stop) ∨
        (span.stop = instruction.span.stop ∧
          (Token.EndInOperator inside →
            ∃ c, instruction.source.toList.getLast? = some c ∧ Lexeme.IsOpenEndChar c))) := by
  obtain ⟨before, own, behind, first, last, parts, form, -, isLast, reaches⟩ :=
    exists_formLast_of_mem_instructions member
  have areLexemes : own ⊆ lexemes source := by
    rw [parts]
    exact fun _ inOwn => by simp [inOwn]
  obtain ⟨outer, isToken, holds⟩ := hasSequence.holds isBlock
  rcases form.hasBrackets_or_isLeftOpen isToken holds with
    ⟨opening, closing, opens, closes, rfl⟩ | ⟨opening, last', opens, isLast', rfl, ends⟩
  · exact ⟨⟨opening, areLexemes opens, rfl⟩, .inl ⟨closing, areLexemes closes, rfl⟩⟩
  · obtain rfl := Option.some.inj (isLast.symm.trans isLast')
    have sameStop : instruction.span.stop = last.span.stop := by
      rw [reaches]
    exact ⟨⟨opening, areLexemes opens, rfl⟩, .inr ⟨sameStop.symm, fun endInOperator =>
      exists_openEndChar member (areLexemes (List.mem_of_getLast? isLast)) sameStop
        (ends endInOperator)⟩⟩

end Slices

/-- A fault among tokens is found between characters and shows what is there, or it is the
closing bracket that an instruction lacks. -/
theorem Fault.FoundAmong.shows
    {source : String}
    {instruction : Instruction}
    (member : instruction ∈ instructions source)
    {sequence : List Token}
    (hasSequence : instruction.HasSequence sequence)
    {fault : Fault}
    (found : fault.FoundAmong sequence) :
    (fault.span.OnBoundaries source.toList ∧ fault.Shows source instruction) ∨
      ∃ c, fault.InOpenEnd instruction c := by
  have onBoundaries :
      ∀ {sequence : List Token}, instruction.HasSequence sequence →
        ∀ token ∈ sequence, token.span.OnBoundaries source.toList := by
    intro sequence hasSequence token inSequence
    obtain ⟨outer, isToken, holds⟩ := hasSequence.holds inSequence
    exact onBoundaries_of_mem_sequences (mem_instructions member).1 outer isToken token holds
  induction found with
  | token inSequence same =>
      exact .inl ⟨same ▸ onBoundaries hasSequence _ inSequence,
        .token hasSequence inSequence same⟩
  | behind inSequence same =>
      have ends := (onBoundaries hasSequence _ inSequence).ends
      exact .inl ⟨same ▸ ⟨ends, ends⟩, .behind hasSequence inSequence same⟩
  | @comparison _ left operator right three same =>
      have begins := (onBoundaries hasSequence left (three.subset (by simp))).begins
      have ends := (onBoundaries hasSequence right (three.subset (by simp))).ends
      exact .inl ⟨same ▸ ⟨begins, ends⟩, .comparison hasSequence three same⟩
  | @opening _ inside bracket span isBlock same =>
      obtain ⟨⟨opening, opens, sameStart⟩, -⟩ :=
        Instruction.brackets_of_block member hasSequence isBlock
      obtain ⟨front, rest, split, rfl⟩ := Lexeme.exists_split_opening opens
      obtain ⟨bracketOnBoundaries, shown⟩ := Text.slice_char split bracket.size_opening
      have samePlace :
          fault.span = ⟨Text.byteLength front, Text.byteLength front + 1⟩ := by
        rw [same, ← sameStart]
      exact .inl ⟨samePlace ▸ bracketOnBoundaries,
        .opening hasSequence isBlock same (samePlace ▸ shown)⟩
  | @closing _ inside bracket span isBlock endInOperator same =>
      have sameSpan : fault.span = ⟨span.stop - 1, span.stop⟩ := by
        rw [same]
        rfl
      obtain ⟨-, ⟨closing, closes, sameStop⟩ | ⟨sameStop, ends⟩⟩ :=
        Instruction.brackets_of_block member hasSequence isBlock
      · obtain ⟨front, rest, split, rfl⟩ := Lexeme.exists_split_closing closes
        obtain ⟨bracketOnBoundaries, shown⟩ := Text.slice_char split bracket.size_closing
        have samePlace :
            fault.span = ⟨Text.byteLength front, Text.byteLength front + 1⟩ := by
          rw [sameSpan, ← sameStop, Nat.add_sub_cancel]
        exact .inl ⟨samePlace ▸ bracketOnBoundaries,
          .closing hasSequence isBlock sameSpan (samePlace ▸ shown)⟩
      · obtain ⟨c, lastChar, isEnd⟩ := ends endInOperator
        obtain ⟨start, stop⟩ := span
        cases sameStop
        exact .inr ⟨c, same, ⟨_, bracket, inside, start, hasSequence, isBlock, endInOperator⟩,
          lastChar, isEnd⟩
  | inside isBlock _ inductionHypothesis =>
      exact inductionHypothesis (hasSequence.inside isBlock)

/-- The fault of an instruction is found between characters and shows what is there, or it
is the closing bracket that the instruction lacks. -/
theorem Instruction.command_shows
    {source : String}
    {instruction : Instruction}
    (member : instruction ∈ instructions source)
    (context : Context)
    {error : ParseError}
    (fails : instruction.command context = .error error) :
    (error.fault.span.OnBoundaries source.toList ∧ error.fault.Shows source instruction) ∨
      ∃ c, error.fault.InOpenEnd instruction c := by
  have outermost : instruction.HasSequence instruction.tokens := .inl rfl
  obtain ⟨outcome, -⟩ := Instruction.command_eq_error fails
  rcases (Token.command_among context _ _).of_eq_error outcome with among | atEnd
  · exact among.shows member outermost
  · obtain ⟨_, last, _, isLast, reaches⟩ := reachesOverTokens_of_mem_instructions member
    have sameStop : instruction.span.stop = last.span.stop := by
      rw [reaches]
    rw [sameStop] at atEnd
    exact Fault.FoundAmong.shows member outermost
      (.behind (List.mem_of_getLast? isLast) atEnd)

/-- A closing bracket that an instruction lacks is found at its last character if that is one
byte long, and inside the character if it is longer. -/
theorem Fault.InOpenEnd.stop_isBoundary
    {source : String}
    {instruction : Instruction}
    (member : instruction ∈ instructions source)
    {fault : Fault}
    {c : Char}
    (inOpenEnd : fault.InOpenEnd instruction c) :
    Text.IsBoundary source.toList fault.span.stop ∧
      (Text.IsBoundary source.toList fault.span.start ↔ c.utf8Size = 1) := by
  have sameSpan : fault.span = ⟨instruction.span.stop - 1, instruction.span.stop⟩ := by
    rw [inOpenEnd.misses]
    rfl
  obtain ⟨front, other, rest, split, stop, isLast⟩ := Instruction.exists_lastChar member
  obtain rfl := Option.some.inj (inOpenEnd.lastChar.symm.trans isLast)
  rw [sameSpan, ← stop]
  have positive := c.utf8Size_pos
  refine ⟨⟨front ++ [c], rest, by simp [split], rfl⟩, fun boundary => ?_, fun oneByte => ?_⟩
  · by_contra notOne
    exact Text.not_isBoundary_of_size split (by omega) boundary
  · refine ⟨front, c :: rest, split, ?_⟩
    simp [Text.byteLength_append, Text.byteLength, oneByte]

theorem Lexeme.size_of_isOperatorChar
    {c : Char}
    (isOperatorChar : isOperatorChar c = true) :
    c.utf8Size = 1 := by
  simp only [Lexeme.isOperatorChar, Bool.or_eq_true, beq_iff_eq] at isOperatorChar
  rcases isOperatorChar with (((((rfl | rfl) | rfl) | rfl) | rfl) | rfl) | rfl <;> decide

/--
The place of an error can be sliced.  Whatever the source and the context, it ends between
two characters of the source, and it is what stands there in the source, unless it is the
closing bracket of a block that the source leaves open behind an operator and a word of
blanks, and the last of the blanks is longer than a byte.  It shows a token, three tokens
that are compared, a bracket or the end of tokens, or it is the last byte of the instruction
in place of the bracket that the instruction lacks.
-/
theorem error_canBeSliced
    {source : String}
    {instruction : Instruction}
    (member : instruction ∈ instructions source)
    (context : Context)
    {error : ParseError}
    (fails : instruction.command context = .error error) :
    (String.Pos.Raw.mk error.fault.span.stop).IsValid source ∧
      (Text.IsPart source error.fault.span (Text.slice source error.fault.span) ↔
        ¬∃ c, error.fault.InOpenEnd instruction c ∧ Text.isBlank c = true ∧ 1 < c.utf8Size) ∧
      (error.fault.Shows source instruction ∨ ∃ c, error.fault.InOpenEnd instruction c) := by
  have placed := (liesIn_of_mem_instructions member).placed
  have ordered : error.fault.span.start ≤ error.fault.span.stop :=
    ((Token.command_within context placed).of_eq_error
      (Instruction.command_eq_error fails).1).ordered
  have apart :
      Text.IsPart source error.fault.span (Text.slice source error.fault.span) →
        ¬∃ c, error.fault.InOpenEnd instruction c ∧ Text.isBlank c = true ∧ 1 < c.utf8Size := by
    rintro isPart ⟨c, inOpenEnd, -, longer⟩
    have oneByte := (inOpenEnd.stop_isBoundary member).2.mp
      (Text.isBoundary_iff_isValid.mpr isPart.startIsBoundary)
    omega
  rcases Instruction.command_shows member context fails with
    ⟨onBoundaries, shows⟩ | ⟨c, inOpenEnd⟩
  · refine ⟨Text.isBoundary_iff_isValid.mp onBoundaries.ends, ⟨apart, fun _ => ?_⟩, .inl shows⟩
    exact Text.isPart_slice onBoundaries.begins onBoundaries.ends ordered
  · obtain ⟨ends, begins⟩ := inOpenEnd.stop_isBoundary member
    refine ⟨Text.isBoundary_iff_isValid.mp ends, ⟨apart, fun notLonger => ?_⟩, .inr ⟨c, inOpenEnd⟩⟩
    have oneByte : c.utf8Size = 1 := by
      rcases inOpenEnd.isEnd with isOperatorChar | isBlank
      · exact Lexeme.size_of_isOperatorChar isOperatorChar
      · have positive := c.utf8Size_pos
        by_contra notOne
        exact notLonger ⟨c, inOpenEnd, isBlank, by omega⟩
    exact Text.isPart_slice (begins.mpr oneByte) ends ordered

/-- Behind an operand in a condition a comparison is found as a whole, and its place can be
sliced among letters of two bytes. -/
theorem error_canBeSliced_comparison :
    ∃ instruction ∈ instructions "é . \x7bü 'ä' == x\x7d",
      ∃ error,
        instruction.command (.ofData .null) = .error error ∧
          Text.IsPart "é . \x7bü 'ä' == x\x7d" error.fault.span "'ä' == x" := by
  let inside : List Token :=
    [.name "ü" ⟨6, 8⟩, .quotation .single "ä" ⟨9, 13⟩, .operator "==" ⟨14, 16⟩, .name "x" ⟨17, 18⟩]
  let instruction : Instruction :=
    ⟨"é . \x7bü 'ä' == x\x7d", ⟨0, 19⟩,
      [.name "é" ⟨0, 2⟩, .name "." ⟨3, 4⟩, .block .brace inside ⟨5, 19⟩]⟩
  let error : ParseError :=
    ⟨.expression ⟨some (.operand false), .operatorOrEnd, ⟨9, 18⟩⟩, "é . \x7bü 'ä' == x\x7d"⟩
  have isLast : (instructions "é . \x7bü 'ä' == x\x7d").getLast? = some instruction := by
    rfl
  have fails : instruction.command (.ofData .null) = .error error := by
    rfl
  have shown : Text.slice "é . \x7bü 'ä' == x\x7d" error.fault.span = "'ä' == x" := by
    rfl
  have member := List.mem_of_getLast? isLast
  refine ⟨instruction, member, error, fails, ?_⟩
  rw [← shown]
  refine (error_canBeSliced member (.ofData .null) fails).2.1.mpr ?_
  rintro ⟨c, inOpenEnd, -⟩
  cases inOpenEnd.misses

/-- Of two blocks that the source leaves open the inner one ends in an operator, and behind
it stands a blank of two bytes.  The closing bracket of the inner block is missed in the
second of the two. -/
theorem error_canBeSliced_wideBlank :
    ∃ instruction ∈ instructions "((a &&\u00a0",
      ∃ error,
        instruction.command (.ofData .null) = .error error ∧
          error.fault.span = ⟨7, 8⟩ ∧
          ¬(String.Pos.Raw.mk error.fault.span.start).IsValid "((a &&\u00a0" := by
  let inner : Token := .block .round [.name "a" ⟨2, 3⟩, .operator "&&" ⟨4, 6⟩] ⟨1, 8⟩
  let instruction : Instruction := ⟨"((a &&\u00a0", ⟨0, 8⟩, [.block .round [inner] ⟨0, 8⟩]⟩
  let error : ParseError := ⟨.expression ⟨some .closing, .operand, ⟨7, 8⟩⟩, "((a &&\u00a0"⟩
  have isLast : (instructions "((a &&\u00a0").getLast? = some instruction := by
    rfl
  have fails : instruction.command (.ofData .null) = .error error := by
    rfl
  have split : "((a &&\u00a0".toList = "((a &&".toList ++ '\u00a0' :: [] := by
    rfl
  refine ⟨instruction, List.mem_of_getLast? isLast, error, fails, rfl, fun isValid => ?_⟩
  exact Text.not_isBoundary_of_size split (by decide) (Text.isBoundary_iff_isValid.mpr isValid)

end DataBinding
