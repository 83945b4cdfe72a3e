import DataBinding.Proofs.LexemeOrder
import DataBinding.Proofs.LexemeText

namespace DataBinding

/-!
# The patterns of lexemes

Each kind of lexeme has a pattern, and a source falls into gaps and lexemes of which each
is as long as its pattern allows.  The lexer finds the one such division of a source.
Nothing is lost by it but gaps and a backslash that ends the source, for every other
character begins a lexeme.
-/

theorem Bracket.opening_of_ofOpening?
    {c : Char}
    {bracket : Bracket}
    (opens : ofOpening? c = some bracket) :
    bracket.opening = c := by
  simpa using List.find?_some opens

theorem Bracket.closing_of_ofClosing?
    {c : Char}
    {bracket : Bracket}
    (closes : ofClosing? c = some bracket) :
    bracket.closing = c := by
  simpa using List.find?_some closes

theorem Quote.mark_of_ofMark?
    {c : Char}
    {quote : Quote}
    (isMark : ofMark? c = some quote) :
    quote.mark = c := by
  simpa using List.find?_some isMark

namespace Lexeme

/-- Whether characters spell a text by characters of a class and by escapes.  A backslash
escapes any one character. -/
inductive Escaped (isPlain : Char → Prop) : List Char → String → Prop where
  | nothing :
      Escaped isPlain [] ""
  | plain
      {chars : List Char}
      {text : String}
      {c : Char} :
      Escaped isPlain chars text →
      isPlain c →
      Escaped isPlain (chars ++ [c]) (text.push c)
  | escape
      {chars : List Char}
      {text : String}
      {c : Char} :
      Escaped isPlain chars text →
      Escaped isPlain (chars ++ ['\\', c]) (text.push c)

/-- Whether a character of a quotation stands for itself. -/
def IsQuotedPlain
    (quote : Quote)
    (c : Char) : Prop :=
  c ≠ quote.mark ∧ c ≠ '\\'

/-- Whether a character of a word stands for itself. -/
def IsWordPlain (c : Char) : Prop :=
  isSpecial c = false

/-- Whether all that is left of a source is left out: nothing, or a backslash that escapes
nothing. -/
def LeftOut (rest : List Char) : Prop :=
  rest = [] ∨ rest = ['\\']

/-- Whether characters spell a lexeme and cannot be prolonged by what stands behind them. -/
inductive SpelledBefore (rest : List Char) : List Char → Lexeme → Prop where
  | opening
      {bracket : Bracket} :
      SpelledBefore rest [bracket.opening] (.opening bracket)
  | closing
      {bracket : Bracket} :
      SpelledBefore rest [bracket.closing] (.closing bracket)
  | comma :
      SpelledBefore rest [','] .comma
  | operator
      {text : String} :
      IsOperator text →
      (∀ c ∈ rest.head?, isOperatorChar c = false) →
      SpelledBefore rest text.toList (.operator text)
  | quotation
      {quote : Quote}
      {chars : List Char}
      {text : String} :
      Escaped (IsQuotedPlain quote) chars text →
      SpelledBefore rest (quote.mark :: chars ++ [quote.mark]) (.quotation quote text)
  | openQuotation
      {quote : Quote}
      {chars : List Char}
      {text : String} :
      Escaped (IsQuotedPlain quote) chars text →
      LeftOut rest →
      SpelledBefore rest (quote.mark :: chars) (.quotation quote text)
  | word
      {chars : List Char}
      {text : String} :
      chars ≠ [] →
      Escaped IsWordPlain chars text →
      LeftOut rest ∨ (∃ c ∈ rest.head?, isSpecial c = true ∧ c ≠ '\\') →
      SpelledBefore rest chars (.word text)

/-- Whether characters, the first of them at an offset, fall into gaps and lexemes that
are as long as they can be. -/
inductive FallsInto : Nat → List Char → List (Located Lexeme) → Prop where
  | leftOut
      {offset : Nat}
      {rest : List Char} :
      LeftOut rest →
      FallsInto offset rest []
  | gap
      {offset : Nat}
      {c : Char}
      {rest : List Char}
      {lexemes : List (Located Lexeme)} :
      isGap c = true →
      FallsInto (offset + c.utf8Size) rest lexemes →
      FallsInto offset (c :: rest) lexemes
  | lexeme
      {offset : Nat}
      {chars rest : List Char}
      {lexeme : Lexeme}
      {lexemes : List (Located Lexeme)} :
      SpelledBefore rest chars lexeme →
      FallsInto (offset + Text.byteLength chars) rest lexemes →
      FallsInto offset (chars ++ rest)
        (⟨lexeme, ⟨offset, offset + Text.byteLength chars⟩⟩ :: lexemes)

/-!
## Patterns are read
-/

theorem Escaped.text_eq_empty_iff
    {isPlain : Char → Prop}
    {chars : List Char}
    {text : String}
    (escaped : Escaped isPlain chars text) :
    text = "" ↔ chars = [] := by
  cases escaped with
  | nothing =>
      simp
  | plain | escape =>
      simp

theorem size_backslash :
    Char.utf8Size '\\' = 1 := by
  decide

theorem Escaped.head_cases
    {isPlain : Char → Prop}
    {chars : List Char}
    {text : String}
    (escaped : Escaped isPlain chars text) :
    ∀ c ∈ chars.head?, isPlain c ∨ c = '\\' := by
  induction escaped with
  | nothing =>
      exact fun _ isHead => nomatch isHead
  | @plain chars _ _ _ plain inductionHypothesis =>
      cases chars with
      | nil =>
          intro other isHead
          cases isHead
          exact Or.inl plain
      | cons =>
          exact inductionHypothesis
  | @escape chars _ _ _ inductionHypothesis =>
      cases chars with
      | nil =>
          intro other isHead
          cases isHead
          exact Or.inr rfl
      | cons =>
          exact inductionHypothesis

namespace Mode

/-- Whether a lexeme under way, known by its text and by whether an escape is under way,
takes up characters of a class and escapes. -/
structure TakesUp
    (isPlain : Char → Prop)
    (mode : String → Bool → Mode) : Prop where
  plain :
    ∀ text offset c, isPlain c → (mode text false).read offset c = ([], mode (text.push c) false)
  backslash :
    ∀ text offset, (mode text false).read offset '\\' = ([], mode text true)
  escaped :
    ∀ text offset c, (mode text true).read offset c = ([], mode (text.push c) false)

theorem takesUp_quotation
    (quote : Quote)
    (start : Nat) :
    TakesUp (IsQuotedPlain quote) (quotation quote start) where
  plain text offset c plain := by
    simp [read, plain.1, plain.2]
  backslash _ _ :=
    rfl
  escaped _ _ _ :=
    rfl

theorem takesUp_word
    (start : Nat) :
    TakesUp IsWordPlain (word start) where
  plain text offset c plain := by
    have notSpecial : isSpecial c = false := plain
    have noBackslash : c ≠ '\\' := by
      rintro rfl
      exact absurd notSpecial (by decide)
    simp [read, noBackslash, notSpecial]
  backslash _ _ :=
    rfl
  escaped _ _ _ :=
    rfl

theorem TakesUp.readAll
    {isPlain : Char → Prop}
    {mode : String → Bool → Mode}
    (takesUp : TakesUp isPlain mode)
    {chars : List Char}
    {text : String}
    (escaped : Escaped isPlain chars text)
    (offset : Nat)
    (rest : List Char) :
    (mode "" false).readAll offset (chars ++ rest) =
      (mode text false).readAll (offset + Text.byteLength chars) rest := by
  induction escaped generalizing rest with
  | nothing =>
      rfl
  | plain _ plain inductionHypothesis =>
      rw [List.append_assoc, inductionHypothesis, List.singleton_append, Mode.readAll,
        takesUp.plain _ _ _ plain, Text.byteLength_append, ← Nat.add_assoc]
      rfl
  | escape _ inductionHypothesis =>
      rw [List.append_assoc, inductionHypothesis, List.cons_append, List.singleton_append,
        Mode.readAll, takesUp.backslash]
      dsimp only
      rw [Mode.readAll, takesUp.escaped, Text.byteLength_append, Text.byteLength,
        Text.byteLength, Text.byteLength]
      simp only [List.nil_append, Nat.add_assoc, Nat.add_zero]

theorem read_of_endsBefore
    {mode : Mode}
    {c : Char}
    (ends : mode.EndsBefore c)
    (offset : Nat) :
    mode.read offset c = mode.restart offset c := by
  cases mode with
  | idle =>
      rfl
  | operator =>
      have notOperator : isOperatorChar c = false := ends
      simp [read, notOperator]
  | quotation =>
      exact ends.elim
  | word start text escaping =>
      obtain ⟨rfl, special, noBackslash⟩ := ends
      simp [read, special, noBackslash]

/-- In front of a character that ends it, the lexeme under way is complete. -/
theorem readAll_of_endsBefore
    {mode : Mode}
    {rest : List Char}
    (ends : ∀ c ∈ rest.head?, mode.EndsBefore c)
    (offset : Nat) :
    mode.readAll offset rest = mode.ended offset ++ idle.readAll offset rest := by
  cases rest with
  | nil =>
      exact (List.append_nil _).symm
  | cons c rest =>
      rw [readAll, read_of_endsBefore (ends c rfl), restart, List.append_assoc]
      rfl

/-- The characters of a word are read as if a word was under way in front of them. -/
theorem readAll_word
    {chars : List Char}
    {text : String}
    (nonempty : chars ≠ [])
    (escaped : Escaped IsWordPlain chars text)
    (offset : Nat)
    (rest : List Char) :
    idle.readAll offset (chars ++ rest) =
      (word offset text false).readAll (offset + Text.byteLength chars) rest := by
  rw [← (takesUp_word offset).readAll escaped offset rest]
  obtain ⟨c, others, rfl⟩ := List.exists_cons_of_ne_nil nonempty
  have sameRead : idle.read offset c = (word offset "" false).read offset c := by
    rcases escaped.head_cases c rfl with plain | rfl
    · exact (begin_of_not_special plain offset).trans
        ((takesUp_word offset).plain "" offset c plain).symm
    · rfl
  rw [List.cons_append, readAll, readAll, sameRead]

theorem readAll_operator
    (start : Nat)
    (text : String)
    {chars : List Char}
    (operatorChars : ∀ c ∈ chars, isOperatorChar c = true)
    (offset : Nat)
    (rest : List Char) :
    (operator start text).readAll offset (chars ++ rest) =
      (operator start (text ++ String.ofList chars)).readAll
        (offset + Text.byteLength chars) rest := by
  induction chars generalizing text offset with
  | nil =>
      rw [String.ofList_nil, String.append_empty]
      rfl
  | cons c chars inductionHypothesis =>
      obtain ⟨isChar, areChars⟩ := List.forall_mem_cons.mp operatorChars
      have read : (operator start text).read offset c = ([], operator start (text.push c)) := by
        simp [Mode.read, isChar]
      rw [List.cons_append, readAll, read, append_ofList_cons, Text.byteLength, ← Nat.add_assoc]
      exact inductionHypothesis _ areChars _

end Mode

/-- A lexeme that cannot be prolonged is read, and what is behind it is read afresh. -/
theorem SpelledBefore.readAll
    {rest chars : List Char}
    {lexeme : Lexeme}
    (spelled : SpelledBefore rest chars lexeme)
    (offset : Nat) :
    Mode.idle.readAll offset (chars ++ rest) =
      ⟨lexeme, ⟨offset, offset + Text.byteLength chars⟩⟩ ::
        Mode.idle.readAll (offset + Text.byteLength chars) rest := by
  cases spelled with
  | @opening bracket =>
      cases bracket <;> rfl
  | @closing bracket =>
      cases bracket <;> rfl
  | comma =>
      rfl
  | @operator text form ends =>
      cases characters : text.toList with
      | nil =>
          exact absurd (String.toList_eq_nil_iff.mp characters) form.1
      | cons c others =>
          have operatorChars := form.isOperatorChar_of_mem
          rw [characters] at operatorChars
          obtain ⟨isChar, areChars⟩ := List.forall_mem_cons.mp operatorChars
          have whole : String.singleton c ++ String.ofList others = text := by
            rw [← Mode.ofList_cons, ← characters, String.ofList_toList]
          have begun : Mode.idle.read offset c = ([], .operator offset (String.singleton c)) :=
            Mode.begin_operatorChar isChar offset
          rw [List.cons_append, Mode.readAll, begun, List.nil_append,
            Mode.readAll_operator _ _ areChars, whole, Text.byteLength, ← Nat.add_assoc,
            Mode.readAll_of_endsBefore ends]
          rfl
  | @quotation quote chars text escaped =>
      have begun : Mode.idle.read offset quote.mark = ([], .quotation quote offset "" false) :=
        Mode.begin_mark quote offset
      have noBackslash : quote.mark ≠ '\\' := by
        cases quote <;> decide
      rw [List.cons_append, List.cons_append, Mode.readAll, begun, List.nil_append,
        List.append_assoc, (Mode.takesUp_quotation quote offset).readAll escaped,
        List.singleton_append, Mode.readAll]
      simp [Mode.read, noBackslash, Text.byteLength, Text.byteLength_append, Nat.add_assoc]
  | @openQuotation quote chars text escaped leftOut =>
      have begun : Mode.idle.read offset quote.mark = ([], .quotation quote offset "" false) :=
        Mode.begin_mark quote offset
      rw [List.cons_append, Mode.readAll, begun, List.nil_append,
        (Mode.takesUp_quotation quote offset).readAll escaped, Text.byteLength, ← Nat.add_assoc]
      rcases leftOut with rfl | rfl <;> rfl
  | word nonempty escaped ends =>
      rw [Mode.readAll_word nonempty escaped]
      rcases ends with (rfl | rfl) | ⟨c, isHead, special, noBackslash⟩
      · rfl
      · have nothing : Mode.idle.readAll (offset + Text.byteLength chars) ['\\'] = [] := rfl
        rw [nothing, Mode.readAll, (Mode.takesUp_word offset).backslash, Mode.readAll, Mode.ended]
        simp [escaped.text_eq_empty_iff, nonempty, size_backslash]
      · refine Mode.readAll_of_endsBefore (fun other isHead' => ?_) _
        obtain rfl := Option.some.inj (isHead.symm.trans isHead')
        exact ⟨rfl, special, noBackslash⟩

theorem LeftOut.readAll
    {rest : List Char}
    (leftOut : LeftOut rest)
    (offset : Nat) :
    Mode.idle.readAll offset rest = [] := by
  rcases leftOut with rfl | rfl <;> rfl

/-- What falls into lexemes is read as these. -/
theorem FallsInto.readAll
    {offset : Nat}
    {chars : List Char}
    {lexemes : List (Located Lexeme)}
    (falls : FallsInto offset chars lexemes) :
    Mode.idle.readAll offset chars = lexemes := by
  induction falls with
  | leftOut leftOut =>
      exact leftOut.readAll _
  | @gap offset c rest lexemes isGap _ inductionHypothesis =>
      have read : Mode.idle.read offset c = ([], .idle) := by
        simp [Mode.read, Mode.begin, isGap]
      rw [Mode.readAll, read, List.nil_append]
      exact inductionHypothesis
  | lexeme spelled _ inductionHypothesis =>
      rw [spelled.readAll, inductionHypothesis]

/-!
## Whatever is read follows the patterns
-/

namespace Mode

/-- What the characters since an offset have spelled of the lexeme under way. -/
inductive Spelling (start : Nat) : List Char → Mode → Prop where
  | idle :
      Spelling start [] idle
  | operator
      {text : String} :
      IsOperator text →
      Spelling start text.toList (operator start text)
  | quotation
      {quote : Quote}
      {chars : List Char}
      {text : String} :
      Escaped (IsQuotedPlain quote) chars text →
      Spelling start (quote.mark :: chars) (quotation quote start text false)
  | quotationEscape
      {quote : Quote}
      {chars : List Char}
      {text : String} :
      Escaped (IsQuotedPlain quote) chars text →
      Spelling start (quote.mark :: chars ++ ['\\']) (quotation quote start text true)
  | word
      {chars : List Char}
      {text : String} :
      chars ≠ [] →
      Escaped IsWordPlain chars text →
      Spelling start chars (word start text false)
  | wordEscape
      {chars : List Char}
      {text : String} :
      Escaped IsWordPlain chars text →
      Spelling start (chars ++ ['\\']) (word start text true)

namespace Spelling

variable
  {start : Nat}
  {spelled : List Char}
  {mode : Mode}

/-- At the end of the source the lexeme under way is complete. -/
theorem atEnd
    (spelling : Spelling start spelled mode) :
    FallsInto start spelled (mode.ended (start + Text.byteLength spelled)) := by
  have nothing : ∀ offset, FallsInto offset [] [] := fun _ => .leftOut (Or.inl rfl)
  have backslash : ∀ offset, FallsInto offset ['\\'] [] := fun _ => .leftOut (Or.inr rfl)
  have whole :
      ∀ {lexeme : Lexeme}, SpelledBefore [] spelled lexeme →
        FallsInto start spelled [⟨lexeme, ⟨start, start + Text.byteLength spelled⟩⟩] := by
    intro lexeme complete
    have falls := @FallsInto.lexeme start _ _ _ _ complete (nothing _)
    rwa [List.append_nil] at falls
  cases spelling with
  | idle =>
      exact nothing start
  | operator form =>
      exact whole (.operator form fun _ isHead => nomatch isHead)
  | quotation escaped =>
      exact whole (.openQuotation escaped (Or.inl rfl))
  | word nonempty escaped =>
      exact whole (.word nonempty escaped (Or.inl (Or.inl rfl)))
  | quotationEscape escaped =>
      rw [Text.byteLength_append, Text.byteLength, Text.byteLength, size_backslash]
      exact .lexeme (.openQuotation escaped (Or.inr rfl)) (backslash _)
  | @wordEscape chars _ escaped =>
      by_cases empty : chars = []
      · have noText := escaped.text_eq_empty_iff.mpr empty
        simpa [ended, noText, empty] using backslash start
      · have falls :=
          @FallsInto.lexeme start _ _ _ _ (.word empty escaped (Or.inl (Or.inr rfl))) (backslash _)
        simpa [ended, escaped.text_eq_empty_iff, empty, Text.byteLength_append, Text.byteLength,
          size_backslash] using falls

/-- In front of a character that ends it, the lexeme under way is complete. -/
theorem before
    (spelling : Spelling start spelled mode)
    {c : Char}
    (ends : mode.EndsBefore c)
    {rest : List Char}
    {lexemes : List (Located Lexeme)}
    (falls : FallsInto (start + Text.byteLength spelled) (c :: rest) lexemes) :
    FallsInto start (spelled ++ c :: rest)
      (mode.ended (start + Text.byteLength spelled) ++ lexemes) := by
  cases spelling with
  | idle =>
      exact falls
  | operator form =>
      refine .lexeme (.operator form fun other isHead => ?_) falls
      cases isHead
      exact ends
  | quotation | quotationEscape =>
      exact ends.elim
  | word nonempty escaped =>
      exact .lexeme (.word nonempty escaped (Or.inr ⟨c, rfl, ends.2⟩)) falls
  | wordEscape =>
      exact nomatch ends.1

/-- What begins with a character falls into lexemes if all that goes on behind it does. -/
theorem fallsInto_begin
    {offset : Nat}
    {c : Char}
    {rest : List Char}
    (goesOn :
      ∀ {start : Nat} {spelled : List Char} {mode : Mode}, Spelling start spelled mode →
        FallsInto start (spelled ++ rest)
          (mode.readAll (start + Text.byteLength spelled) rest)) :
    FallsInto offset (c :: rest)
      ((begin offset c).1 ++ (begin offset c).2.readAll (offset + c.utf8Size) rest) := by
  have afresh :
      FallsInto (offset + c.utf8Size) rest (Mode.idle.readAll (offset + c.utf8Size) rest) :=
    goesOn .idle
  have single :
      ∀ {lexeme : Lexeme}, SpelledBefore rest [c] lexeme →
        FallsInto offset (c :: rest)
          (⟨lexeme, ⟨offset, offset + c.utf8Size⟩⟩ ::
            Mode.idle.readAll (offset + c.utf8Size) rest) :=
    fun spelled => @FallsInto.lexeme offset [c] rest _ _ spelled afresh
  have prolonged :
      ∀ {mode : Mode}, Spelling offset [c] mode →
        FallsInto offset (c :: rest) (mode.readAll (offset + c.utf8Size) rest) :=
    fun spelling => goesOn spelling
  have begun := begins_begin offset c
  generalize begin offset c = step at begun ⊢
  cases begun with
  | gap isGap =>
      exact .gap isGap afresh
  | operator isChar =>
      refine prolonged ?_
      rw [← String.toList_singleton c]
      exact .operator (isOperator_singleton isChar)
  | comma isComma =>
      subst isComma
      exact single .comma
  | opening opens =>
      obtain rfl := Bracket.opening_of_ofOpening? opens
      exact single .opening
  | closing closes =>
      obtain rfl := Bracket.closing_of_ofClosing? closes
      exact single .closing
  | quotation isMark =>
      obtain rfl := Quote.mark_of_ofMark? isMark
      exact prolonged (.quotation .nothing)
  | escape isBackslash =>
      subst isBackslash
      exact prolonged (.wordEscape .nothing)
  | word isPlain =>
      exact prolonged (.word (List.cons_ne_nil c []) (.plain .nothing isPlain))

/-- Whatever is read falls into what the lexer gives. -/
theorem fallsInto
    (spelling : Spelling start spelled mode)
    (rest : List Char) :
    FallsInto start (spelled ++ rest)
      (mode.readAll (start + Text.byteLength spelled) rest) := by
  induction rest generalizing start spelled mode with
  | nil =>
      rw [List.append_nil]
      exact spelling.atEnd
  | cons c rest inductionHypothesis =>
      have goesOn :
          ∀ {mode : Mode}, Spelling start (spelled ++ [c]) mode →
            FallsInto start (spelled ++ c :: rest)
              (mode.readAll (start + Text.byteLength spelled + c.utf8Size) rest) := by
        intro mode spelling
        have later := inductionHypothesis spelling
        rwa [List.append_assoc, Text.byteLength_append, ← Nat.add_assoc] at later
      have step := mode.reads_read (start + Text.byteLength spelled) c
      rw [readAll]
      generalize mode.read (start + Text.byteLength spelled) c = step' at step ⊢
      cases step with
      | restart ends =>
          rw [restart, List.append_assoc]
          exact spelling.before ends (fallsInto_begin inductionHypothesis)
      | operator isChar =>
          cases spelling with
          | @operator text form =>
              refine goesOn ?_
              rw [← String.toList_push]
              exact .operator (form.push isChar)
      | quotation isPlain =>
          cases spelling with
          | quotation escaped =>
              exact goesOn (.quotation (.plain escaped (isPlain rfl)))
          | quotationEscape escaped =>
              refine goesOn ?_
              rw [List.append_assoc]
              exact .quotation (.escape escaped)
      | quotationEscape isBackslash =>
          subst isBackslash
          cases spelling with
          | quotation escaped =>
              exact goesOn (.quotationEscape escaped)
      | @quotationEnd quote _ text isMark =>
          subst isMark
          cases spelling with
          | @quotation _ chars _ escaped =>
              have later :
                  ∀ offset, FallsInto offset rest (Mode.idle.readAll offset rest) :=
                fun offset => inductionHypothesis (@Spelling.idle offset)
              have falls := @FallsInto.lexeme start _ rest _ _ (.quotation escaped) (later _)
              rw [List.append_assoc, Text.byteLength_append, ← Nat.add_assoc] at falls
              exact falls
      | word isPlain =>
          cases spelling with
          | word nonempty escaped =>
              refine goesOn (.word ?_ (.plain escaped (isPlain rfl)))
              exact List.append_ne_nil_of_left_ne_nil nonempty _
          | wordEscape escaped =>
              refine goesOn ?_
              rw [List.append_assoc]
              exact .word (by simp) (.escape escaped)
      | wordEscape isBackslash =>
          subst isBackslash
          cases spelling with
          | word _ escaped =>
              exact goesOn (.wordEscape escaped)

end Spelling

end Mode

/-- The lexer finds the one division of a source into gaps and lexemes. -/
theorem fallsInto_iff
    {offset : Nat}
    {chars : List Char}
    {lexemes : List (Located Lexeme)} :
    FallsInto offset chars lexemes ↔ Mode.idle.readAll offset chars = lexemes := by
  constructor
  · exact FallsInto.readAll
  · rintro rfl
    exact (@Mode.Spelling.idle offset).fallsInto chars

end Lexeme

theorem fallsInto_lexemes
    (source : String) :
    Lexeme.FallsInto 0 source.toList (lexemes source) :=
  Lexeme.fallsInto_iff.mpr rfl

end DataBinding
