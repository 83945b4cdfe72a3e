import DataBinding.Proofs.TokenPlaces

namespace DataBinding

/-!
# Tokens of text that stands further on

Where a text stands has no part in how it is read.  The lexer and the stack of open
blocks copy offsets into what they make and never compare them, so reading a text
that stands behind others gives the same lexemes and the same trees of tokens, with
all places shifted by the length of what is in front.
-/

/-- The place that lies a number of bytes further on. -/
def Span.shifted
    (distance : Nat)
    (span : Span) : Span where
  start := distance + span.start
  stop := distance + span.stop

/-- A value whose place lies further on. -/
def Located.shifted
    (distance : Nat)
    (located : Located α) : Located α where
  value := located.value
  span := located.span.shifted distance

namespace Lexeme.Mode

/-- The lexeme under way, begun further on. -/
def shifted
    (distance : Nat) :
    Mode → Mode
  | idle => idle
  | operator start text => operator (distance + start) text
  | quotation quote start text escaping => quotation quote (distance + start) text escaping
  | word start text escaping => word (distance + start) text escaping

/-- A step of the lexer, made further on. -/
def shiftedStep
    (distance : Nat)
    (step : List (Located Lexeme) × Mode) : List (Located Lexeme) × Mode :=
  (step.1.map (Located.shifted distance), step.2.shifted distance)

variable (distance : Nat)

theorem begin_shifted
    (offset : Nat)
    (c : Char) :
    begin (distance + offset) c = shiftedStep distance (begin offset c) := by
  unfold begin
  dsimp only
  rw [Nat.add_assoc]
  split
  · rfl
  · split
    · rfl
    · split
      · rfl
      · split
        · rfl
        · split <;> rfl

/-- A backslash that ends the text is left out wherever the text stands, because there
is something in front of it. -/
theorem ended_shifted
    {mode : Mode}
    {last offset : Nat}
    (behind : mode.Behind last offset) :
    (mode.shifted distance).ended (distance + offset) =
      (mode.ended offset).map (Located.shifted distance) := by
  cases mode with
  | idle =>
      rfl
  | operator start text =>
      rfl
  | quotation quote start text escaping =>
      cases escaping with
      | false =>
          rfl
      | true =>
          have nonempty : start < offset - 1 := behind.2
          have same : distance + offset - 1 = distance + (offset - 1) := by omega
          simp [shifted, ended, Located.shifted, Span.shifted, same]
  | word start text escaping =>
      cases escaping with
      | false =>
          rfl
      | true =>
          by_cases nothing : text = ""
          · simp [shifted, ended, nothing]
          · have nonempty : start < offset - 1 := by
              simpa [Behind, nothing] using behind.2
            have same : distance + offset - 1 = distance + (offset - 1) := by omega
            simp [shifted, ended, nothing, Located.shifted, Span.shifted, same]

theorem restart_shifted
    {mode : Mode}
    {last offset : Nat}
    (behind : mode.Behind last offset)
    (c : Char) :
    (mode.shifted distance).restart (distance + offset) c =
      shiftedStep distance (mode.restart offset c) := by
  simp only [restart, begin_shifted, ended_shifted distance behind, shiftedStep, List.map_append]

theorem read_shifted
    {mode : Mode}
    {last offset : Nat}
    (behind : mode.Behind last offset)
    (c : Char) :
    (mode.shifted distance).read (distance + offset) c =
      shiftedStep distance (mode.read offset c) := by
  have restarted := restart_shifted distance behind c
  cases mode with
  | idle =>
      exact begin_shifted distance offset c
  | operator start text =>
      simp only [shifted, read] at restarted ⊢
      split
      · rfl
      · exact restarted
  | quotation quote start text escaping =>
      cases escaping with
      | true =>
          rfl
      | false =>
          simp only [shifted, read]
          split
          · rfl
          · split
            · simp [shiftedStep, Located.shifted, Span.shifted, shifted, Nat.add_assoc]
            · rfl
  | word start text escaping =>
      cases escaping with
      | true =>
          rfl
      | false =>
          simp only [shifted, read] at restarted ⊢
          split
          · rfl
          · split
            · exact restarted
            · rfl

theorem readAll_shifted
    {mode : Mode}
    {last offset : Nat}
    (behind : mode.Behind last offset)
    (chars : List Char) :
    (mode.shifted distance).readAll (distance + offset) chars =
      (mode.readAll offset chars).map (Located.shifted distance) := by
  induction chars generalizing mode last offset with
  | nil =>
      exact ended_shifted distance behind
  | cons c rest inductionHypothesis =>
      obtain ⟨middle, _, goesOn⟩ := read_readsOn behind c
      have later := inductionHypothesis goesOn
      simp only [readAll, read_shifted distance behind, shiftedStep, List.map_append,
        Nat.add_assoc, later]

/-- A text is read behind others as it is by itself. -/
theorem readAll_further
    (text : String) :
    idle.readAll distance text.toList =
      (lexemes text).map (Located.shifted distance) := by
  have atStart : idle.Behind 0 0 := Nat.le_refl 0
  exact readAll_shifted distance atStart text.toList

end Lexeme.Mode

namespace Token

mutual

/-- A token that stands further on, with all that is in it. -/
def shifted
    (distance : Nat) :
    Token → Token
  | name text span => name text (span.shifted distance)
  | quotation quote text span => quotation quote text (span.shifted distance)
  | number value span => number value (span.shifted distance)
  | operator text span => operator text (span.shifted distance)
  | block bracket tokens span =>
      block bracket (allShifted distance tokens) (span.shifted distance)
  | separator span => separator (span.shifted distance)

/-- Tokens that stand further on. -/
def allShifted
    (distance : Nat) :
    List Token → List Token
  | [] => []
  | token :: rest => token.shifted distance :: allShifted distance rest

end

variable (distance : Nat)

theorem allShifted_eq_map
    (tokens : List Token) :
    allShifted distance tokens = tokens.map (shifted distance) := by
  induction tokens with
  | nil =>
      rfl
  | cons token rest inductionHypothesis =>
      rw [allShifted, inductionHypothesis, List.map_cons]

@[simp]
theorem shifted_block
    (bracket : Bracket)
    (tokens : List Token)
    (span : Span) :
    (block bracket tokens span).shifted distance =
      block bracket (tokens.map (shifted distance)) (span.shifted distance) := by
  rw [shifted, allShifted_eq_map]

@[simp]
theorem span_shifted
    (token : Token) :
    (token.shifted distance).span = token.span.shifted distance := by
  cases token <;> rfl

theorem ofWord_shifted
    (word : String)
    (span : Span) :
    ofWord word (span.shifted distance) = (ofWord word span).map (shifted distance) := by
  unfold ofWord
  dsimp only
  split
  · rfl
  · split <;> rfl

end Token

/-- A block that was opened further on. -/
def OpenBlock.shifted
    (distance : Nat)
    (innermost : OpenBlock) : OpenBlock where
  bracket := innermost.bracket
  start := distance + innermost.start
  before := innermost.before.map (Token.shifted distance)

namespace Nesting

/-- The sequences under way, all of them further on. -/
def shifted
    (distance : Nat)
    (nesting : Nesting) : Nesting where
  opened := nesting.opened.map (OpenBlock.shifted distance)
  tokens := nesting.tokens.map (Token.shifted distance)

variable (distance : Nat)

theorem closed_shifted
    (innermost : OpenBlock)
    (tokens : List Token)
    (stop : Nat) :
    (innermost.shifted distance).closed (tokens.map (Token.shifted distance))
        (distance + stop) =
      (innermost.closed tokens stop).map (Token.shifted distance) := by
  simp [OpenBlock.closed, OpenBlock.shifted, Span.shifted]

theorem push_shifted
    (nesting : Nesting)
    (tokens : List Token) :
    (nesting.shifted distance).push (tokens.map (Token.shifted distance)) =
      (nesting.push tokens).shifted distance := by
  simp [push, shifted]

theorem closeBlock_shifted
    (nesting : Nesting)
    (bracket : Bracket)
    (span : Span) :
    (nesting.shifted distance).closeBlock bracket (span.shifted distance) =
      (nesting.closeBlock bracket span).shifted distance := by
  have stray :=
    push_shifted distance nesting [.name (String.singleton bracket.closing) span]
  obtain ⟨opened, tokens⟩ := nesting
  cases opened with
  | nil =>
      exact stray
  | cons innermost outer =>
      have closes := closed_shifted distance innermost tokens span.stop
      simp only [closeBlock, shifted, List.map_cons, OpenBlock.shifted] at stray closes ⊢
      split
      · simpa [Span.shifted] using closes
      · exact stray

/-- A lexeme further on completes the same sequence and leaves the same under way. -/
theorem take_shifted
    (nesting : Nesting)
    (located : Located Lexeme) :
    (nesting.shifted distance).take (located.shifted distance) =
      ((nesting.take located).1.map (List.map (Token.shifted distance)),
        (nesting.take located).2.shifted distance) := by
  obtain ⟨lexeme, span⟩ := located
  have pushed :
      ∀ token : Token,
        (nesting.shifted distance).push [token.shifted distance] =
          (nesting.push [token]).shifted distance :=
    fun token => push_shifted distance nesting [token]
  cases lexeme with
  | opening bracket =>
      rfl
  | closing bracket =>
      simp only [take, Located.shifted, closeBlock_shifted, Option.map_none]
  | comma =>
      obtain ⟨opened, tokens⟩ := nesting
      cases opened with
      | nil =>
          rfl
      | cons innermost outer =>
          exact congrArg (Prod.mk none) (pushed (.separator span))
  | operator text =>
      exact congrArg (Prod.mk none) (pushed (.operator text span))
  | quotation quote text =>
      exact congrArg (Prod.mk none) (pushed (.quotation quote text span))
  | word text =>
      simp only [take, Located.shifted, Token.ofWord_shifted, push_shifted, Option.map_none]

theorem closeAll_shifted
    (stop : Nat)
    (tokens : List Token)
    (opened : List OpenBlock) :
    closeAll (distance + stop) (tokens.map (Token.shifted distance))
        (opened.map (OpenBlock.shifted distance)) =
      (closeAll stop tokens opened).map (Token.shifted distance) := by
  induction opened generalizing tokens with
  | nil =>
      rfl
  | cons innermost outer inductionHypothesis =>
      rw [List.map_cons, closeAll, closed_shifted, inductionHypothesis, closeAll]

/-- Lexemes further on make up the same sequences, further on. -/
theorem sequences_shifted
    (nesting : Nesting)
    (stop : Nat)
    (lexemes : List (Located Lexeme)) :
    (nesting.shifted distance).sequences (distance + stop)
        (lexemes.map (Located.shifted distance)) =
      (nesting.sequences stop lexemes).map (List.map (Token.shifted distance)) := by
  induction lexemes generalizing nesting stop with
  | nil =>
      simp only [List.map_nil, sequences, List.map_cons]
      exact congrArg (fun closed => [closed])
        (closeAll_shifted distance stop nesting.tokens nesting.opened)
  | cons located rest inductionHypothesis =>
      have later := inductionHypothesis (nesting.take located).2 located.span.stop
      simp only [List.map_cons, sequences, take_shifted, List.map_append]
      rw [← later]
      congr 1
      cases (nesting.take located).1 <;> rfl

end Nesting

end DataBinding
