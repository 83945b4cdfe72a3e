import DataBinding.Instruction.Basic
import DataBinding.Proofs.LexemeOrder

namespace DataBinding

/-!
# The places of tokens

The tokens of a sequence stand in order, and those of a block stand in order inside
the block, behind its bracket.  Lexemes come in order, and the stack of open blocks
keeps the order of every sequence that is under way.  So an instruction reaches from
the first of its tokens to the last, and holds all of them at every depth.
-/

namespace Token

/-- Whether at every depth the tokens of a block stand in order behind its opening
bracket and not past its end. -/
inductive Nested : Token → Prop where
  | name
      {text : String}
      {span : Span} :
      Nested (name text span)
  | quotation
      {quote : Quote}
      {text : String}
      {span : Span} :
      Nested (quotation quote text span)
  | number
      {value : Number}
      {span : Span} :
      Nested (number value span)
  | operator
      {text : String}
      {span : Span} :
      Nested (operator text span)
  | block
      {bracket : Bracket}
      {tokens : List Token}
      {span : Span} :
      Span.InOrder (span.start + 1) span.stop (tokens.map Token.span) →
      (∀ token ∈ tokens, Nested token) →
      Nested (block bracket tokens span)
  | separator
      {span : Span} :
      Nested (separator span)

/-- Tokens that stand in order between two offsets, at every depth. -/
structure Placed
    (start stop : Nat)
    (tokens : List Token) : Prop where
  inOrder : Span.InOrder start stop (tokens.map Token.span)
  nested : ∀ token ∈ tokens, token.Nested

namespace Placed

theorem nothing
    {start stop : Nat}
    (le : start ≤ stop) :
    Placed start stop [] :=
  ⟨le, fun _ member => absurd member List.not_mem_nil⟩

theorem single
    {start stop : Nat}
    {token : Token}
    (nested : token.Nested)
    (begins : start ≤ token.span.start)
    (nonempty : token.span.start < token.span.stop)
    (ends : token.span.stop ≤ stop) :
    Placed start stop [token] := by
  refine ⟨⟨begins, nonempty, ends⟩, fun other member => ?_⟩
  rw [List.mem_singleton.mp member]
  exact nested

theorem weaken
    {start stop earlier later : Nat}
    {tokens : List Token}
    (placed : Placed start stop tokens)
    (isEarlier : earlier ≤ start)
    (isLater : stop ≤ later) :
    Placed earlier later tokens :=
  ⟨placed.inOrder.weaken isEarlier isLater, placed.nested⟩

theorem append
    {start middle stop : Nat}
    {tokens others : List Token}
    (first : Placed start middle tokens)
    (second : Placed middle stop others) :
    Placed start stop (tokens ++ others) := by
  refine ⟨?_, fun token member => ?_⟩
  · rw [List.map_append]
    exact first.inOrder.append second.inOrder
  · rcases List.mem_append.mp member with inFirst | inSecond
    · exact first.nested token inFirst
    · exact second.nested token inSecond

section Parts

variable
  {start stop : Nat}
  {tokens others : List Token}

theorem le
    (placed : Placed start stop tokens) :
    start ≤ stop :=
  placed.inOrder.le

theorem sublist
    (placed : Placed start stop tokens)
    (left : others.Sublist tokens) :
    Placed start stop others :=
  ⟨placed.inOrder.sublist (left.map span), fun token member =>
    placed.nested token (left.subset member)⟩

theorem tail
    {token : Token}
    (placed : Placed start stop (token :: tokens)) :
    Placed start stop tokens :=
  placed.sublist (List.sublist_cons_self token tokens)

theorem within_of_mem
    (placed : Placed start stop tokens)
    {token : Token}
    (member : token ∈ tokens) :
    token.span.Within start stop :=
  placed.inOrder.within_of_mem (List.mem_map_of_mem member)

theorem head_within
    {token : Token}
    (placed : Placed start stop (token :: tokens)) :
    token.span.Within start stop :=
  placed.within_of_mem List.mem_cons_self

/-- The tokens of a block lie behind its opening bracket. -/
theorem inside
    {bracket : Bracket}
    {span : Span}
    (placed : Placed start stop tokens)
    (member : block bracket others span ∈ tokens) :
    Placed (span.start + 1) span.stop others := by
  cases placed.nested _ member with
  | block inOrder nested =>
      exact ⟨inOrder, nested⟩

end Parts

end Placed

/-- A word gives tokens in its place. -/
theorem placed_ofWord
    (word : String)
    {start stop : Nat}
    {span : Span}
    (begins : start ≤ span.start)
    (nonempty : span.start < span.stop)
    (ends : span.stop ≤ stop) :
    Placed start stop (ofWord word span) := by
  unfold ofWord
  dsimp only
  split
  · exact .nothing (by omega)
  · split
    · exact .single .number begins nonempty ends
    · exact .single .name begins nonempty ends

end Token

namespace Nesting

/-- Whether the sequence under way and the sequences around it stand in order up to an
offset, each behind the bracket that opened it. -/
def InPlace
    (start last : Nat) :
    List Token → List OpenBlock → Prop
  | tokens, [] => Token.Placed start last tokens
  | tokens, innermost :: outer =>
      Token.Placed (innermost.start + 1) last tokens ∧
        InPlace start innermost.start innermost.before outer

namespace InPlace

variable
  {start last stop : Nat}
  {tokens : List Token}
  {opened : List OpenBlock}

theorem weaken
    (inPlace : InPlace start last tokens opened)
    (le : last ≤ stop) :
    InPlace start stop tokens opened := by
  cases opened with
  | nil =>
      exact inPlace.weaken (Nat.le_refl start) le
  | cons innermost outer =>
      exact ⟨inPlace.1.weaken (Nat.le_refl _) le, inPlace.2⟩

theorem append
    (inPlace : InPlace start last tokens opened)
    {added : List Token}
    (placed : Token.Placed last stop added) :
    InPlace start stop (tokens ++ added) opened := by
  cases opened with
  | nil =>
      exact Token.Placed.append inPlace placed
  | cons innermost outer =>
      exact ⟨inPlace.1.append placed, inPlace.2⟩

theorem openBlock
    (inPlace : InPlace start last tokens opened)
    (bracket : Bracket)
    {span : Span}
    (begins : last ≤ span.start)
    (nonempty : span.start < span.stop) :
    InPlace start span.stop [] (⟨bracket, span.start, tokens⟩ :: opened) :=
  ⟨.nothing nonempty, inPlace.weaken begins⟩

/-- A block that closes holds the sequence under way. -/
theorem closed
    {innermost : OpenBlock}
    {outer : List OpenBlock}
    (inPlace : InPlace start last tokens (innermost :: outer))
    (le : last ≤ stop) :
    InPlace start stop (innermost.closed tokens stop) outer := by
  obtain ⟨inside, around⟩ := inPlace
  have begins := inside.inOrder.le
  refine around.append (.single ?_ (Nat.le_refl _) (by simpa [Token.span] using by omega)
    (Nat.le_refl _))
  exact .block (inside.inOrder.weaken (Nat.le_refl _) le) inside.nested

theorem closeAll
    (inPlace : InPlace start last tokens opened)
    (le : last ≤ stop) :
    Token.Placed start stop (Nesting.closeAll stop tokens opened) := by
  induction opened generalizing tokens last with
  | nil =>
      exact Token.Placed.weaken inPlace (Nat.le_refl start) le
  | cons innermost outer inductionHypothesis =>
      exact inductionHypothesis (inPlace.closed le) (Nat.le_refl stop)

end InPlace

/-- One lexeme keeps all sequences in place, and one that it completes stands in front
of the next. -/
theorem inPlace_take
    {start last : Nat}
    {nesting : Nesting}
    (inPlace : InPlace start last nesting.tokens nesting.opened)
    {located : Located Lexeme}
    (begins : last ≤ located.span.start)
    (nonempty : located.span.start < located.span.stop) :
    ∃ middle,
      Token.Placed start middle (nesting.take located).1.toList.flatten ∧
        InPlace middle located.span.stop (nesting.take located).2.tokens
          (nesting.take located).2.opened := by
  obtain ⟨opened, tokens⟩ := nesting
  obtain ⟨lexeme, span⟩ := located
  have goesOn :
      ∀ next : Nesting, InPlace start span.stop next.tokens next.opened →
        ∃ middle,
          Token.Placed start middle (none : Option (List Token)).toList.flatten ∧
            InPlace middle span.stop next.tokens next.opened :=
    fun _ kept => ⟨start, .nothing (Nat.le_refl start), kept⟩
  have reaches : last ≤ span.stop := Nat.le_trans begins (Nat.le_of_lt nonempty)
  have pushed :
      ∀ token : Token, token.Nested → token.span = span →
        InPlace start span.stop (tokens ++ [token]) opened := by
    intro token nested same
    exact inPlace.append
      (.single nested (same ▸ begins) (same ▸ nonempty) (same ▸ Nat.le_refl _))
  cases lexeme with
  | opening bracket =>
      exact goesOn _ (inPlace.openBlock bracket begins nonempty)
  | closing bracket =>
      refine goesOn _ ?_
      cases opened with
      | nil =>
          exact pushed _ .name rfl
      | cons innermost outer =>
          change InPlace start span.stop
            (Nesting.closeBlock ⟨innermost :: outer, tokens⟩ bracket span).tokens
            (Nesting.closeBlock ⟨innermost :: outer, tokens⟩ bracket span).opened
          unfold closeBlock
          dsimp only
          split
          · exact InPlace.closed inPlace reaches
          · exact pushed _ .name rfl
  | comma =>
      cases opened with
      | nil =>
          have complete : Token.Placed start span.stop (tokens ++ []) := by
            rw [List.append_nil]
            exact Token.Placed.weaken inPlace (Nat.le_refl start) reaches
          exact ⟨span.stop, complete, .nothing (Nat.le_refl _)⟩
      | cons innermost outer =>
          exact goesOn _ (pushed _ .separator rfl)
  | operator text =>
      exact goesOn _ (pushed _ .operator rfl)
  | quotation quote text =>
      exact goesOn _ (pushed _ .quotation rfl)
  | word text =>
      exact goesOn _
        (inPlace.append (Token.placed_ofWord text begins nonempty (Nat.le_refl span.stop)))

/-- The tokens of all sequences together stand in order. -/
theorem placed_sequences
    {start last stop : Nat}
    {nesting : Nesting}
    (inPlace : InPlace start last nesting.tokens nesting.opened)
    {lexemes : List (Located Lexeme)}
    (inOrder : Span.InOrder last stop (lexemes.map Located.span)) :
    Token.Placed start stop (nesting.sequences last lexemes).flatten := by
  induction lexemes generalizing start last nesting with
  | nil =>
      simp only [sequences, List.flatten_cons, List.flatten_nil, List.append_nil]
      exact (inPlace.closeAll (Nat.le_refl last)).weaken (Nat.le_refl start) inOrder
  | cons located rest inductionHypothesis =>
      obtain ⟨begins, nonempty, restInOrder⟩ := inOrder
      obtain ⟨middle, complete, underWay⟩ := inPlace_take inPlace begins nonempty
      have later := inductionHypothesis underWay restInOrder
      simp only [sequences, List.flatten_append]
      exact complete.append later

end Nesting

/-- The tokens of a source, outside all blocks and inside, stand in order in it. -/
theorem placed_tokens
    (source : String) :
    Token.Placed 0 source.utf8ByteSize
      (Nesting.start.sequences 0 (lexemes source)).flatten := by
  have atStart : Nesting.InPlace 0 0 Nesting.start.tokens Nesting.start.opened :=
    .nothing (Nat.le_refl 0)
  rw [← Text.byteLength_toList]
  exact Nesting.placed_sequences atStart (inOrder_lexemes source)

/-- Whether an instruction is a part of a source, with its tokens in it. -/
structure Instruction.LiesIn
    (source : String)
    (instruction : Instruction) : Prop where
  placed :
    Token.Placed instruction.span.start instruction.span.stop instruction.tokens
  ends :
    instruction.span.stop ≤ source.utf8ByteSize
  text :
    instruction.source = Text.slice source instruction.span

/-- Tokens in their places make up an instruction from the first to the last of them. -/
theorem Instruction.liesIn_of_ofTokens?
    {source : String}
    {tokens : List Token}
    (placed : Token.Placed 0 source.utf8ByteSize tokens)
    {instruction : Instruction}
    (made : ofTokens? source tokens = some instruction) :
    instruction.LiesIn source := by
  unfold ofTokens? at made
  split at made
  · rename_i first last isFirst isLast
    cases made
    have inOrder : Span.InOrder first.span.start last.span.stop (tokens.map Token.span) :=
      placed.inOrder.between_ends (by rw [List.head?_map, isFirst, Option.map_some])
        (by rw [List.getLast?_map, isLast, Option.map_some])
    have ends := (placed.within_of_mem (List.mem_of_getLast? isLast)).ends
    exact ⟨⟨inOrder, placed.nested⟩, ends, rfl⟩
  · cases made

theorem liesIn_of_mem_instructions
    {source : String}
    {instruction : Instruction}
    (member : instruction ∈ instructions source) :
    instruction.LiesIn source := by
  obtain ⟨tokens, among, made⟩ := List.mem_filterMap.mp member
  exact Instruction.liesIn_of_ofTokens?
    ((placed_tokens source).sublist (List.sublist_flatten_of_mem among)) made

end DataBinding
