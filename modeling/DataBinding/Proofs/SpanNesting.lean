import DataBinding.Proofs.LexemeSteps
import DataBinding.Proofs.TextSlice
import DataBinding.Proofs.TokenForest
import DataBinding.Proofs.TokenPlaces

namespace DataBinding

/-!
# Spans that nest

The lexer moves from one character to the next, so a lexeme begins and ends between
characters, and so does a token at any depth, for it begins where a lexeme begins and
ends where one ends.  With the order of the tokens this places the instructions of a
source one behind the other, each at a span that can be sliced.
-/

namespace Span

/-- Whether a span begins and ends between characters. -/
structure OnBoundaries
    (chars : List Char)
    (span : Span) : Prop where
  begins : Text.IsBoundary chars span.start
  ends : Text.IsBoundary chars span.stop

theorem OnBoundaries.append
    {chars : List Char}
    {span : Span}
    (onBoundaries : span.OnBoundaries chars)
    (more : List Char) :
    span.OnBoundaries (chars ++ more) :=
  ⟨onBoundaries.begins.append more, onBoundaries.ends.append more⟩

/-- Spans in order of which the first ones are taken together as one span. -/
theorem InOrder.join
    {start stop : Nat}
    {spans others : List Span}
    (inOrder : InOrder start stop (spans ++ others))
    {first last : Span}
    (isFirst : spans.head? = some first)
    (isLast : spans.getLast? = some last) :
    InOrder start stop (⟨first.start, last.stop⟩ :: others) := by
  induction spans generalizing start first with
  | nil =>
      cases isFirst
  | cons span rest inductionHypothesis =>
      cases isFirst
      obtain ⟨begins, nonempty, goesOn⟩ := inOrder
      cases rest with
      | nil =>
          cases isLast
          exact ⟨begins, nonempty, goesOn⟩
      | cons next rest =>
          rw [List.getLast?_cons_cons] at isLast
          obtain ⟨nextBegins, nextNonempty, behind⟩ := inductionHypothesis goesOn rfl isLast
          exact ⟨begins, nonempty.trans (nextBegins.trans_lt nextNonempty), behind⟩

end Span

/-!
## Lexemes between characters
-/

namespace Lexeme.Mode

/-- Whether the lexeme under way behind characters began between two of them, and so did
the backslash at their end if it escapes what follows. -/
def BeganOnBoundary (before : List Char) : Mode → Prop
  | idle => True
  | operator start _ => Text.IsBoundary before start
  | quotation _ start _ escaping =>
      Text.IsBoundary before start ∧
        (escaping = true → Text.IsBoundary before (Text.byteLength before - 1))
  | word start _ escaping =>
      Text.IsBoundary before start ∧
        (escaping = true → Text.IsBoundary before (Text.byteLength before - 1))

/-- Whether a step that reads up to some characters gives lexemes between them, and so
begins the one that it leaves under way. -/
structure StaysOnBoundaries
    (before : List Char)
    (step : List (Located Lexeme) × Mode) : Prop where
  complete : ∀ located ∈ step.1, located.span.OnBoundaries before
  underWay : step.2.BeganOnBoundary before

section Steps

variable
  {mode : Mode}
  {before : List Char}

theorem StaysOnBoundaries.nothing
    (began : mode.BeganOnBoundary before) :
    StaysOnBoundaries before ([], mode) :=
  ⟨fun _ member => absurd member List.not_mem_nil, began⟩

theorem StaysOnBoundaries.single
    {located : Located Lexeme}
    (onBoundaries : located.span.OnBoundaries before) :
    StaysOnBoundaries before ([located], idle) := by
  refine ⟨fun other member => ?_, trivial⟩
  rw [List.mem_singleton.mp member]
  exact onBoundaries

/-- The lexeme under way ends between characters, also in front of a backslash that is left
out. -/
theorem BeganOnBoundary.ended
    (began : mode.BeganOnBoundary before)
    {located : Located Lexeme}
    (member : located ∈ mode.ended (Text.byteLength before)) :
    located.span.OnBoundaries before := by
  have atEnd := Text.IsBoundary.atEnd before
  cases mode with
  | idle =>
      cases member
  | operator start text =>
      rw [List.mem_singleton.mp member]
      exact ⟨began, atEnd⟩
  | quotation quote start text escaping =>
      rw [List.mem_singleton.mp member]
      cases escaping with
      | true =>
          exact ⟨began.1, began.2 rfl⟩
      | false =>
          exact ⟨began.1, atEnd⟩
  | word start text escaping =>
      cases escaping with
      | true =>
          simp only [Mode.ended, ↓reduceIte] at member
          split at member
          · cases member
          · rw [List.mem_singleton.mp member]
            exact ⟨began.1, began.2 rfl⟩
      | false =>
          rw [List.mem_singleton.mp member]
          exact ⟨began.1, atEnd⟩

theorem boundary_concat
    (before : List Char)
    (c : Char) :
    Text.IsBoundary (before ++ [c]) (Text.byteLength before + c.utf8Size) := by
  have atEnd := Text.IsBoundary.atEnd (before ++ [c])
  rwa [Text.byteLength_append] at atEnd

/-- A backslash is one byte long. -/
theorem boundary_backslash (before : List Char) :
    Text.IsBoundary (before ++ ['\\']) (Text.byteLength (before ++ ['\\']) - 1) := by
  have size : Text.byteLength ['\\'] = 1 := by decide
  rw [Text.byteLength_append, size, Nat.add_sub_cancel]
  exact (Text.IsBoundary.atEnd before).append _

theorem begin_staysOnBoundaries
    (before : List Char)
    (c : Char) :
    StaysOnBoundaries (before ++ [c]) (begin (Text.byteLength before) c) := by
  have begins := (Text.IsBoundary.atEnd before).append [c]
  have ends := boundary_concat before c
  have begun := begins_begin (Text.byteLength before) c
  generalize begin (Text.byteLength before) c = step at begun ⊢
  cases begun with
  | gap =>
      exact .nothing trivial
  | operator =>
      exact .nothing begins
  | comma | opening | closing =>
      exact .single ⟨begins, ends⟩
  | quotation | word =>
      exact .nothing ⟨begins, fun escaping => nomatch escaping⟩
  | escape isBackslash =>
      subst isBackslash
      exact .nothing ⟨begins, fun _ => boundary_backslash before⟩

/-- One character keeps the lexemes between characters. -/
theorem read_staysOnBoundaries
    (began : mode.BeganOnBoundary before)
    (c : Char) :
    StaysOnBoundaries (before ++ [c]) (mode.read (Text.byteLength before) c) := by
  have step := mode.reads_read (Text.byteLength before) c
  generalize mode.read (Text.byteLength before) c = step' at step ⊢
  cases step with
  | restart =>
      have begun := begin_staysOnBoundaries before c
      refine ⟨fun located member => ?_, begun.underWay⟩
      rcases List.mem_append.mp member with inEnded | inBegun
      · exact (began.ended inEnded).append [c]
      · exact begun.complete located inBegun
  | operator =>
      exact .nothing (Text.IsBoundary.append began [c])
  | quotation | word =>
      exact .nothing ⟨began.1.append [c], fun escaping => nomatch escaping⟩
  | quotationEscape isBackslash | wordEscape isBackslash =>
      subst isBackslash
      exact .nothing ⟨began.1.append _, fun _ => boundary_backslash before⟩
  | quotationEnd =>
      exact .single ⟨began.1.append [c], boundary_concat before c⟩

/-- All that is read to the end of the source stands between characters. -/
theorem onBoundaries_readAll
    (began : mode.BeganOnBoundary before)
    (chars : List Char) :
    ∀ located ∈ mode.readAll (Text.byteLength before) chars,
      located.span.OnBoundaries (before ++ chars) := by
  induction chars generalizing mode before with
  | nil =>
      intro located member
      rw [List.append_nil]
      exact began.ended member
  | cons c rest inductionHypothesis =>
      intro located member
      have step := read_staysOnBoundaries began c
      have later := inductionHypothesis step.underWay
      rw [Text.byteLength_append] at later
      rw [List.append_cons]
      rcases List.mem_append.mp member with complete | inRest
      · exact (step.complete located complete).append rest
      · exact later located inRest

end Steps

end Lexeme.Mode

/-- The lexemes of a source begin and end between characters. -/
theorem onBoundaries_lexemes
    (source : String) :
    ∀ located ∈ lexemes source, located.span.OnBoundaries source.toList := by
  have atStart : Lexeme.Mode.idle.BeganOnBoundary [] := trivial
  exact Lexeme.Mode.onBoundaries_readAll atStart source.toList

/-!
## Tokens between lexemes
-/

/-- Whether a token is another or is inside it, at whatever depth. -/
inductive Token.Holds : Token → Token → Prop where
  | itself
      {token : Token} :
      Holds token token
  | inside
      {bracket : Bracket}
      {tokens : List Token}
      {span : Span}
      {outer part : Token} :
      outer ∈ tokens →
      Holds outer part →
      Holds (block bracket tokens span) part

namespace Lexeme

/-- Whether a span begins where one of some lexemes begins and ends where one ends. -/
structure Bound
    (lexemes : List (Located Lexeme))
    (span : Span) : Prop where
  begins : ∃ first ∈ lexemes, first.span.start = span.start
  ends : ∃ last ∈ lexemes, last.span.stop = span.stop

theorem Bound.subset
    {lexemes others : List (Located Lexeme)}
    {span : Span}
    (bound : Bound lexemes span)
    (subset : lexemes ⊆ others) :
    Bound others span := by
  obtain ⟨⟨first, firstMember, begins⟩, ⟨last, lastMember, ends⟩⟩ := bound
  exact ⟨⟨first, subset firstMember, begins⟩, ⟨last, subset lastMember, ends⟩⟩

/-- Whether tokens, at every depth, begin and end with lexemes. -/
def BoundAll
    (lexemes : List (Located Lexeme))
    (tokens : List Token) : Prop :=
  ∀ token ∈ tokens, ∀ part, token.Holds part → Bound lexemes part.span

namespace BoundAll

variable
  {lexemes others : List (Located Lexeme)}
  {tokens more : List Token}

theorem subset
    (bound : BoundAll lexemes tokens)
    (subset : lexemes ⊆ others) :
    BoundAll others tokens :=
  fun token member part holds => (bound token member part holds).subset subset

theorem append
    (first : BoundAll lexemes tokens)
    (second : BoundAll lexemes more) :
    BoundAll lexemes (tokens ++ more) := by
  intro token member
  rcases List.mem_append.mp member with inFirst | inSecond
  · exact first token inFirst
  · exact second token inSecond

/-- A block with bound tokens is bound if its own span is. -/
theorem block
    {bracket : Bracket}
    {span : Span}
    (inside : BoundAll lexemes tokens)
    (bound : Bound lexemes span) :
    BoundAll lexemes [.block bracket tokens span] := by
  intro token member part holds
  rw [List.mem_singleton.mp member] at holds
  cases holds with
  | itself =>
      exact bound
  | inside member holds =>
      exact inside _ member part holds

end BoundAll

theorem Yields.bound
    {innermost? : Option Bracket}
    {located : Located Lexeme}
    {tokens : List Token}
    (yields : Yields innermost? located tokens) :
    BoundAll [located] tokens := by
  intro token member part holds
  cases yields with
  | blank =>
      cases member
  | operator | quotation | number | name | stray | separator =>
      rw [List.mem_singleton.mp member] at holds
      cases holds
      exact ⟨⟨_, List.mem_singleton_self _, rfl⟩, ⟨_, List.mem_singleton_self _, rfl⟩⟩

theorem Form.bound
    {innermost? : Option Bracket}
    {lexemes : List (Located Lexeme)}
    {tokens : List Token}
    (form : Form innermost? lexemes tokens) :
    BoundAll lexemes tokens := by
  induction form with
  | nothing =>
      exact fun _ member => absurd member List.not_mem_nil
  | single yields _ inductionHypothesis =>
      exact (yields.bound.subset (by simp)).append
        (inductionHypothesis.subset (List.subset_cons_self _ _))
  | @block _ bracket opening closing inside lexemes held _ _ _ insideHypothesis restHypothesis =>
      have blockBound :
          BoundAll
            (⟨.opening bracket, opening⟩ :: (inside ++ ⟨.closing bracket, closing⟩ :: lexemes))
            [.block bracket held ⟨opening.start, closing.stop⟩] := by
        refine .block (insideHypothesis.subset fun _ member => by simp [member]) ⟨?_, ?_⟩
        · exact ⟨⟨.opening bracket, opening⟩, by simp, rfl⟩
        · exact ⟨⟨.closing bracket, closing⟩, by simp, rfl⟩
      exact blockBound.append (restHypothesis.subset fun _ member => by simp [member])

/-- The end of lexemes that follow another is the end of one of them all. -/
theorem exists_stop_eq_endOf
    (located : Located Lexeme)
    (rest : List (Located Lexeme)) :
    ∃ last ∈ located :: rest, last.span.stop = endOf located.span.stop rest := by
  induction rest generalizing located with
  | nil =>
      exact ⟨located, List.mem_cons_self, rfl⟩
  | cons next rest inductionHypothesis =>
      obtain ⟨last, member, ends⟩ := inductionHypothesis next
      exact ⟨last, List.mem_cons_of_mem located member, by rw [ends, endOf_cons]⟩

theorem FormLast.bound
    {innermost? : Option Bracket}
    {lexemes : List (Located Lexeme)}
    {tokens : List Token}
    (form : FormLast innermost? lexemes tokens) :
    BoundAll lexemes tokens := by
  induction form with
  | closed form =>
      exact form.bound
  | @leftOpen _ bracket opening lexemes inside _ _ form _ inductionHypothesis =>
      obtain ⟨last, member, ends⟩ :=
        exists_stop_eq_endOf ⟨.opening bracket, opening⟩ inside
      refine (form.bound.subset (List.subset_append_left _ _)).append
        (.block (inductionHypothesis.subset fun _ member => by simp [member]) ⟨?_, ?_⟩)
      · exact ⟨⟨.opening bracket, opening⟩, by simp, rfl⟩
      · exact ⟨last, List.mem_append_right _ member, ends⟩

theorem FormSequences.bound
    {lexemes : List (Located Lexeme)}
    {sequences : List (List Token)}
    (form : FormSequences lexemes sequences)
    {tokens : List Token}
    (member : tokens ∈ sequences) :
    BoundAll lexemes tokens := by
  induction form with
  | last form =>
      rw [List.mem_singleton.mp member]
      exact form.bound
  | comma form _ inductionHypothesis =>
      rcases List.mem_cons.mp member with isFirst | inRest
      · rw [isFirst]
        exact form.bound.subset (List.subset_append_left _ _)
      · exact (inductionHypothesis inRest).subset (by simp)

end Lexeme

/-- The tokens of a source, at every depth, begin and end between characters. -/
theorem onBoundaries_of_mem_sequences
    {source : String}
    {tokens : List Token}
    (member : tokens ∈ Nesting.start.sequences 0 (lexemes source)) :
    ∀ token ∈ tokens, ∀ part, token.Holds part → part.span.OnBoundaries source.toList := by
  intro token inTokens part holds
  have form := Nesting.formSequences_sequences Nesting.isFormedBy_start 0 (lexemes source)
  obtain ⟨⟨first, firstMember, begins⟩, ⟨last, lastMember, ends⟩⟩ :=
    form.bound member token inTokens part holds
  exact ⟨begins ▸ (onBoundaries_lexemes source first firstMember).begins,
    ends ▸ (onBoundaries_lexemes source last lastMember).ends⟩

/-!
## Instructions in order
-/

namespace Instruction

/-- Whether an instruction reaches from the first of its tokens to the last. -/
def ReachesOverTokens (instruction : Instruction) : Prop :=
  ∃ first last,
    instruction.tokens.head? = some first ∧
      instruction.tokens.getLast? = some last ∧
      instruction.span = ⟨first.span.start, last.span.stop⟩

theorem reachesOverTokens_of_ofTokens?
    {source : String}
    {tokens : List Token}
    {instruction : Instruction}
    (made : ofTokens? source tokens = some instruction) :
    instruction.ReachesOverTokens := by
  unfold ofTokens? at made
  split at made
  · rename_i first last isFirst isLast
    cases made
    exact ⟨first, last, isFirst, isLast, rfl⟩
  · cases made

theorem ofTokens?_eq_none
    {source : String}
    {tokens : List Token}
    (none : ofTokens? source tokens = none) :
    tokens = [] := by
  cases tokens with
  | nil =>
      rfl
  | cons first rest =>
      simp [ofTokens?, List.getLast?_cons] at none

/-- Sequences whose tokens all stand in order make up instructions that do so. -/
theorem inOrder_filterMap_ofTokens?
    (source : String)
    {start stop : Nat}
    {sequences : List (List Token)}
    (inOrder : Span.InOrder start stop (sequences.flatten.map Token.span)) :
    Span.InOrder start stop ((sequences.filterMap (ofTokens? source)).map span) := by
  induction sequences generalizing start with
  | nil =>
      exact inOrder
  | cons tokens rest inductionHypothesis =>
      rw [List.flatten_cons, List.map_append] at inOrder
      cases made : ofTokens? source tokens with
      | none =>
          rw [List.filterMap_cons_none made]
          rw [ofTokens?_eq_none made] at inOrder
          exact inductionHypothesis inOrder
      | some instruction =>
          obtain ⟨rfl, -⟩ := ofTokens?_eq_some made
          obtain ⟨first, last, isFirst, isLast, reaches⟩ := reachesOverTokens_of_ofTokens? made
          obtain ⟨begins, nonempty, behind⟩ :=
            inOrder.join (by rw [List.head?_map, isFirst, Option.map_some])
              (by rw [List.getLast?_map, isLast, Option.map_some])
          rw [List.filterMap_cons_some made, List.map_cons, reaches]
          exact ⟨begins, nonempty, inductionHypothesis behind⟩

end Instruction

theorem inOrder_instructions
    (source : String) :
    Span.InOrder 0 source.utf8ByteSize ((instructions source).map Instruction.span) :=
  Instruction.inOrder_filterMap_ofTokens? source (placed_tokens source).inOrder

theorem reachesOverTokens_of_mem_instructions
    {source : String}
    {instruction : Instruction}
    (member : instruction ∈ instructions source) :
    instruction.ReachesOverTokens := by
  obtain ⟨tokens, -, made⟩ := List.mem_filterMap.mp member
  exact Instruction.reachesOverTokens_of_ofTokens? made

theorem onBoundaries_of_mem_instructions
    {source : String}
    {instruction : Instruction}
    (member : instruction ∈ instructions source) :
    instruction.span.OnBoundaries source.toList := by
  obtain ⟨first, last, isFirst, isLast, reaches⟩ := reachesOverTokens_of_mem_instructions member
  have onBoundaries := onBoundaries_of_mem_sequences (mem_instructions member).1
  rw [reaches]
  exact ⟨(onBoundaries first (List.mem_of_head? isFirst) first .itself).begins,
    (onBoundaries last (List.mem_of_getLast? isLast) last .itself).ends⟩

theorem isPart_of_mem_instructions
    {source : String}
    {instruction : Instruction}
    (member : instruction ∈ instructions source) :
    Text.IsPart source instruction.span instruction.source := by
  have onBoundaries := onBoundaries_of_mem_instructions member
  have ordered := ((inOrder_instructions source).within_of_mem (List.mem_map_of_mem member)).ordered
  rw [(liesIn_of_mem_instructions member).text]
  exact Text.isPart_slice onBoundaries.begins onBoundaries.ends ordered

/--
Spans are well nested.  The instructions of a source stand in it one behind the other, and
none is empty.  Each reaches from its first token to its last, its tokens stand in order at
every depth, and its text is what stands at its span.
-/
theorem spans_wellNested
    (source : String) :
    Span.InOrder 0 source.utf8ByteSize ((instructions source).map Instruction.span) ∧
      ∀ instruction ∈ instructions source,
        instruction.ReachesOverTokens ∧
          Token.Placed instruction.span.start instruction.span.stop instruction.tokens ∧
          Text.IsPart source instruction.span instruction.source :=
  ⟨inOrder_instructions source, fun _ member =>
    ⟨reachesOverTokens_of_mem_instructions member, (liesIn_of_mem_instructions member).placed,
      isPart_of_mem_instructions member⟩⟩

/-- Blocks that are left open end with the last lexeme, in front of blanks and a backslash. -/
example :
    (instructions ", é (b [ü  \\").map (fun instruction =>
        (instruction.span, instruction.tokens.map Token.span, instruction.source)) =
      [(⟨2, 11⟩, [⟨2, 4⟩, ⟨5, 11⟩], "é (b [ü")] :=
  rfl

end DataBinding
