import DataBinding.Proofs.TokenText

namespace DataBinding

/-!
# The lexemes behind a forest of tokens

Read in order, the trees of tokens give back the lexemes of their source.  What a lexeme
stands for depends on the innermost block that is open in front of it and on nothing
else.  So lexemes form tokens by a grammar that nests as the trees do, and the stack of
open blocks finds the one forest that the grammar allows.
-/

namespace Lexeme

/-- What a lexeme that neither opens nor closes a block yields, inside the innermost open
block or, if there is none, outside all blocks. -/
inductive Yields (innermost? : Option Bracket) : Located Lexeme → List Token → Prop where
  | operator
      {text : String}
      {span : Span} :
      Yields innermost? ⟨.operator text, span⟩ [.operator text span]
  | quotation
      {quote : Quote}
      {text : String}
      {span : Span} :
      Yields innermost? ⟨.quotation quote text, span⟩ [.quotation quote text span]
  | blank
      {text : String}
      {span : Span} :
      Text.trim text = "" →
      Yields innermost? ⟨.word text, span⟩ []
  | number
      {text : String}
      {value : Number}
      {span : Span} :
      Text.trim text ≠ "" →
      Number.parse? (Text.trim text) = some value →
      Yields innermost? ⟨.word text, span⟩ [.number value span]
  | name
      {text : String}
      {span : Span} :
      Text.trim text ≠ "" →
      Number.parse? (Text.trim text) = none →
      Yields innermost? ⟨.word text, span⟩ [.name (Text.trim text) span]
  | stray
      {bracket : Bracket}
      {span : Span} :
      innermost? ≠ some bracket →
      Yields innermost? ⟨.closing bracket, span⟩
        [.name (String.singleton bracket.closing) span]
  | separator
      {span : Span} :
      innermost? ≠ none →
      Yields innermost? ⟨.comma, span⟩ [.separator span]

/-- The end of lexemes that follow an offset. -/
def endOf
    (stop : Nat)
    (lexemes : List (Located Lexeme)) : Nat :=
  (lexemes.getLast?.map fun located => located.span.stop).getD stop

/-- Whether lexemes form tokens, with every block closed by the first bracket behind its
tokens that can close it. -/
inductive Form : Option Bracket → List (Located Lexeme) → List Token → Prop where
  | nothing
      {innermost? : Option Bracket} :
      Form innermost? [] []
  | single
      {innermost? : Option Bracket}
      {located : Located Lexeme}
      {lexemes : List (Located Lexeme)}
      {yielded tokens : List Token} :
      Yields innermost? located yielded →
      Form innermost? lexemes tokens →
      Form innermost? (located :: lexemes) (yielded ++ tokens)
  | block
      {innermost? : Option Bracket}
      {bracket : Bracket}
      {opening closing : Span}
      {inside lexemes : List (Located Lexeme)}
      {held tokens : List Token} :
      Form (some bracket) inside held →
      Form innermost? lexemes tokens →
      Form innermost?
        (⟨.opening bracket, opening⟩ :: (inside ++ ⟨.closing bracket, closing⟩ :: lexemes))
        (.block bracket held ⟨opening.start, closing.stop⟩ :: tokens)

/-- Whether lexemes form tokens when nothing follows them.  The last block may then have no
closing bracket, and so may the last block in it: such blocks end with the last lexeme. -/
inductive FormLast : Option Bracket → List (Located Lexeme) → List Token → Prop where
  | closed
      {innermost? : Option Bracket}
      {lexemes : List (Located Lexeme)}
      {tokens : List Token} :
      Form innermost? lexemes tokens →
      FormLast innermost? lexemes tokens
  | leftOpen
      {innermost? : Option Bracket}
      {bracket : Bracket}
      {opening : Span}
      {lexemes inside : List (Located Lexeme)}
      {tokens held : List Token} :
      Form innermost? lexemes tokens →
      FormLast (some bracket) inside held →
      FormLast innermost? (lexemes ++ ⟨.opening bracket, opening⟩ :: inside)
        (tokens ++ [.block bracket held ⟨opening.start, endOf opening.stop inside⟩])

/-- Whether lexemes form sequences of tokens that commas outside all blocks part. -/
inductive FormSequences : List (Located Lexeme) → List (List Token) → Prop where
  | last
      {lexemes : List (Located Lexeme)}
      {tokens : List Token} :
      FormLast none lexemes tokens →
      FormSequences lexemes [tokens]
  | comma
      {span : Span}
      {lexemes rest : List (Located Lexeme)}
      {tokens : List Token}
      {sequences : List (List Token)} :
      Form none lexemes tokens →
      FormSequences rest sequences →
      FormSequences (lexemes ++ ⟨.comma, span⟩ :: rest) (tokens :: sequences)

@[simp]
theorem endOf_append_cons
    (stop : Nat)
    (lexemes rest : List (Located Lexeme))
    (located : Located Lexeme) :
    endOf stop (lexemes ++ located :: rest) = endOf located.span.stop rest := by
  simp only [endOf, List.getLast?_append, List.getLast?_cons, Option.some_or, Option.map_some,
    Option.getD_some, Option.getD_map]

@[simp]
theorem endOf_cons
    (stop : Nat)
    (located : Located Lexeme)
    (rest : List (Located Lexeme)) :
    endOf stop (located :: rest) = endOf located.span.stop rest :=
  endOf_append_cons stop [] rest located

theorem yields_ofWord
    (innermost? : Option Bracket)
    (text : String)
    (span : Span) :
    Yields innermost? ⟨.word text, span⟩ (Token.ofWord text span) := by
  unfold Token.ofWord
  dsimp only
  split
  · exact .blank ‹_›
  · split
    · exact .number ‹_› ‹_›
    · exact .name ‹_› ‹_›

theorem Form.of_yields
    {innermost? : Option Bracket}
    {located : Located Lexeme}
    {tokens : List Token}
    (yields : Yields innermost? located tokens) :
    Form innermost? [located] tokens := by
  have alone : Form innermost? [located] (tokens ++ []) := .single yields .nothing
  rwa [List.append_nil] at alone

theorem Form.append
    {innermost? : Option Bracket}
    {lexemes rest : List (Located Lexeme)}
    {tokens others : List Token}
    (first : Form innermost? lexemes tokens)
    (second : Form innermost? rest others) :
    Form innermost? (lexemes ++ rest) (tokens ++ others) := by
  induction first with
  | nothing =>
      exact second
  | single yields _ inductionHypothesis =>
      rw [List.append_assoc]
      exact .single yields (inductionHypothesis second)
  | block inside _ _ inductionHypothesis =>
      rw [List.cons_append, List.append_assoc]
      exact .block inside (inductionHypothesis second)

end Lexeme

namespace Nesting

/-- The bracket of the innermost of some open blocks. -/
def innermost? (opened : List OpenBlock) : Option Bracket :=
  opened.head?.map OpenBlock.bracket

/-!
## The stack reads what lexemes form
-/

/-- A lexeme that yields tokens adds these to the innermost sequence. -/
theorem take_of_yields
    {nesting : Nesting}
    {located : Located Lexeme}
    {tokens : List Token}
    (yields : Lexeme.Yields (innermost? nesting.opened) located tokens) :
    nesting.take located = (none, nesting.push tokens) := by
  cases yields with
  | operator | quotation =>
      rfl
  | blank isBlank =>
      simp [take, Token.ofWord, isBlank]
  | number notBlank parsed =>
      simp [take, Token.ofWord, notBlank, parsed]
  | name notBlank notNumber =>
      simp [take, Token.ofWord, notBlank, notNumber]
  | stray other =>
      cases opened : nesting.opened with
      | nil =>
          simp [take, closeBlock, opened]
      | cons innermost outer =>
          simp only [innermost?, opened, List.head?_cons, Option.map_some, ne_eq,
            Option.some.injEq] at other
          simp [take, closeBlock, opened, other]
  | separator inBlock =>
      cases opened : nesting.opened with
      | nil =>
          simp [innermost?, opened] at inBlock
      | cons innermost outer =>
          simp [take, opened]

/-- Lexemes that form tokens add these to the innermost sequence. -/
theorem sequences_of_form
    {bracket? : Option Bracket}
    {lexemes : List (Located Lexeme)}
    {tokens : List Token}
    (form : Lexeme.Form bracket? lexemes tokens)
    {nesting : Nesting}
    (inBlock : innermost? nesting.opened = bracket?)
    (stop : Nat)
    (rest : List (Located Lexeme)) :
    nesting.sequences stop (lexemes ++ rest) =
      (nesting.push tokens).sequences (Lexeme.endOf stop lexemes) rest := by
  induction form generalizing nesting stop rest with
  | nothing =>
      rw [push_nothing]
      rfl
  | @single _ located lexemes yielded tokens yields _ inductionHypothesis =>
      have taken : nesting.take located = (none, nesting.push yielded) :=
        take_of_yields (inBlock ▸ yields)
      have goesOn := @inductionHypothesis (nesting.push yielded) inBlock
      rw [List.cons_append, sequences, taken, Lexeme.endOf_cons, ← push_push]
      exact goesOn located.span.stop rest
  | @block _ bracket opening closing inside lexemes held tokens _ _ insideHypothesis
      restHypothesis =>
      have insideRead :=
        @insideHypothesis (nesting.openBlock bracket opening.start) rfl
      have closed :
          ((nesting.openBlock bracket opening.start).push held).take
              ⟨.closing bracket, closing⟩ =
            (none, nesting.push [.block bracket held ⟨opening.start, closing.stop⟩]) := by
        simp [take, closeBlock, openBlock, push, OpenBlock.closed]
      have restRead :=
        @restHypothesis (nesting.push [.block bracket held ⟨opening.start, closing.stop⟩]) inBlock
      calc
        nesting.sequences stop
            (⟨.opening bracket, opening⟩ ::
              (inside ++ ⟨.closing bracket, closing⟩ :: lexemes) ++ rest) =
            (nesting.openBlock bracket opening.start).sequences opening.stop
              (inside ++ ⟨.closing bracket, closing⟩ :: (lexemes ++ rest)) := by
          rw [List.cons_append, List.append_assoc]
          rfl
        _ = (nesting.push [.block bracket held ⟨opening.start, closing.stop⟩]).sequences
              closing.stop (lexemes ++ rest) := by
          rw [insideRead, sequences, closed]
          rfl
        _ = (nesting.push
              (.block bracket held ⟨opening.start, closing.stop⟩ :: tokens)).sequences
              (Lexeme.endOf closing.stop lexemes) rest := by
          rw [restRead, push_push]
          rfl
        _ = _ := by
          rw [Lexeme.endOf_cons, Lexeme.endOf_append_cons]

theorem sequences_of_formLast
    {bracket? : Option Bracket}
    {lexemes : List (Located Lexeme)}
    {tokens : List Token}
    (form : Lexeme.FormLast bracket? lexemes tokens)
    {nesting : Nesting}
    (inBlock : innermost? nesting.opened = bracket?)
    (stop : Nat) :
    nesting.sequences stop lexemes =
      [closeAll (Lexeme.endOf stop lexemes) (nesting.tokens ++ tokens) nesting.opened] := by
  induction form generalizing nesting stop with
  | closed form =>
      have read := sequences_of_form form inBlock stop []
      rw [List.append_nil] at read
      rw [read]
      rfl
  | @leftOpen _ bracket opening lexemes inside tokens held form _ inductionHypothesis =>
      have insideRead :=
        @inductionHypothesis ((nesting.push tokens).openBlock bracket opening.start) rfl
          opening.stop
      rw [sequences_of_form form inBlock, Lexeme.endOf_append_cons, ← List.append_assoc]
      exact insideRead

/-- The sequences of a source are all that its lexemes can form. -/
theorem sequences_of_formSequences
    {lexemes : List (Located Lexeme)}
    {formed : List (List Token)}
    (form : Lexeme.FormSequences lexemes formed)
    (stop : Nat) :
    start.sequences stop lexemes = formed := by
  induction form generalizing stop with
  | last form =>
      exact sequences_of_formLast form rfl stop
  | @comma span _ _ tokens _ form _ inductionHypothesis =>
      rw [sequences_of_form form rfl, sequences]
      exact congrArg (List.cons tokens) (inductionHypothesis span.stop)

/-!
## Whatever is read forms sequences
-/

/-- Whether lexemes lead into the innermost of some open blocks: up to its opening bracket
they form the tokens in front of each block. -/
inductive LeadsInto : List (Located Lexeme) → List OpenBlock → Prop where
  | outside :
      LeadsInto [] []
  | block
      {innermost : OpenBlock}
      {outer : List OpenBlock}
      {stop : Nat}
      {around lexemes : List (Located Lexeme)} :
      LeadsInto around outer →
      Lexeme.Form (innermost? outer) lexemes innermost.before →
      LeadsInto
        (around ++ lexemes ++ [⟨.opening innermost.bracket, ⟨innermost.start, stop⟩⟩])
        (innermost :: outer)

/-- Whether lexemes since the last comma outside all blocks form what is under way. -/
structure IsFormedBy
    (nesting : Nesting)
    (around lexemes : List (Located Lexeme)) : Prop where
  around : LeadsInto around nesting.opened
  inside : Lexeme.Form (innermost? nesting.opened) lexemes nesting.tokens

theorem isFormedBy_start :
    start.IsFormedBy [] [] :=
  ⟨.outside, .nothing⟩

namespace IsFormedBy

variable
  {nesting : Nesting}
  {around lexemes : List (Located Lexeme)}

theorem push
    (formed : nesting.IsFormedBy around lexemes)
    {located : Located Lexeme}
    {tokens : List Token}
    (yields : Lexeme.Yields (innermost? nesting.opened) located tokens) :
    (nesting.push tokens).IsFormedBy around (lexemes ++ [located]) :=
  ⟨formed.around, formed.inside.append (.of_yields yields)⟩

theorem openBlock
    (formed : nesting.IsFormedBy around lexemes)
    (bracket : Bracket)
    (span : Span) :
    (nesting.openBlock bracket span.start).IsFormedBy
      (around ++ lexemes ++ [⟨.opening bracket, span⟩]) [] where
  around :=
    @LeadsInto.block ⟨bracket, span.start, nesting.tokens⟩ _ _ _ _ formed.around formed.inside
  inside := .nothing

/-- A block that closes is one more token of what is around it. -/
theorem closed
    {innermost : OpenBlock}
    {outer : List OpenBlock}
    {tokens : List Token}
    (formed : IsFormedBy ⟨innermost :: outer, tokens⟩ around lexemes)
    (span : Span) :
    ∃ around' lexemes',
      around' ++ lexemes' = around ++ lexemes ++ [⟨.closing innermost.bracket, span⟩] ∧
        IsFormedBy ⟨outer, innermost.closed tokens span.stop⟩ around' lexemes' := by
  obtain ⟨leads, inside⟩ := formed
  cases leads with
  | @block _ _ stop around before aroundLeads beforeForm =>
      have asBlock :=
        @Lexeme.Form.block (innermost? outer) innermost.bracket ⟨innermost.start, stop⟩ span
          _ _ _ _ inside .nothing
      exact ⟨around, _, by simp, aroundLeads, beforeForm.append asBlock⟩

/-- A lexeme that does not part two sequences is one more lexeme of what is under way. -/
theorem take
    (formed : nesting.IsFormedBy around lexemes)
    {located : Located Lexeme}
    (goesOn : nesting.opened = [] → located.value ≠ .comma) :
    (nesting.take located).1 = none ∧
      ∃ around' lexemes',
        around' ++ lexemes' = around ++ lexemes ++ [located] ∧
          (nesting.take located).2.IsFormedBy around' lexemes' := by
  have oneMore :
      ∀ {tokens : List Token},
        Lexeme.Yields (innermost? nesting.opened) located tokens →
        (nesting.take located).1 = none ∧
          ∃ around' lexemes',
            around' ++ lexemes' = around ++ lexemes ++ [located] ∧
              (nesting.take located).2.IsFormedBy around' lexemes' := by
    intro tokens yields
    rw [take_of_yields yields]
    exact ⟨rfl, around, lexemes ++ [located], (List.append_assoc _ _ _).symm,
      formed.push yields⟩
  obtain ⟨lexeme, span⟩ := located
  cases lexeme with
  | operator text =>
      exact oneMore .operator
  | quotation quote text =>
      exact oneMore .quotation
  | word text =>
      exact oneMore (Lexeme.yields_ofWord _ text span)
  | opening bracket =>
      exact ⟨rfl, _, [], List.append_nil _, formed.openBlock bracket span⟩
  | comma =>
      refine oneMore (.separator fun outside => goesOn ?_ rfl)
      simpa [innermost?] using outside
  | closing bracket =>
      by_cases closes : innermost? nesting.opened = some bracket
      · obtain ⟨opened, tokens⟩ := nesting
        cases opened with
        | nil =>
            cases closes
        | cons innermost outer =>
            obtain rfl : innermost.bracket = bracket := Option.some.inj closes
            have taken :
                Nesting.take ⟨innermost :: outer, tokens⟩ ⟨.closing innermost.bracket, span⟩ =
                  (none, ⟨outer, innermost.closed tokens span.stop⟩) := by
              simp [Nesting.take, closeBlock]
            rw [taken]
            exact ⟨rfl, formed.closed span⟩
      · exact oneMore (.stray closes)

end IsFormedBy

/-- What is under way forms a sequence when all open blocks end with the last lexeme. -/
theorem formLast_closeAll
    {around lexemes : List (Located Lexeme)}
    {opened : List OpenBlock}
    {tokens : List Token}
    (leads : LeadsInto around opened)
    (form : Lexeme.FormLast (innermost? opened) lexemes tokens)
    (stop : Nat) :
    Lexeme.FormLast none (around ++ lexemes)
      (closeAll (Lexeme.endOf stop (around ++ lexemes)) tokens opened) := by
  induction leads generalizing lexemes tokens with
  | outside =>
      exact form
  | @block innermost outer stop' around before _ beforeForm inductionHypothesis =>
      have asLast := inductionHypothesis
        (@Lexeme.FormLast.leftOpen _ _ ⟨innermost.start, stop'⟩ _ _ _ _ beforeForm form)
      rw [← List.append_assoc, Lexeme.endOf_append_cons] at asLast
      rw [List.append_assoc _ [_] lexemes, List.singleton_append, Lexeme.endOf_append_cons]
      exact asLast

/-- Lexemes form the sequences that are read from them, whatever was read before. -/
theorem formSequences_sequences
    {nesting : Nesting}
    {around lexemes : List (Located Lexeme)}
    (formed : nesting.IsFormedBy around lexemes)
    (stop : Nat)
    (rest : List (Located Lexeme)) :
    Lexeme.FormSequences (around ++ lexemes ++ rest)
      (nesting.sequences (Lexeme.endOf stop (around ++ lexemes)) rest) := by
  induction rest generalizing nesting around lexemes stop with
  | nil =>
      rw [List.append_nil]
      exact .last (formLast_closeAll formed.around (.closed formed.inside) stop)
  | cons located rest inductionHypothesis =>
      by_cases parts : nesting.opened = [] ∧ located.value = .comma
      · obtain ⟨opened, tokens⟩ := nesting
        obtain ⟨lexeme, span⟩ := located
        obtain ⟨rfl, rfl⟩ := parts
        obtain ⟨leads, inside⟩ := formed
        cases leads
        exact .comma inside (inductionHypothesis isFormedBy_start span.stop)
      · obtain ⟨completesNone, around', lexemes', sameLexemes, stillFormed⟩ :=
          formed.take fun outside isComma => parts ⟨outside, isComma⟩
        have later := inductionHypothesis stillFormed stop
        rw [sameLexemes, Lexeme.endOf_append_cons, List.append_assoc] at later
        rw [sequences, completesNone]
        exact later

end Nesting

/--
The forest of tokens accounts for every lexeme exactly once.  The lexemes of a source form
exactly one list of sequences, and the sequences among these that are not empty are those
of its instructions.
-/
theorem forest_formedByLexemes
    (source : String) :
    ∃ sequences,
      Lexeme.FormSequences (lexemes source) sequences ∧
        (∀ others, Lexeme.FormSequences (lexemes source) others → others = sequences) ∧
        (instructions source).map Instruction.tokens =
          sequences.filter fun tokens => !tokens.isEmpty :=
  ⟨Nesting.start.sequences 0 (lexemes source),
    Nesting.formSequences_sequences Nesting.isFormedBy_start 0 (lexemes source),
    fun _ form => (Nesting.sequences_of_formSequences form 0).symm,
    tokens_instructions source⟩

/-- A bracket that closes no block is a name, and a block that is left open ends with the
last lexeme. -/
example :
    (instructions "(a], ,) , , \x7bb").map Instruction.tokens =
      [[.block .round
          [.name "a" ⟨1, 2⟩, .name "]" ⟨2, 3⟩, .separator ⟨3, 4⟩, .separator ⟨5, 6⟩] ⟨0, 7⟩],
        [.block .brace [.name "b" ⟨13, 14⟩] ⟨12, 14⟩]] :=
  rfl

end DataBinding
