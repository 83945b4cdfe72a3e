import DataBinding.Proofs.LexemeText

namespace DataBinding

/-!
# Instructions read back from their text

The text of an instruction is read in two steps, as the source is: its characters
spell the lexemes of its tokens, and these lexemes build the same trees of tokens
again.  Only places and the sign of a zero are not in the text.
-/

namespace Token

/-- The place of a token that is looked at without its place. -/
def nowhere : Span :=
  ⟨0, 0⟩

mutual

/-- What the text of a token shows: kind, text, quotation marks, brackets and
tokens inside, but neither the place nor the sign of a zero. -/
def tree : Token → Token
  | name text _ => name text nowhere
  | quotation quote text _ => quotation quote text nowhere
  | number value _ => number value.unsignedZero nowhere
  | operator text _ => operator text nowhere
  | block bracket tokens _ => block bracket (trees tokens) nowhere
  | separator _ => separator nowhere

/-- What the text of a sequence of tokens shows. -/
def trees : List Token → List Token
  | [] => []
  | token :: rest => token.tree :: trees rest

end

mutual

/-- The lexemes that a token is written with. -/
def parts : Token → List Lexeme
  | name text _ => [.word text]
  | quotation quote text _ => [.quotation quote text]
  | number value _ => [.word value.display]
  | operator text _ => [.operator text]
  | block bracket tokens _ => .opening bracket :: (sequenceParts tokens ++ [.closing bracket])
  | separator _ => [.comma]

/-- The lexemes that a sequence of tokens is written with. -/
def sequenceParts : List Token → List Lexeme
  | [] => []
  | token :: rest => parts token ++ sequenceParts rest

end

theorem trees_append
    (tokens following : List Token) :
    trees (tokens ++ following) = trees tokens ++ trees following := by
  induction tokens with
  | nil => rfl
  | cons token rest inductionHypothesis =>
      simp only [List.cons_append, trees, inductionHypothesis]

theorem trees_eq_nil
    {tokens : List Token} :
    trees tokens = [] ↔ tokens = [] := by
  cases tokens with
  | nil => simp [trees]
  | cons token rest => simp [trees]

/-! ## The lexemes of a text -/

theorem apart_following
    (tokens : List Token)
    {rest : List Char}
    (apart : Lexeme.Apart rest) :
    Lexeme.Apart (followingChars tokens ++ rest) := by
  cases tokens with
  | nil => exact apart
  | cons token tokens =>
      intro c first
      cases token with
      | separator span =>
          cases first
          exact .inr (.inl rfl)
      | _ =>
          cases first
          exact .inl rfl

theorem spells_following
    {tokens : List Token}
    (spells : ∀ token ∈ tokens, Lexeme.Mode.idle.Spells token.chars token.parts) :
    Lexeme.Mode.idle.Spells (followingChars tokens) (sequenceParts tokens) := by
  induction tokens with
  | nil => exact Lexeme.Mode.spells_nothing
  | cons token rest inductionHypothesis =>
      have first := spells token List.mem_cons_self
      have others := inductionHypothesis
        fun other member => spells other (List.mem_cons_of_mem token member)
      have both : Lexeme.Mode.idle.Spells (token.chars ++ followingChars rest)
          (token.parts ++ sequenceParts rest) :=
        first.append others fun _ apart => apart_following rest apart
      unfold followingChars sequenceParts
      split
      · exact both
      · exact Lexeme.Mode.spells_blank both

theorem spells_sequence
    {tokens : List Token}
    (spells : ∀ token ∈ tokens, Lexeme.Mode.idle.Spells token.chars token.parts) :
    Lexeme.Mode.idle.Spells (sequenceChars tokens) (sequenceParts tokens) := by
  cases tokens with
  | nil => exact Lexeme.Mode.spells_nothing
  | cons token rest =>
      have others := spells_following
        fun other member => spells other (List.mem_cons_of_mem token member)
      exact (spells token List.mem_cons_self).append others
        fun _ apart => apart_following rest apart

theorem apart_closing
    (bracket : Bracket)
    (rest : List Char) :
    Lexeme.Apart (bracket.closing :: rest) := by
  intro c first
  cases first
  exact .inr (.inr ⟨bracket, rfl⟩)

theorem not_isSpecial_of_isChar
    {c : Char}
    (numeralChar : PlainNumeral.isChar c = true) :
    ¬ Lexeme.isSpecial c = true := by
  intro special
  have range := PlainNumeral.toNat_of_isChar numeralChar
  simp [Lexeme.isSpecial, Lexeme.isGap, Lexeme.isOperatorChar, Quote.ofMark?, Quote.mark,
    Bracket.ofOpening?, Bracket.opening, Bracket.ofClosing?, Bracket.closing,
    or_assoc] at special
  rcases special with
    rfl | rfl | rfl | rfl | rfl | rfl | rfl | rfl | rfl | rfl | rfl | rfl | rfl | rfl | rfl |
    rfl | rfl | rfl | rfl | rfl | rfl
  all_goals
    revert range
    decide

/-- No character of a number needs an escape. -/
theorem flatMap_wordChar_display
    {value : Number}
    (finite : value.isFinite = true) :
    value.display.toList.flatMap wordChar = value.display.toList := by
  obtain ⟨numeral, text, _⟩ := Number.exists_display finite
  have plain : ∀ c ∈ value.display.toList, wordChar c = [c] := by
    intro c member
    rw [text] at member
    unfold wordChar
    exact if_neg (not_isSpecial_of_isChar (numeral.isChar_of_mem_chars member))
  generalize value.display.toList = characters at plain
  induction characters with
  | nil => rfl
  | cons c rest inductionHypothesis =>
      rw [List.flatMap_cons, plain c List.mem_cons_self,
        inductionHypothesis fun other member => plain other (List.mem_cons_of_mem c member)]
      rfl

/-- A token is written with its lexemes. -/
theorem spells_of_wellFormed
    {token : Token}
    (form : token.WellFormed) :
    Lexeme.Mode.idle.Spells token.chars token.parts := by
  induction form with
  | name some _ _ => exact Lexeme.Mode.spells_word some
  | quotation => exact Lexeme.Mode.spells_quotation _ _
  | @number value span finite =>
      have spells := Lexeme.Mode.spells_word (Number.display_ne_empty finite)
      rwa [flatMap_wordChar_display finite] at spells
  | operator form => exact Lexeme.Mode.spells_operator form
  | @block bracket tokens span _ inductionHypothesis =>
      have inner := (spells_sequence inductionHypothesis).append
        (Lexeme.Mode.spells_closing bracket) fun rest _ => apart_closing bracket rest
      exact Lexeme.Mode.spells_opening bracket inner
  | separator => exact Lexeme.Mode.spells_comma Lexeme.Mode.spells_nothing

end Token

namespace Nesting

/-- Whether lexemes, at whatever places, add tokens with given trees to any
sequence in which the tokens can stand. -/
def Builds
    (lexemes : List Lexeme)
    (tokens : List Token) : Prop :=
  ∀ (nesting : Nesting) (located rest : List (Located Lexeme)) (stop : Nat),
    (nesting.opened = [] → ∀ token ∈ tokens, token.isSeparator = false) →
    located.map Located.value = lexemes →
      ∃ (built : List Token) (last : Nat),
        nesting.sequences stop (located ++ rest) =
            (nesting.push built).sequences last rest ∧
          Token.trees built = Token.trees tokens

theorem push_push
    (nesting : Nesting)
    (tokens following : List Token) :
    (nesting.push tokens).push following = nesting.push (tokens ++ following) := by
  unfold push
  rw [List.append_assoc]

theorem push_nothing
    (nesting : Nesting) :
    nesting.push [] = nesting := by
  unfold push
  rw [List.append_nil]

theorem builds_nothing :
    Builds [] [] := by
  intro nesting located rest stop _ values
  rw [List.map_eq_nil_iff.mp values]
  exact ⟨[], stop, by rw [push_nothing]; rfl, rfl⟩

theorem Builds.append
    {lexemes later : List Lexeme}
    {tokens following : List Token}
    (first : Builds lexemes tokens)
    (second : Builds later following) :
    Builds (lexemes ++ later) (tokens ++ following) := by
  intro nesting located rest stop fits values
  obtain ⟨front, back, rfl, frontValues, backValues⟩ := List.map_eq_append_iff.mp values
  obtain ⟨built, middle, reads, sameTrees⟩ :=
    first nesting front (back ++ rest) stop
      (fun outside token member => fits outside token (List.mem_append_left _ member))
      frontValues
  obtain ⟨others, last, goesOn, otherTrees⟩ :=
    second (nesting.push built) back rest middle
      (fun outside token member => fits outside token (List.mem_append_right _ member))
      backValues
  refine ⟨built ++ others, last, ?_, ?_⟩
  · rw [List.append_assoc, reads, goesOn, push_push]
  · rw [Token.trees_append, Token.trees_append, sameTrees, otherTrees]

/-- A lexeme that adds one token, wherever it stands. -/
theorem builds_single
    {lexeme : Lexeme}
    {token : Token}
    (take : ∀ (nesting : Nesting) (span : Span),
      (nesting.opened = [] → token.isSeparator = false) →
        ∃ built : Token,
          nesting.take ⟨lexeme, span⟩ = (none, nesting.push [built]) ∧
            built.tree = token.tree) :
    Builds [lexeme] [token] := by
  intro nesting located rest stop fits values
  obtain ⟨⟨value, span⟩, others, rfl, same, noOthers⟩ := List.map_eq_cons_iff.mp values
  rw [List.map_eq_nil_iff.mp noOthers]
  cases same
  obtain ⟨built, taken, sameTree⟩ :=
    take nesting span fun outside => fits outside token List.mem_cons_self
  refine ⟨[built], span.stop, ?_, ?_⟩
  · change (nesting.take ⟨value, span⟩).1.toList ++
      (nesting.take ⟨value, span⟩).2.sequences span.stop rest = _
    rw [taken]
    rfl
  · simp only [Token.trees, sameTree]

/-- A block is built from what its tokens are built from. -/
theorem builds_block
    (bracket : Bracket)
    {lexemes : List Lexeme}
    {tokens : List Token}
    (inner : Builds lexemes tokens)
    (span : Span) :
    Builds (.opening bracket :: (lexemes ++ [.closing bracket]))
      [.block bracket tokens span] := by
  intro nesting located rest stop _ values
  obtain ⟨⟨opening, openingSpan⟩, afterOpening, rfl, opens, innerValues⟩ :=
    List.map_eq_cons_iff.mp values
  obtain ⟨inside, atEnd, rfl, insideValues, endValues⟩ :=
    List.map_eq_append_iff.mp innerValues
  obtain ⟨⟨closing, closingSpan⟩, others, rfl, closes, noOthers⟩ :=
    List.map_eq_cons_iff.mp endValues
  rw [List.map_eq_nil_iff.mp noOthers]
  cases opens
  cases closes
  obtain ⟨built, middle, reads, sameTrees⟩ :=
    inner (nesting.openBlock bracket openingSpan.start) inside
      (⟨.closing bracket, closingSpan⟩ :: rest) openingSpan.stop
      (fun outside => absurd outside (List.cons_ne_nil _ _)) insideValues
  refine ⟨[.block bracket built ⟨openingSpan.start, closingSpan.stop⟩],
    closingSpan.stop, ?_, ?_⟩
  · have closed :
        ((nesting.openBlock bracket openingSpan.start).push built).take
            ⟨.closing bracket, closingSpan⟩ =
          (none, nesting.push
            [.block bracket built ⟨openingSpan.start, closingSpan.stop⟩]) := by
      simp [take, closeBlock, openBlock, push, OpenBlock.closed]
    calc
      nesting.sequences stop
          (⟨.opening bracket, openingSpan⟩ :: (inside ++ [⟨.closing bracket, closingSpan⟩]) ++
            rest) =
          (nesting.openBlock bracket openingSpan.start).sequences openingSpan.stop
            (inside ++ ⟨.closing bracket, closingSpan⟩ :: rest) := by
        rw [List.cons_append, List.append_assoc]
        rfl
      _ = ((nesting.openBlock bracket openingSpan.start).push built).sequences middle
            (⟨.closing bracket, closingSpan⟩ :: rest) := reads
      _ = (nesting.push
            [.block bracket built ⟨openingSpan.start, closingSpan.stop⟩]).sequences
              closingSpan.stop rest := by
        simp only [sequences, closed, Option.toList_none, List.nil_append]
  · simp only [Token.trees, Token.tree, sameTrees]

/-- What the lexer makes of a word that needs no trimming. -/
theorem take_word
    {text : String}
    (some : text ≠ "")
    (trimmed : Text.trim text = text)
    (nesting : Nesting)
    (span : Span) :
    nesting.take ⟨.word text, span⟩ =
      (none, nesting.push
        [((Number.parse? text).map fun value => Token.number value span).getD
          (.name text span)]) := by
  cases parsed : Number.parse? text with
  | none =>
      simp only [take, Token.ofWord, trimmed, some, if_false, parsed, Option.map_none,
        Option.getD_none]
  | some value =>
      simp only [take, Token.ofWord, trimmed, some, if_false, parsed, Option.map_some,
        Option.getD_some]

theorem builds_sequence
    {tokens : List Token}
    (builds : ∀ token ∈ tokens, Builds token.parts [token]) :
    Builds (Token.sequenceParts tokens) tokens := by
  induction tokens with
  | nil => exact builds_nothing
  | cons token rest inductionHypothesis =>
      have others := inductionHypothesis
        fun other member => builds other (List.mem_cons_of_mem token member)
      exact (builds token List.mem_cons_self).append others

/-- The lexemes of a token build its tree. -/
theorem builds_of_wellFormed
    {token : Token}
    (form : token.WellFormed) :
    Builds token.parts [token] := by
  induction form with
  | @name text _ some trimmed notNumber =>
      apply builds_single
      intro nesting span _
      refine ⟨.name text span, ?_, rfl⟩
      rw [take_word some trimmed, notNumber, Option.map_none, Option.getD_none]
  | @quotation quote text _ =>
      apply builds_single
      intro nesting span _
      exact ⟨.quotation quote text span, rfl, rfl⟩
  | @number value _ finite =>
      apply builds_single
      intro nesting span _
      refine ⟨.number value.unsignedZero span, ?_, ?_⟩
      · rw [take_word (Number.display_ne_empty finite) (Number.trim_display finite),
          Number.parse?_display finite, Option.map_some, Option.getD_some]
      · simp only [Token.tree, Number.unsignedZero_unsignedZero]
  | @operator text _ _ =>
      apply builds_single
      intro nesting span _
      exact ⟨.operator text span, rfl, rfl⟩
  | @block bracket tokens span _ inductionHypothesis =>
      exact builds_block bracket (builds_sequence inductionHypothesis) span
  | separator =>
      apply builds_single
      intro nesting span fits
      refine ⟨.separator span, ?_, rfl⟩
      cases opened : nesting.opened with
      | nil => cases fits opened
      | cons innermost outer => simp only [take, opened]

end Nesting

namespace Instruction

/-- The trees of an instruction. -/
def trees (instruction : Instruction) : List Token :=
  Token.trees instruction.tokens

/-- The lexemes that an instruction is written with. -/
def parts (instruction : Instruction) : List Lexeme :=
  Token.sequenceParts instruction.tokens

/-- The text of some instructions, separated by commas. -/
def joined (list : List Instruction) : String :=
  String.intercalate ", " (list.map text)

/-- The lexemes of instructions with commas between them. -/
def joinedParts : List Instruction → List Lexeme
  | [] => []
  | [instruction] => instruction.parts
  | instruction :: next :: rest => instruction.parts ++ .comma :: joinedParts (next :: rest)

theorem spells_text
    {instruction : Instruction}
    (form : instruction.WellFormed) :
    Lexeme.Mode.idle.Spells instruction.text.toList instruction.parts := by
  unfold text
  rw [String.toList_ofList]
  exact Token.spells_sequence
    fun token member => Token.spells_of_wellFormed (form.tokens token member)

theorem spells_joined
    {list : List Instruction}
    (form : ∀ instruction ∈ list, instruction.WellFormed) :
    Lexeme.Mode.idle.Spells (joined list).toList (joinedParts list) := by
  induction list with
  | nil => exact Lexeme.Mode.spells_nothing
  | cons instruction rest inductionHypothesis =>
      have first := spells_text (form instruction List.mem_cons_self)
      have others := inductionHypothesis
        fun other member => form other (List.mem_cons_of_mem instruction member)
      cases rest with
      | nil =>
          change Lexeme.Mode.idle.Spells (", ".intercalate [instruction.text]).toList
            instruction.parts
          rwa [String.intercalate_singleton]
      | cons next rest =>
          have apart : ∀ after, Lexeme.Apart after →
              Lexeme.Apart (',' :: ' ' :: (joined (next :: rest)).toList ++ after) := by
            intro after _ c front
            cases front
            exact .inr (.inl rfl)
          have both := first.append
            (Lexeme.Mode.spells_comma (Lexeme.Mode.spells_blank others)) apart
          have split :
              (joined (instruction :: next :: rest)).toList =
                instruction.text.toList ++
                  ',' :: ' ' :: (joined (next :: rest)).toList := by
            simp [joined, String.intercalate_cons_cons]
          rw [split]
          exact both

/-- The lexemes of instructions build the sequences of the instructions. -/
theorem sequences_joinedParts
    {list : List Instruction}
    (form : ∀ instruction ∈ list, instruction.WellFormed)
    (some : list ≠ [])
    {located : List (Located Lexeme)}
    (values : located.map Located.value = joinedParts list)
    (stop : Nat) :
    (Nesting.start.sequences stop located).map Token.trees = list.map trees := by
  induction list generalizing located stop with
  | nil => exact absurd rfl some
  | cons instruction rest inductionHypothesis =>
      have wellFormed := form instruction List.mem_cons_self
      have builds : Nesting.Builds instruction.parts instruction.tokens :=
        Nesting.builds_sequence
          fun token member => Nesting.builds_of_wellFormed (wellFormed.tokens token member)
      cases rest with
      | nil =>
          obtain ⟨built, last, reads, sameTrees⟩ :=
            builds .start located [] stop (fun _ => wellFormed.noCommas) values
          rw [List.append_nil] at reads
          rw [reads]
          change [Token.trees built] = [instruction.trees]
          rw [sameTrees, trees]
      | cons next rest =>
          obtain ⟨front, back, rfl, frontValues, backValues⟩ :=
            List.map_eq_append_iff.mp values
          obtain ⟨comma, others, rfl, isComma, otherValues⟩ :=
            List.map_eq_cons_iff.mp backValues
          obtain ⟨built, last, reads, sameTrees⟩ :=
            builds .start front (comma :: others) stop
              (fun _ => wellFormed.noCommas) frontValues
          have following := inductionHypothesis
            (fun other member => form other (List.mem_cons_of_mem instruction member))
            (List.cons_ne_nil next rest) otherValues comma.span.stop
          have ended :
              (Nesting.start.push built).take comma = (Option.some built, .start) := by
            unfold Nesting.take
            rw [isComma]
            rfl
          rw [reads]
          simp only [Nesting.sequences, ended, Option.toList_some, List.cons_append,
            List.nil_append, List.map_cons, following, sameTrees]
          rfl

end Instruction

/-- The tokens of the instructions of a source are the sequences that are not
empty. -/
theorem tokens_instructions
    (source : String) :
    (instructions source).map Instruction.tokens =
      (Nesting.start.sequences 0 (lexemes source)).filter fun tokens => !tokens.isEmpty := by
  unfold instructions
  generalize Nesting.start.sequences 0 (lexemes source) = sequences
  induction sequences with
  | nil => rfl
  | cons tokens rest inductionHypothesis =>
      cases tokens with
      | nil => exact inductionHypothesis
      | cons first others =>
          have last : ((first :: others).getLast?).isSome := by
            simp
          obtain ⟨final, atLast⟩ := Option.isSome_iff_exists.mp last
          simp only [List.filterMap_cons, Instruction.ofTokens?, List.head?_cons, atLast,
            List.map_cons, inductionHypothesis, List.filter_cons, List.isEmpty_cons,
            Bool.not_false, if_true]

/-- Instructions in the form of a source read back from their joined text. -/
theorem trees_instructions_joined
    {list : List Instruction}
    (form : ∀ instruction ∈ list, instruction.WellFormed) :
    (instructions (Instruction.joined list)).map Instruction.trees =
      list.map Instruction.trees := by
  by_cases some : list = []
  · rw [some]
    rfl
  · obtain ⟨located, stop, reads, values⟩ :=
      Instruction.spells_joined form 0 [] fun c none => absurd none (Option.not_mem_none c)
    rw [List.append_nil] at reads
    have lexed : (lexemes (Instruction.joined list)).map Located.value =
        Instruction.joinedParts list := by
      unfold lexemes
      rw [reads, List.map_append, values]
      exact List.append_nil _
    have sequences := Instruction.sequences_joinedParts form some lexed 0
    have someTrees :
        ∀ tokens ∈ Nesting.start.sequences 0 (lexemes (Instruction.joined list)),
          (!tokens.isEmpty) = true := by
      intro tokens member
      have treesAmong : Token.trees tokens ∈ list.map Instruction.trees := by
        rw [← sequences]
        exact List.mem_map_of_mem member
      obtain ⟨instruction, among, sameTrees⟩ := List.mem_map.mp treesAmong
      cases tokens with
      | nil =>
          have empty : instruction.tokens = [] := Token.trees_eq_nil.mp sameTrees
          exact absurd empty (form instruction among).someTokens
      | cons token rest => rfl
    calc
      (instructions (Instruction.joined list)).map Instruction.trees =
          ((instructions (Instruction.joined list)).map Instruction.tokens).map
            Token.trees := by
        rw [List.map_map]
        rfl
      _ = (Nesting.start.sequences 0 (lexemes (Instruction.joined list))).map
            Token.trees := by
        rw [tokens_instructions, List.filter_eq_self.mpr someTrees]
      _ = list.map Instruction.trees := sequences

/-- Writing what was read and reading it again gives the same trees. -/
theorem trees_instructions_instructions
    (source : String) :
    (instructions (Instruction.joined (instructions source))).map Instruction.trees =
      (instructions source).map Instruction.trees :=
  trees_instructions_joined fun _ member => wellFormed_of_mem_instructions member

/-- Reading and writing are inverse: what is read from a source has the form of
instructions, and instructions of that form read back from their joined text. -/
theorem reading_writing_inverse :
    (∀ (source : String), ∀ instruction ∈ instructions source, instruction.WellFormed) ∧
      ∀ (list : List Instruction),
        (∀ instruction ∈ list, instruction.WellFormed) →
          (instructions (Instruction.joined list)).map Instruction.trees =
            list.map Instruction.trees :=
  ⟨fun _ _ member => wellFormed_of_mem_instructions member,
    fun _ form => trees_instructions_joined form⟩

/-- The text `net\ price == 'it\'s', {, 0}`: a name with a blank, a quotation with its
own mark in it, and a block with a comma and a negative zero. -/
theorem reading_writing_inverse_escapes :
    (instructions (Instruction.joined
        [⟨"", ⟨0, 0⟩,
            [.name "net price" ⟨0, 0⟩, .operator "==" ⟨0, 0⟩, .quotation .single "it's" ⟨0, 0⟩]⟩,
          ⟨"", ⟨0, 0⟩,
            [.block .brace [.separator ⟨0, 0⟩, .number (.zero true) ⟨0, 0⟩] ⟨0, 0⟩]⟩])).map
        Instruction.trees =
      [[.name "net price" ⟨0, 0⟩, .operator "==" ⟨0, 0⟩, .quotation .single "it's" ⟨0, 0⟩],
        [.block .brace [.separator ⟨0, 0⟩, .number (.zero false) ⟨0, 0⟩] ⟨0, 0⟩]] := by
  apply reading_writing_inverse.2
  rw [List.forall_mem_cons, List.forall_mem_singleton]
  constructor
  · refine ⟨List.cons_ne_nil _ _, ?_, by decide⟩
    rw [List.forall_mem_cons, List.forall_mem_cons, List.forall_mem_singleton]
    have operatorForm : Lexeme.IsOperator "==" :=
      ⟨by decide, by simp⟩
    exact ⟨.name (by decide) (by decide) (by decide), .operator operatorForm, .quotation⟩
  · refine ⟨List.cons_ne_nil _ _, ?_, by decide⟩
    rw [List.forall_mem_singleton]
    apply Token.WellFormed.block
    rw [List.forall_mem_cons, List.forall_mem_singleton]
    exact ⟨.separator, .number rfl⟩

end DataBinding
