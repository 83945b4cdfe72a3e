import DataBinding.Instruction.Basic
import DataBinding.Proofs.LexemeSteps

namespace DataBinding

/-!
# The form of the tokens of a source

Not every tree of tokens can come out of a source: names are trimmed and not
numbers, operators are runs of operator characters, and a comma outside all
blocks ends an instruction instead of standing in it.  The lexer keeps the form
of the lexeme under way, and the stack of open blocks keeps the form of every
sequence that is under way.
-/

namespace Lexeme

theorem isOperatorChar_iff
    {c : Char} :
    isOperatorChar c = true ↔ c ∈ ['!', '=', '<', '>', '~', '|', '&'] := by
  simp [isOperatorChar, or_assoc]

/-- Whether a text is a run of operator characters. -/
def IsOperator (text : String) : Prop :=
  text ≠ "" ∧ ∀ c ∈ text.toList, c ∈ ['!', '=', '<', '>', '~', '|', '&']

theorem IsOperator.isOperatorChar_of_mem
    {text : String}
    (form : IsOperator text) :
    ∀ c ∈ text.toList, isOperatorChar c = true :=
  fun c member => isOperatorChar_iff.mpr (form.2 c member)

/-- What the lexer promises of a lexeme. -/
def WellFormed : Lexeme → Prop
  | operator text => IsOperator text
  | _ => True

theorem isOperator_singleton
    {c : Char}
    (isChar : isOperatorChar c = true) :
    IsOperator (String.singleton c) := by
  constructor
  · exact String.singleton_ne_empty
  · intro member among
    rw [String.toList_singleton, List.mem_singleton] at among
    rw [among]
    exact isOperatorChar_iff.mp isChar

theorem IsOperator.push
    {text : String}
    (form : IsOperator text)
    {c : Char}
    (isChar : isOperatorChar c = true) :
    IsOperator (text.push c) := by
  constructor
  · exact String.push_ne_empty
  · intro member among
    rw [String.toList_push, List.mem_append, List.mem_singleton] at among
    rcases among with earlier | last
    · exact form.2 member earlier
    · rw [last]
      exact isOperatorChar_iff.mp isChar

namespace Mode

/-- What the lexer keeps of the lexeme under way. -/
def WellFormed : Mode → Prop
  | operator _ text => IsOperator text
  | _ => True

/-- Whether reading gave lexemes of the right form and goes on in the right
form. -/
def Sound (step : List (Located Lexeme) × Mode) : Prop :=
  (∀ located ∈ step.1, located.value.WellFormed) ∧ step.2.WellFormed

theorem sound_nothing
    {mode : Mode}
    (form : mode.WellFormed) :
    Sound ([], mode) :=
  ⟨fun _ member => absurd member List.not_mem_nil, form⟩

theorem sound_single
    {located : Located Lexeme}
    (complete : located.value.WellFormed) :
    Sound ([located], idle) := by
  constructor
  · intro other member
    rw [List.mem_singleton.mp member]
    exact complete
  · exact True.intro

theorem sound_begin
    (offset : Nat)
    (c : Char) :
    Sound (begin offset c) := by
  have begun := begins_begin offset c
  generalize begin offset c = step at begun ⊢
  cases begun with
  | operator isChar =>
      exact sound_nothing (isOperator_singleton isChar)
  | gap | quotation | escape | word =>
      exact sound_nothing True.intro
  | comma | opening | closing =>
      exact sound_single True.intro

theorem wellFormed_of_mem_ended
    {mode : Mode}
    (form : mode.WellFormed)
    (offset : Nat) :
    ∀ located ∈ mode.ended offset, located.value.WellFormed := by
  intro located member
  cases mode with
  | idle => cases member
  | operator start text =>
      rw [List.mem_singleton.mp member]
      exact form
  | quotation quote start text escaping =>
      rw [List.mem_singleton.mp member]
      exact True.intro
  | word start text escaping =>
      unfold ended at member
      dsimp only at member
      split at member
      · split at member
        · cases member
        · rw [List.mem_singleton.mp member]
          exact True.intro
      · rw [List.mem_singleton.mp member]
        exact True.intro

theorem sound_restart
    {mode : Mode}
    (form : mode.WellFormed)
    (offset : Nat)
    (c : Char) :
    Sound (mode.restart offset c) := by
  constructor
  · intro located member
    rcases List.mem_append.mp member with ended | begun
    · exact wellFormed_of_mem_ended form offset located ended
    · exact (sound_begin offset c).1 located begun
  · exact (sound_begin offset c).2

/-- One character keeps the form of the lexeme under way. -/
theorem sound_read
    {mode : Mode}
    (form : mode.WellFormed)
    (offset : Nat)
    (c : Char) :
    Sound (mode.read offset c) := by
  have step := mode.reads_read offset c
  generalize mode.read offset c = step' at step ⊢
  cases step with
  | restart =>
      exact sound_restart form offset c
  | operator isChar =>
      exact sound_nothing (IsOperator.push form isChar)
  | quotation | quotationEscape | word | wordEscape =>
      exact sound_nothing True.intro
  | quotationEnd =>
      exact sound_single True.intro

theorem wellFormed_of_mem_readAll
    {mode : Mode}
    (form : mode.WellFormed)
    (offset : Nat)
    (rest : List Char) :
    ∀ located ∈ mode.readAll offset rest, located.value.WellFormed := by
  induction rest generalizing mode offset with
  | nil => exact wellFormed_of_mem_ended form offset
  | cons c rest inductionHypothesis =>
      intro located member
      have sound := sound_read form offset c
      rcases List.mem_append.mp member with now | later
      · exact sound.1 located now
      · exact inductionHypothesis sound.2 _ located later

end Mode

end Lexeme

namespace Token

/-- The form of a token that a source can have. -/
inductive WellFormed : Token → Prop where
  | name
      {text : String}
      {span : Span} :
      text ≠ "" →
      Text.trim text = text →
      Number.parse? text = none →
      WellFormed (name text span)
  | quotation
      {quote : Quote}
      {text : String}
      {span : Span} :
      WellFormed (quotation quote text span)
  | number
      {value : Number}
      {span : Span} :
      value.isFinite = true →
      WellFormed (number value span)
  | operator
      {text : String}
      {span : Span} :
      Lexeme.IsOperator text →
      WellFormed (operator text span)
  | block
      {bracket : Bracket}
      {tokens : List Token}
      {span : Span} :
      (∀ token ∈ tokens, WellFormed token) →
      WellFormed (block bracket tokens span)
  | separator
      {span : Span} :
      WellFormed (separator span)

theorem wellFormed_of_mem_ofWord
    {word : String}
    {span : Span}
    {token : Token}
    (member : token ∈ ofWord word span) :
    token.WellFormed ∧ token.isSeparator = false := by
  unfold ofWord at member
  dsimp only at member
  split at member
  · cases member
  · rename_i some
    cases read : Number.parse? (Text.trim word) with
    | none =>
        rw [read] at member
        rw [List.mem_singleton.mp member]
        exact ⟨.name some (Text.trim_trim word) read, rfl⟩
    | some value =>
        rw [read] at member
        rw [List.mem_singleton.mp member]
        have finite : value.isFinite = true :=
          (Option.filter_eq_some_iff.mp read).2
        exact ⟨.number finite, rfl⟩

/-- A closing bracket that closes nothing is a name of the right form. -/
theorem wellFormed_stray
    (bracket : Bracket)
    (span : Span) :
    WellFormed (.name (String.singleton bracket.closing) span) := by
  apply WellFormed.name
  · exact String.singleton_ne_empty
  · cases bracket <;> decide
  · cases bracket <;> decide

end Token

namespace Nesting

/-- The form of a sequence outside all blocks, where no comma stands. -/
def Outermost (tokens : List Token) : Prop :=
  ∀ token ∈ tokens, token.WellFormed ∧ token.isSeparator = false

/-- The form of a sequence under way and of the sequences around it. -/
def Fits : List Token → List OpenBlock → Prop
  | tokens, [] => Outermost tokens
  | tokens, innermost :: outer =>
      (∀ token ∈ tokens, token.WellFormed) ∧ Fits innermost.before outer

namespace Fits

theorem openBlock
    {tokens : List Token}
    {opened : List OpenBlock}
    (fits : Fits tokens opened)
    (bracket : Bracket)
    (start : Nat) :
    Fits [] (⟨bracket, start, tokens⟩ :: opened) :=
  ⟨fun _ member => absurd member List.not_mem_nil, fits⟩

theorem append
    {tokens added : List Token}
    {opened : List OpenBlock}
    (fits : Fits tokens opened)
    (form : Outermost added) :
    Fits (tokens ++ added) opened := by
  cases opened with
  | nil =>
      intro token member
      rcases List.mem_append.mp member with before | new
      · exact fits token before
      · exact form token new
  | cons innermost outer =>
      refine ⟨?_, fits.2⟩
      intro token member
      rcases List.mem_append.mp member with before | new
      · exact fits.1 token before
      · exact (form token new).1

theorem single
    {tokens : List Token}
    {opened : List OpenBlock}
    (fits : Fits tokens opened)
    {added : Token}
    (form : added.WellFormed)
    (notComma : added.isSeparator = false) :
    Fits (tokens ++ [added]) opened := by
  apply fits.append
  intro token member
  rw [List.mem_singleton.mp member]
  exact ⟨form, notComma⟩

/-- Inside a block a comma may stand. -/
theorem separator
    {tokens : List Token}
    {innermost : OpenBlock}
    {outer : List OpenBlock}
    (fits : Fits tokens (innermost :: outer))
    (span : Span) :
    Fits (tokens ++ [.separator span]) (innermost :: outer) := by
  refine ⟨?_, fits.2⟩
  intro token member
  rcases List.mem_append.mp member with before | comma
  · exact fits.1 token before
  · rw [List.mem_singleton.mp comma]
    exact .separator

theorem closed
    {tokens : List Token}
    {innermost : OpenBlock}
    {outer : List OpenBlock}
    (fits : Fits tokens (innermost :: outer))
    (stop : Nat) :
    Fits (innermost.closed tokens stop) outer :=
  fits.2.single (.block fits.1) rfl

/-- Closing all open blocks gives a sequence without commas of its own. -/
theorem closeAll
    {tokens : List Token}
    {opened : List OpenBlock}
    (fits : Fits tokens opened)
    (stop : Nat) :
    Outermost (Nesting.closeAll stop tokens opened) := by
  induction opened generalizing tokens with
  | nil => exact fits
  | cons innermost outer inductionHypothesis =>
      exact inductionHypothesis (fits.closed stop)

end Fits

/-- One lexeme keeps the form of the sequences under way, and a sequence that it
completes has the form of an instruction. -/
theorem fits_take
    {nesting : Nesting}
    (fits : Fits nesting.tokens nesting.opened)
    {located : Located Lexeme}
    (form : located.value.WellFormed) :
    (∀ sequence ∈ (nesting.take located).1, Outermost sequence) ∧
      Fits (nesting.take located).2.tokens (nesting.take located).2.opened := by
  obtain ⟨opened, tokens⟩ := nesting
  obtain ⟨lexeme, span⟩ := located
  have nothing : ∀ sequence ∈ (none : Option (List Token)), Outermost sequence :=
    fun sequence complete => absurd complete (Option.not_mem_none sequence)
  cases lexeme with
  | opening bracket =>
      exact ⟨nothing, fits.openBlock bracket span.start⟩
  | closing bracket =>
      refine ⟨nothing, ?_⟩
      cases opened with
      | nil => exact fits.single (Token.wellFormed_stray bracket span) rfl
      | cons innermost outer =>
          change Fits (Nesting.closeBlock ⟨innermost :: outer, tokens⟩ bracket span).tokens
            (Nesting.closeBlock ⟨innermost :: outer, tokens⟩ bracket span).opened
          unfold closeBlock
          dsimp only
          split
          · exact fits.closed span.stop
          · exact fits.single (Token.wellFormed_stray bracket span) rfl
  | comma =>
      cases opened with
      | nil =>
          constructor
          · intro sequence complete
            cases complete
            exact fits
          · exact fun _ member => absurd member List.not_mem_nil
      | cons innermost outer =>
          exact ⟨nothing, fits.separator span⟩
  | operator text =>
      exact ⟨nothing, fits.single (.operator form) rfl⟩
  | quotation quote text =>
      exact ⟨nothing, fits.single .quotation rfl⟩
  | word text =>
      exact ⟨nothing,
        fits.append fun _ member => Token.wellFormed_of_mem_ofWord member⟩

theorem wellFormed_of_mem_sequences
    {nesting : Nesting}
    (fits : Fits nesting.tokens nesting.opened)
    (stop : Nat)
    {lexemes : List (Located Lexeme)}
    (form : ∀ located ∈ lexemes, located.value.WellFormed) :
    ∀ sequence ∈ nesting.sequences stop lexemes, Outermost sequence := by
  induction lexemes generalizing nesting stop with
  | nil =>
      intro sequence member
      rw [List.mem_singleton.mp member]
      exact fits.closeAll stop
  | cons located rest inductionHypothesis =>
      intro sequence member
      have kept := fits_take fits (form located List.mem_cons_self)
      rcases List.mem_append.mp member with now | later
      · exact kept.1 sequence (Option.mem_toList.mp now)
      · exact inductionHypothesis kept.2 _
          (fun other among => form other (List.mem_cons_of_mem located among))
          sequence later

end Nesting

namespace Instruction

/-- The form of an instruction that a source can have. -/
structure WellFormed (instruction : Instruction) : Prop where
  someTokens : instruction.tokens ≠ []
  tokens : ∀ token ∈ instruction.tokens, token.WellFormed
  noCommas : ∀ token ∈ instruction.tokens, token.isSeparator = false

theorem ofTokens?_eq_some
    {source : String}
    {tokens : List Token}
    {instruction : Instruction}
    (made : ofTokens? source tokens = some instruction) :
    instruction.tokens = tokens ∧ tokens ≠ [] := by
  unfold ofTokens? at made
  split at made
  · rename_i first last atHead atLast
    cases made
    refine ⟨rfl, ?_⟩
    intro nothing
    rw [nothing] at atHead
    cases atHead
  · cases made

end Instruction

theorem mem_instructions
    {source : String}
    {instruction : Instruction}
    (member : instruction ∈ instructions source) :
    instruction.tokens ∈ Nesting.start.sequences 0 (lexemes source) ∧
      instruction.tokens ≠ [] := by
  obtain ⟨tokens, among, made⟩ := List.mem_filterMap.mp member
  obtain ⟨same, some⟩ := Instruction.ofTokens?_eq_some made
  rw [same]
  exact ⟨among, some⟩

/-- Every instruction of a source has the form that its text needs. -/
theorem wellFormed_of_mem_instructions
    {source : String}
    {instruction : Instruction}
    (member : instruction ∈ instructions source) :
    instruction.WellFormed := by
  obtain ⟨among, some⟩ := mem_instructions member
  have startFits : Nesting.Fits Nesting.start.tokens Nesting.start.opened :=
    fun _ none => absurd none List.not_mem_nil
  have idleForm : Lexeme.Mode.idle.WellFormed := True.intro
  have lexed : ∀ located ∈ lexemes source, located.value.WellFormed :=
    Lexeme.Mode.wellFormed_of_mem_readAll idleForm 0 source.toList
  have form := Nesting.wellFormed_of_mem_sequences startFits 0 lexed _ among
  exact ⟨some, fun token has => (form token has).1, fun token has => (form token has).2⟩

end DataBinding
