import DataBinding.Instruction.Command
import DataBinding.Proofs.BlockReading
import Mathlib.Data.List.Forall2

namespace DataBinding

/-!
# The parts of instructions

An instruction is written from parts: a subject and an action, and around them a
negation, a parameter, arguments and a condition that may be negated by itself.
Several parts begin with tokens of the same kinds.  Nevertheless each part ends
where the next one begins, so that no tokens are written by two instructions.
-/

/-- A negation as it is written. -/
inductive Negation where
  | once
  | twice
  deriving Repr, DecidableEq

namespace Negation

/-- The operator of a negation. -/
def text : Negation → String
  | once => "!"
  | twice => "!!"

/-- How often a negation negates. -/
def count : Negation → Nat
  | once => 1
  | twice => 2

/-- The token of a negation. -/
def token (negation : Located Negation) : Token :=
  .operator negation.value.text negation.span

/-- The tokens of a negation that may be missing. -/
def tokens (negation? : Option (Located Negation)) : List Token :=
  (negation?.map token).toList

@[simp]
theorem tokens_none :
    tokens none = [] :=
  rfl

@[simp]
theorem tokens_some (negation : Located Negation) :
    tokens (some negation) = [.operator negation.value.text negation.span] :=
  rfl

/-- How often a negation that may be missing negates. -/
def countOf (negation? : Option (Located Negation)) : Nat :=
  (negation?.map fun negation => negation.value.count).getD 0

end Negation

namespace Token

/-- Whether a token is a name or a text. -/
def isPlain : Token → Bool
  | name _ _ => true
  | quotation _ _ _ => true
  | number _ _ => true
  | _ => false

theorem operator?_of_isOperand
    {token : Token}
    (isOperand : token.isOperand = true) :
    token.operator? = none := by
  cases token with
  | operator _ _ | separator _ =>
      cases isOperand
  | name _ _ | quotation _ _ _ | number _ _ | block _ _ _ =>
      rfl

/-- The action that a token names, with the parameter in its word. -/
def action? (token : Token) : Option (Action × Option String) :=
  token.actionWord?.bind Action.resolve?

/-- The block around some tokens. -/
def blockAround
    (bracket : Bracket)
    (inside : Located (List Token)) : Token :=
  .block bracket inside.value inside.span

/-- The tokens of a block that may be missing. -/
def blockTokens
    (bracket : Bracket)
    (inside? : Option (Located (List Token))) : List Token :=
  (inside?.map (blockAround bracket)).toList

@[simp]
theorem blockTokens_none (bracket : Bracket) :
    blockTokens bracket none = [] :=
  rfl

@[simp]
theorem blockTokens_some
    (bracket : Bracket)
    (inside : Located (List Token)) :
    blockTokens bracket (some inside) = [.block bracket inside.value inside.span] :=
  rfl

/-- The groups of tokens in a block of arguments, which separators part. -/
def argumentGroups (tokens : List Token) : List (List Token) :=
  if tokens.isEmpty then
    []
  else
    tokens.splitOnP isSeparator

end Token

/-- The subject of an instruction as it is written. -/
inductive SubjectPart where
  | comparison (left operator right : Token)
  | single (token : Token)
  deriving Repr

namespace SubjectPart

/-- The tokens of a subject. -/
def tokens : SubjectPart → List Token
  | comparison left operator right => [left, operator, right]
  | single token => [token]

/-- The operand in front of a subject. -/
def operand : SubjectPart → Token
  | comparison left _ _ => left
  | single token => token

/-- Whether a subject may stand in front of some tokens.  A single token may not if
it is the left side of a comparison. -/
def Fits (following : List Token) : SubjectPart → Prop
  | comparison left operator right =>
      left.isOperand = true ∧ operator.isComparison = true ∧ right.isPlain = true
  | single token =>
      token.isOperand = true ∧ Token.startsComparison (token :: following) = false

/-- The value of a subject in a context, and the path it comes from. -/
inductive Gives (context : Context) : SubjectPart → Token.Subject → Prop where
  | comparison
      {left right : Token}
      {text : String}
      {span : Span}
      {relation : Relation}
      {leftValue rightValue : Value} :
      left.value context = .ok leftValue →
      Relation.StandsFor text relation →
      right.plainValue? context = some rightValue →
      Gives context (.comparison left (.operator text span) right)
        ⟨.bool (relation.holds leftValue.toScalar rightValue.toScalar), none⟩
  | name
      (path : String)
      (span : Span) :
      Gives context (.single (.name path span)) ⟨context.lookup path, some path⟩
  | unnamed
      {token : Token}
      {value : Value} :
      (∀ path span, token ≠ .name path span) →
      token.value context = .ok value →
      Gives context (.single token) ⟨value, none⟩

/-- A subject begins with an operand, whatever stands behind it. -/
theorem Fits.operator?_first
    {subject : SubjectPart}
    {following : List Token}
    (fits : subject.Fits following)
    (rest : List Token) :
    ∀ token ∈ (subject.tokens ++ rest).head?, token.operator? = none := by
  have operandFirst :
      (subject.tokens ++ rest).head? = some subject.operand ∧
        subject.operand.isOperand = true := by
    cases subject with
    | comparison left operator right =>
        exact ⟨rfl, fits.1⟩
    | single token =>
        exact ⟨rfl, fits.1⟩
  intro token first
  obtain rfl : subject.operand = token := by
    simpa [operandFirst.1] using first
  exact Token.operator?_of_isOperand operandFirst.2

end SubjectPart

/-- The parts of an instruction. -/
structure CommandParts where
  negation? : Option (Located Negation)
  subject : SubjectPart
  action : Token
  parameter? : Option Token
  arguments? : Option (Located (List Token))
  conditionNegation? : Option (Located Negation)
  condition? : Option (Located (List Token))
  deriving Repr

namespace CommandParts

/-- The tokens behind the arguments. -/
def guardTokens (parts : CommandParts) : List Token :=
  Negation.tokens parts.conditionNegation? ++ Token.blockTokens .brace parts.condition?

/-- The tokens behind the parameter. -/
def argumentTokens (parts : CommandParts) : List Token :=
  Token.blockTokens .round parts.arguments? ++ parts.guardTokens

/-- The tokens behind the subject. -/
def actionTokens (parts : CommandParts) : List Token :=
  parts.action :: (parts.parameter?.toList ++ parts.argumentTokens)

/-- All tokens of the parts. -/
def tokens (parts : CommandParts) : List Token :=
  Negation.tokens parts.negation? ++ (parts.subject.tokens ++ parts.actionTokens)

/--
Whether parts may stand together.  There is a parameter only for an action that
has none in its word, and there are arguments only for events and calls.
-/
structure IsGrammatical (parts : CommandParts) : Prop where
  subject :
    parts.subject.Fits parts.actionTokens
  action :
    ∃ action embedded,
      parts.action.action? = some (action, embedded) ∧
        (parts.parameter?.isSome → embedded = none) ∧
        (parts.arguments?.isSome → action = .event ∨ action = .call)
  parameter :
    ∀ token ∈ parts.parameter?, token.isPlain = true

/-- Whether tokens split into parts with nothing left over. -/
structure Splits
    (parts : CommandParts)
    (tokens : List Token) : Prop where
  written :
    parts.tokens = tokens
  grammatical :
    parts.IsGrammatical

/-- Whether all that has to be evaluated in the parts has a value. -/
structure Evaluates
    (context : Context)
    (parts : CommandParts) : Prop where
  operand :
    ∃ value, parts.subject.operand.value context = .ok value
  arguments :
    ∀ inside ∈ parts.arguments?,
      ∀ group ∈ Token.argumentGroups inside.value,
        ∃ value, Token.argument context group = .ok value
  condition :
    ∀ inside ∈ parts.condition?, ∃ truth, Token.truth context inside.value = .ok truth

/-- Whether arguments have values.  Without a block there are none. -/
def ArgumentsGive
    (context : Context)
    (arguments? : Option (Located (List Token)))
    (values : List Value) : Prop :=
  List.Forall₂ (fun group value => Token.argument context group = .ok value)
    ((arguments?.map fun inside => Token.argumentGroups inside.value).getD []) values

/-- Whether a condition has a truth value.  Without a block it is true. -/
def ConditionGives
    (context : Context) :
    Option (Located (List Token)) → Bool → Prop
  | some inside, truth => Token.truth context inside.value = .ok truth
  | none, truth => truth = true

/-- Whether a command is read off parts in a context. -/
structure Asks
    (context : Context)
    (parts : CommandParts)
    (command : Command) : Prop where
  negations :
    command.negations = Negation.countOf parts.negation?
  subject :
    ∃ value,
      parts.subject.Gives context ⟨value, command.path?⟩ ∧
        command.value = value.toScalar.negate command.negations
  action :
    ∃ embedded,
      parts.action.action? = some (command.action, embedded) ∧
        command.parameter? = (parts.parameter?.bind Token.parameterText?).or embedded
  arguments :
    ArgumentsGive context parts.arguments? command.arguments
  condition :
    ∃ truth,
      ConditionGives context parts.condition? truth ∧
        command.condition =
          (truth ^^ decide (Negation.countOf parts.conditionNegation? % 2 = 1))

/-!
## Every part ends where the next one begins
-/

theorem operator?_first_subject
    {parts : CommandParts}
    (grammatical : parts.IsGrammatical) :
    ∀ token ∈ (parts.subject.tokens ++ parts.actionTokens).head?,
      token.operator? = none :=
  grammatical.subject.operator?_first parts.actionTokens

theorem isPlain_first_argumentTokens
    (parts : CommandParts) :
    ∀ token ∈ parts.argumentTokens.head?, token.isPlain = false := by
  intro token first
  rw [argumentTokens, guardTokens] at first
  cases arguments : parts.arguments? <;>
    cases negation : parts.conditionNegation? <;>
      cases condition : parts.condition? <;>
        simp_all <;>
          subst first <;> rfl

theorem block_first_guardTokens
    (parts : CommandParts)
    (inside : List Token)
    (span : Span) :
    parts.guardTokens.head? ≠ some (.block .round inside span) := by
  rw [guardTokens]
  cases parts.conditionNegation? <;> cases parts.condition? <;> simp

theorem operator?_first_condition
    (condition? : Option (Located (List Token))) :
    ∀ token ∈ (Token.blockTokens .brace condition?).head?, token.operator? = none := by
  cases condition? <;> simp [Token.operator?]

end CommandParts

/-!
## No tokens are written by two
-/

/-- An optional token is told from what follows when it is of a kind of which nothing
follows. -/
theorem toList_append_inj
    {ofKind : Token → Prop}
    {first second : Option Token}
    {rest rest' : List Token}
    (kind : ∀ token ∈ first, ofKind token)
    (kind' : ∀ token ∈ second, ofKind token)
    (ends : ∀ token ∈ rest.head?, ¬ofKind token)
    (ends' : ∀ token ∈ rest'.head?, ¬ofKind token)
    (same : first.toList ++ rest = second.toList ++ rest') :
    first = second ∧ rest = rest' := by
  match first, second with
  | none, none =>
      exact ⟨rfl, same⟩
  | some token, none =>
      obtain rfl : token :: rest = rest' := same
      exact absurd (kind token rfl) (ends' token rfl)
  | none, some token =>
      obtain rfl : rest = token :: rest' := same
      exact absurd (kind' token rfl) (ends token rfl)
  | some token, some token' =>
      obtain ⟨rfl, rfl⟩ : token = token' ∧ rest = rest' := by
        simpa using same
      exact ⟨rfl, rfl⟩

theorem Negation.token_injective :
    Function.Injective Negation.token := by
  rintro ⟨negation, span⟩ ⟨negation', span'⟩ same
  cases negation <;> cases negation' <;> simp_all [token, text]

theorem Token.blockAround_injective
    (bracket : Bracket) :
    Function.Injective (blockAround bracket) := by
  rintro ⟨inside, span⟩ ⟨inside', span'⟩ same
  simpa [blockAround] using same

theorem Negation.tokens_append_inj
    {first second : Option (Located Negation)}
    {rest rest' : List Token}
    (ends : ∀ token ∈ rest.head?, token.operator? = none)
    (ends' : ∀ token ∈ rest'.head?, token.operator? = none)
    (same : tokens first ++ rest = tokens second ++ rest') :
    first = second ∧ rest = rest' := by
  have isOperator (negation? : Option (Located Negation)) :
      ∀ written ∈ negation?.map token, written.operator? ≠ none := by
    cases negation? <;> simp [token, Token.operator?]
  obtain ⟨sameToken, sameRest⟩ :=
    toList_append_inj (isOperator first) (isOperator second)
      (by simpa using ends) (by simpa using ends') same
  exact ⟨Option.map_injective token_injective sameToken, sameRest⟩

theorem Token.blockTokens_append_inj
    {bracket : Bracket}
    {first second : Option (Located (List Token))}
    {rest rest' : List Token}
    (ends : ∀ inside span, rest.head? ≠ some (.block bracket inside span))
    (ends' : ∀ inside span, rest'.head? ≠ some (.block bracket inside span))
    (same : blockTokens bracket first ++ rest = blockTokens bracket second ++ rest') :
    first = second ∧ rest = rest' := by
  have isBlock (inside? : Option (Located (List Token))) :
      ∀ token ∈ inside?.map (blockAround bracket),
        ∃ inside span, token = .block bracket inside span := by
    cases inside? <;> simp [blockAround]
  have noBlock
      {tokens : List Token}
      (ends : ∀ inside span, tokens.head? ≠ some (.block bracket inside span)) :
      ∀ token ∈ tokens.head?, ¬∃ inside span, token = .block bracket inside span := by
    intro token first isBlock
    obtain ⟨inside, span, rfl⟩ := isBlock
    exact ends inside span first
  obtain ⟨sameToken, sameRest⟩ :=
    toList_append_inj (isBlock first) (isBlock second) (noBlock ends) (noBlock ends') same
  exact ⟨Option.map_injective (blockAround_injective bracket) sameToken, sameRest⟩

/-- A comparison and a single token are told apart by whether the tokens begin a
comparison. -/
theorem SubjectPart.tokens_append_inj
    {first second : SubjectPart}
    {rest rest' : List Token}
    (fits : first.Fits rest)
    (fits' : second.Fits rest')
    (same : first.tokens ++ rest = second.tokens ++ rest') :
    first = second ∧ rest = rest' := by
  match first, second with
  | comparison left operator right, comparison left' operator' right' =>
      obtain ⟨rfl, rfl, rfl, rfl⟩ :
          left = left' ∧ operator = operator' ∧ right = right' ∧ rest = rest' := by
        simpa [tokens] using same
      exact ⟨rfl, rfl⟩
  | single token, single token' =>
      obtain ⟨rfl, rfl⟩ : token = token' ∧ rest = rest' := by
        simpa [tokens] using same
      exact ⟨rfl, rfl⟩
  | comparison left operator right, single token =>
      obtain ⟨rfl, rfl⟩ : left = token ∧ operator :: right :: rest = rest' := by
        simpa [tokens] using same
      have startsNot := fits'.2
      rw [Token.startsComparison, fits.1, fits.2.1] at startsNot
      cases startsNot
  | single token, comparison left operator right =>
      obtain ⟨rfl, rfl⟩ : token = left ∧ rest = operator :: right :: rest' := by
        simpa [tokens] using same
      have startsNot := fits.2
      rw [Token.startsComparison, fits'.1, fits'.2.1] at startsNot
      cases startsNot

/-- The parts that tokens split into are unique. -/
theorem CommandParts.Splits.unique
    {parts parts' : CommandParts}
    {tokens : List Token}
    (splits : parts.Splits tokens)
    (splits' : parts'.Splits tokens) :
    parts = parts' := by
  obtain ⟨written, grammatical⟩ := splits
  obtain ⟨written', grammatical'⟩ := splits'
  have same : parts.tokens = parts'.tokens := written.trans written'.symm
  obtain ⟨sameNegation, same⟩ :=
    Negation.tokens_append_inj (operator?_first_subject grammatical)
      (operator?_first_subject grammatical') same
  obtain ⟨sameSubject, same⟩ :=
    SubjectPart.tokens_append_inj grammatical.subject grammatical'.subject same
  obtain ⟨sameAction, same⟩ := List.cons.inj same
  obtain ⟨sameParameter, same⟩ :=
    toList_append_inj grammatical.parameter grammatical'.parameter
      (by simpa using parts.isPlain_first_argumentTokens)
      (by simpa using parts'.isPlain_first_argumentTokens) same
  obtain ⟨sameArguments, same⟩ :=
    Token.blockTokens_append_inj parts.block_first_guardTokens
      parts'.block_first_guardTokens same
  obtain ⟨sameConditionNegation, same⟩ :=
    Negation.tokens_append_inj (operator?_first_condition parts.condition?)
      (operator?_first_condition parts'.condition?) same
  have sameCondition : parts.condition? = parts'.condition? := by
    have closed :
        Token.blockTokens .brace parts.condition? ++ [] =
          Token.blockTokens .brace parts'.condition? ++ [] := by
      rw [same]
    exact (Token.blockTokens_append_inj (by simp) (by simp) closed).1
  cases parts
  cases parts'
  simp_all

end DataBinding
