import DataBinding.Proofs.CommandGrammar

namespace DataBinding

/-!
# The guard of a command

A guard is a condition at the end of an instruction, and a single `!` in front of it
turns it round.  The action `!` is written in the same way, so a `!` belongs to the
guard only if the tokens before it are an instruction by themselves.  Without a block
such a `!` is read nevertheless, and what it turns round is then the truth of a
condition that is not there.
-/

/-!
## The tokens in front of a guard
-/

/-- No comparison operator names an action. -/
theorem Relation.resolve?_operator
    (relation : Relation) :
    Action.resolve? relation.operator = none := by
  cases relation <;> rfl

theorem Token.isComparison_of_action?
    {token : Token}
    {named : Action × Option String}
    (names : token.action? = some named) :
    token.isComparison = false := by
  cases token with
  | operator text span =>
      have resolved : Action.resolve? text = some named := names
      cases asked : Relation.ofOperator? text with
      | none =>
          simp [isComparison, relation?, operator?, asked]
      | some relation =>
          rw [← Relation.operator_of_ofOperator? asked, relation.resolve?_operator] at resolved
          cases resolved
  | name _ _ | quotation _ _ _ | number _ _ | block _ _ _ | separator _ =>
      rfl

/-- Whether a subject may stand in front of some tokens depends only on the first of
them when that is no comparison operator. -/
theorem SubjectPart.Fits.behind
    {subject : SubjectPart}
    {first : Token}
    {rest : List Token}
    (fits : subject.Fits (first :: rest))
    (noComparison : first.isComparison = false)
    (rest' : List Token) :
    subject.Fits (first :: rest') := by
  cases subject with
  | comparison left operator right =>
      exact fits
  | single token =>
      refine ⟨fits.1, ?_⟩
      cases rest' with
      | nil =>
          rfl
      | cons second others =>
          simp [Token.startsComparison, noComparison]

namespace CommandParts

/-- The parts of an instruction but for its guard. -/
def body (parts : CommandParts) : CommandParts :=
  { parts with
    conditionNegation? := none
    condition? := none }

theorem tokens_eq_body_append
    (parts : CommandParts) :
    parts.tokens = parts.body.tokens ++ parts.guardTokens := by
  simp [tokens, actionTokens, argumentTokens, guardTokens, body]

theorem IsGrammatical.body
    {parts : CommandParts}
    (grammatical : parts.IsGrammatical) :
    parts.body.IsGrammatical where
  subject := by
    obtain ⟨_, _, names, _⟩ := grammatical.action
    exact grammatical.subject.behind (Token.isComparison_of_action? names) _
  action := grammatical.action
  parameter := grammatical.parameter

theorem tokens_body
    (parts : CommandParts) :
    parts.body.tokens =
      Negation.tokens parts.negation? ++ parts.subject.tokens ++ [parts.action] ++
        parts.parameter?.toList ++ Token.blockTokens .round parts.arguments? := by
  simp [body, tokens, actionTokens, argumentTokens, guardTokens]

/-- A body ends in its arguments, in its parameter, or in an action behind the
subject. -/
theorem last_body
    {parts : CommandParts}
    (grammatical : parts.IsGrammatical)
    {front : List Token}
    {last : Token}
    (written : parts.body.tokens = front ++ [last]) :
    (∃ inside span, last = .block .round inside span) ∨
      last.isPlain = true ∨
      last = parts.action ∧ front = Negation.tokens parts.negation? ++ parts.subject.tokens := by
  rw [tokens_body] at written
  cases arguments : parts.arguments? with
  | some inside =>
      rw [arguments, Token.blockTokens_some] at written
      obtain ⟨-, ⟨⟩⟩ := List.append_inj' written rfl
      exact .inl ⟨_, _, rfl⟩
  | none =>
      rw [arguments, Token.blockTokens_none, List.append_nil] at written
      cases parameter : parts.parameter? with
      | some token =>
          rw [parameter, Option.toList_some] at written
          obtain ⟨-, ⟨⟩⟩ := List.append_inj' written rfl
          exact .inr (.inl (grammatical.parameter _ parameter))
      | none =>
          rw [parameter, Option.toList_none, List.append_nil] at written
          obtain ⟨sameFront, ⟨⟩⟩ := List.append_inj' written rfl
          exact .inr (.inr ⟨rfl, sameFront.symm⟩)

/-- A body does not end in a block that could be a condition. -/
theorem body_ne_append_block
    {parts : CommandParts}
    (grammatical : parts.IsGrammatical)
    (before inside : List Token)
    (span : Span) :
    parts.body.tokens ≠ before ++ [.block .brace inside span] := by
  intro written
  rcases last_body grammatical written with ⟨_, _, ⟨⟩⟩ | ⟨⟨⟩⟩ | ⟨isAction, -⟩
  obtain ⟨_, _, names, _⟩ := grammatical.action
  rw [← isAction] at names
  cases names

/-- The condition of an instruction is the block that it ends in. -/
theorem condition_of_last_block
    {parts : CommandParts}
    (grammatical : parts.IsGrammatical)
    {before inside : List Token}
    {span : Span}
    (written : parts.tokens = before ++ [.block .brace inside span]) :
    parts.condition? = some ⟨inside, span⟩ ∧
      before = parts.body.tokens ++ Negation.tokens parts.conditionNegation? := by
  rw [tokens_eq_body_append, guardTokens, ← List.append_assoc] at written
  cases condition : parts.condition? with
  | some held =>
      rw [condition, Token.blockTokens_some] at written
      obtain ⟨sameFront, ⟨⟩⟩ := List.append_inj' written rfl
      exact ⟨rfl, sameFront.symm⟩
  | none =>
      rw [condition, Token.blockTokens_none, List.append_nil] at written
      cases negation : parts.conditionNegation? with
      | some held =>
          rw [negation, Negation.tokens_some] at written
          obtain ⟨-, ⟨⟩⟩ := List.append_inj' written rfl
      | none =>
          rw [negation, Negation.tokens_none, List.append_nil] at written
          exact (body_ne_append_block grammatical before inside span written).elim

end CommandParts

/-!
## Negations in front of a guard
-/

namespace Token

/-- Whether tokens are an instruction by themselves, whatever it evaluates to. -/
def AreInstruction (tokens : List Token) : Prop :=
  ∃ parts : CommandParts, parts.Splits tokens

/-- Whether tokens end in a negation of what is behind them: a `!` that is no action,
as there is an instruction in front of it already. -/
def EndInNegation (tokens : List Token) : Prop :=
  ∃ front span, tokens = front ++ [.operator "!" span] ∧ AreInstruction front

/-- A subject without an action is no instruction. -/
theorem not_areInstruction_subject
    {subject : SubjectPart}
    {following : List Token}
    (fits : subject.Fits following)
    (negation? : Option (Located Negation)) :
    ¬ AreInstruction (Negation.tokens negation? ++ subject.tokens) := by
  rintro ⟨parts, ⟨written, grammatical⟩⟩
  have fitsAlone : subject.Fits [] := by
    cases subject with
    | comparison left operator right =>
        exact fits
    | single token =>
        exact ⟨fits.1, rfl⟩
  rw [← List.append_nil subject.tokens] at written
  obtain ⟨-, sameSubject⟩ :=
    Negation.tokens_append_inj (CommandParts.operator?_first_subject grammatical)
      (fits.operator?_first []) written
  obtain ⟨-, noAction⟩ :=
    SubjectPart.tokens_append_inj grammatical.subject fitsAlone sameSubject
  cases noAction

end Token

namespace CommandParts

/-- What stands in front of the condition ends in a negation exactly when the condition
is negated once. -/
theorem endInNegation_iff
    {parts : CommandParts}
    (grammatical : parts.IsGrammatical) :
    Token.EndInNegation
        (parts.body.tokens ++ Negation.tokens parts.conditionNegation?) ↔
      Negation.countOf parts.conditionNegation? % 2 = 1 := by
  cases negation : parts.conditionNegation? with
  | none =>
      -- a `!` at the end of the body is the action, and a subject is no instruction
      rw [Negation.tokens_none, List.append_nil]
      refine iff_of_false ?_ (by decide)
      rintro ⟨front, span, written, areInstruction⟩
      rcases last_body grammatical written with ⟨_, _, ⟨⟩⟩ | ⟨⟨⟩⟩ | ⟨-, rfl⟩
      exact Token.not_areInstruction_subject grammatical.subject _ areInstruction
  | some held =>
      rw [Negation.tokens_some]
      obtain ⟨held, place⟩ := held
      cases held with
      | once =>
          exact iff_of_true ⟨_, place, rfl, parts.body, rfl, grammatical.body⟩ rfl
      | twice =>
          refine iff_of_false ?_ (by simp [Negation.countOf, Negation.count])
          rintro ⟨front, span, written, -⟩
          obtain ⟨-, sameToken⟩ := List.append_inj' written rfl
          simp [Negation.text] at sameToken

end CommandParts

/--
The guard of a command means what it says.  When an instruction ends in a block in
braces, the block has a truth value, and the condition is that value, turned round
exactly when a negation stands in front of the block.  Without such a block the
condition is true, unless the instruction ends in a negation, which makes it false.
-/
theorem condition_readsGuard
    {context : Context}
    {instruction : Instruction}
    {command : Command}
    (taken : instruction.command context = .ok command) :
    (∀ before inside span,
        instruction.tokens = before ++ [.block .brace inside span] →
        ∃ truth,
          Token.truth context inside = .ok truth ∧
            (command.condition = !truth ↔ Token.EndInNegation before)) ∧
      ((∀ before inside span,
          instruction.tokens ≠ before ++ [.block .brace inside span]) →
        (command.condition = false ↔ Token.EndInNegation instruction.tokens)) := by
  obtain ⟨parts, ⟨written, grammatical⟩, asks⟩ :=
    Token.exists_splits_of_command (mapError_eq_ok_iff.mp taken)
  have negated := CommandParts.endInNegation_iff grammatical
  obtain ⟨truth, given, shape⟩ := asks.condition
  have turnedRound :
      command.condition = !truth ↔
        Token.EndInNegation
          (parts.body.tokens ++ Negation.tokens parts.conditionNegation?) := by
    rw [negated, shape]
    cases truth <;> simp
  constructor
  · intro before inside span ending
    obtain ⟨condition, rfl⟩ :=
      CommandParts.condition_of_last_block grammatical (written.trans ending)
    rw [condition] at given
    exact ⟨truth, given, turnedRound⟩
  · intro noBlock
    cases condition : parts.condition? with
    | some inside =>
        refine (noBlock (parts.body.tokens ++ Negation.tokens parts.conditionNegation?)
          inside.value inside.span ?_).elim
        rw [← written, CommandParts.tokens_eq_body_append, CommandParts.guardTokens, condition,
          Token.blockTokens_some, ← List.append_assoc]
    | none =>
        rw [condition] at given
        obtain rfl : truth = true := given
        rw [← written, CommandParts.tokens_eq_body_append, CommandParts.guardTokens, condition,
          Token.blockTokens_none, List.append_nil]
        exact turnedRound

/-- Of two exclamation marks the first one is the action and the second one turns the
condition round. -/
theorem condition_readsGuard_removal :
    let context : Context := .ofData (.object [("name", .string "Ann"), ("paid", .bool true)])
    let before : List Token :=
      [.name "name" ⟨0, 4⟩, .operator "!" ⟨5, 6⟩, .operator "!" ⟨7, 8⟩]
    let inside : List Token := [.name "paid" ⟨9, 13⟩]
    let instruction : Instruction :=
      ⟨"name ! !\x7bpaid\x7d", ⟨0, 14⟩, before ++ [.block .brace inside ⟨8, 14⟩]⟩
    instructions "name ! !\x7bpaid\x7d" = [instruction] ∧
      ∃ command,
        instruction.command context = .ok command ∧
          Token.truth context inside = .ok true ∧
          command.condition = false ∧
          Token.EndInNegation before := by
  intro context before inside instruction
  have taken :
      instruction.command context =
        .ok ⟨.remove, .string "Ann", 0, some "name", none, [], false⟩ := rfl
  have held : Token.truth context inside = .ok true := rfl
  obtain ⟨truth, evaluated, turnedRound⟩ :=
    (condition_readsGuard taken).1 before inside ⟨8, 14⟩ rfl
  obtain rfl : true = truth := Except.ok.inj (held.symm.trans evaluated)
  exact ⟨rfl, _, taken, held, rfl, turnedRound.mp rfl⟩

/-- A negation at the end of an instruction without a condition makes the command
inactive, although no condition asks for that. -/
theorem condition_loneNegation_isFalse :
    let context : Context := .ofData (.object [("name", .string "Ann")])
    let instruction : Instruction :=
      ⟨"name . !", ⟨0, 8⟩,
        [.name "name" ⟨0, 4⟩, .name "." ⟨5, 6⟩, .operator "!" ⟨7, 8⟩]⟩
    instructions "name . !" = [instruction] ∧
      (∀ before inside span,
        instruction.tokens ≠ before ++ [.block .brace inside span]) ∧
      ∃ command, instruction.command context = .ok command ∧ command.condition = false := by
  intro context instruction
  refine ⟨rfl, fun before inside span ending => ?_,
    ⟨.text, .string "Ann", 0, some "name", none, [], false⟩, rfl, rfl⟩
  have isLast := congrArg List.getLast? ending
  simp [instruction] at isLast

end DataBinding
