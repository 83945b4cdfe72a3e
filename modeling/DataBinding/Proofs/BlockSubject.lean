import DataBinding.Proofs.CommandGrammar

namespace DataBinding

/-!
# Subjects and blocks

A comparison may be the subject of an instruction, or a block around it may.  The
pass over instructions and the evaluation of blocks find comparisons each by
themselves.  Both find the same ones, compare them in the same way and go wrong in
the same place.
-/

namespace Token

/-- A formula that is a single operand has its value. -/
theorem conclude_operand
    (tokens : List Token)
    (held : Bool)
    (span : Span) :
    conclude tokens [⟨.operand held, span⟩] = .ok held := by
  rw [conclude, if_neg (List.cons_ne_nil _ _)]
  cases held <;> rfl

/-- A block with nothing but a comparison inside is evaluated to the comparison. -/
theorem truth_comparison
    (context : Context)
    {left operator right : Token}
    (starts : startsComparison [left, operator, right] = true) :
    truth context [left, operator, right] = compare context left operator right := by
  have noSymbols : symbols context [] = .ok [] := by
    rw [symbols]
  rw [truth, symbols_of_startsComparison context starts, noSymbols, ← Token.compare]
  cases compare context left operator right with
  | error fault =>
      rfl
  | ok holds =>
      exact conclude_operand [left, operator, right] holds ⟨left.span.start, right.span.stop⟩

/-- No comparison begins in front of tokens that do not go on with one. -/
theorem startsComparison_cons_eq_false
    {rest : List Token}
    (noComparison :
      ∀ second third others,
        rest = second :: third :: others → second.isComparison = false)
    (token : Token) :
    startsComparison (token :: rest) = false := by
  match rest with
  | [] | [_] =>
      rfl
  | second :: third :: others =>
      simp [startsComparison, noComparison second third others rfl]

/-- A comparison is taken as a subject in the same way as a block around it. -/
theorem takeSubject_block_comparison
    (context : Context)
    (stop : Nat)
    {left operator right : Token}
    {rest : List Token}
    {bracket : Bracket}
    {span : Span}
    (starts : startsComparison [left, operator, right] = true)
    (startsNot :
      startsComparison (.block bracket [left, operator, right] span :: rest) = false) :
    takeSubject context stop (left :: operator :: right :: rest) =
      takeSubject context stop (.block bracket [left, operator, right] span :: rest) := by
  have startsBefore : startsComparison (left :: operator :: right :: rest) = true := starts
  rw [takeSubject_of_startsComparison context stop startsBefore,
    takeSubject_of_not_startsComparison context stop startsNot,
    subject, value_block_eq_truth, truth_comparison context starts]
  · cases compare context left operator right <;> rfl
  · simp

/-- Behind a negation a command depends on the tokens only through the subject that
is taken from them. -/
theorem command_congr_subject
    (context : Context)
    (stop : Nat)
    (negation? : Option (Located Negation))
    {tokens tokens' : List Token}
    (noOperator : ∀ token ∈ tokens.head?, token.operator? = none)
    (noOperator' : ∀ token ∈ tokens'.head?, token.operator? = none)
    (same : takeSubject context stop tokens = takeSubject context stop tokens') :
    command context stop (Negation.tokens negation? ++ tokens) =
      command context stop (Negation.tokens negation? ++ tokens') := by
  have negated
      {rest : List Token}
      (noOperator : ∀ token ∈ rest.head?, token.operator? = none) :
      takeNegation (Negation.tokens negation? ++ rest) =
        .ok (Negation.countOf negation?, rest) :=
    takeNegation_eq_ok_iff.mpr ⟨negation?, rfl, fun _ => noOperator, rfl⟩
  simp only [command, negated noOperator, negated noOperator', bind, Except.bind, same]

end Token

/--
A comparison means the same as the subject of an instruction and inside a block.  A
block around it, with any brackets, leaves the command as it is, and also the error if
there is one, wherever the block is taken to stand.
-/
theorem comparison_asBlock
    (context : Context)
    (source : String)
    (span : Span)
    (negation? : Option (Located Negation))
    (left operator right : Token)
    (isOperand : left.isOperand = true)
    (isComparison : operator.isComparison = true)
    {rest : List Token}
    (noComparison :
      ∀ second third others,
        rest = second :: third :: others → second.isComparison = false)
    (bracket : Bracket)
    (blockSpan : Span) :
    Instruction.command context
        ⟨source, span, Negation.tokens negation? ++ left :: operator :: right :: rest⟩ =
      Instruction.command context
        ⟨source, span,
          Negation.tokens negation? ++
            .block bracket [left, operator, right] blockSpan :: rest⟩ := by
  have starts : Token.startsComparison [left, operator, right] = true := by
    rw [Token.startsComparison, isOperand, isComparison]
    rfl
  have same := Token.command_congr_subject context span.stop negation?
    (by simpa using Token.operator?_of_isOperand isOperand) (by simp [Token.operator?])
    (Token.takeSubject_block_comparison context span.stop starts
      (Token.startsComparison_cons_eq_false noComparison
        (.block bracket [left, operator, right] blockSpan)))
  exact congrArg (Except.mapError (ParseError.mk · source)) same

/-- A comparison under a negation, in front of an action and a condition. -/
theorem comparison_asBlock_negated :
    let context : Context := .ofData (.object [("state", .string "new")])
    let comparison : List Token :=
      [.name "state" ⟨1, 6⟩, .operator "==" ⟨7, 9⟩, .quotation .single "new" ⟨10, 15⟩]
    let rest : List Token :=
      [.name "?" ⟨16, 17⟩, .block .brace [.name "state" ⟨19, 24⟩] ⟨18, 25⟩]
    instructions "!state == 'new' ? \x7bstate\x7d" =
        [⟨"!state == 'new' ? \x7bstate\x7d", ⟨0, 25⟩,
          .operator "!" ⟨0, 1⟩ :: comparison ++ rest⟩] ∧
      Instruction.command context
          ⟨"!state == 'new' ? \x7bstate\x7d", ⟨0, 25⟩,
            .operator "!" ⟨0, 1⟩ :: .block .round comparison ⟨1, 15⟩ :: rest⟩ =
        .ok ⟨.toggle, .bool false, 1, none, none, [], true⟩ := by
  intro context comparison rest
  refine ⟨rfl, ?_⟩
  have noComparison :
      ∀ second third others,
        rest = second :: third :: others → second.isComparison = false := by
    intro second third others shape
    obtain ⟨rfl, -⟩ := List.cons.inj shape
    rfl
  have same := comparison_asBlock context "!state == 'new' ? \x7bstate\x7d" ⟨0, 25⟩
    (some ⟨.once, ⟨0, 1⟩⟩) (.name "state" ⟨1, 6⟩) (.operator "==" ⟨7, 9⟩)
    (.quotation .single "new" ⟨10, 15⟩) rfl rfl noComparison .round ⟨1, 15⟩
  exact same.symm.trans rfl

end DataBinding
