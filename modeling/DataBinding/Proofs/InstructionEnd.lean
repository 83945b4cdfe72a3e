import DataBinding.Proofs.GuardedCommand

namespace DataBinding

/-!
# The end of an instruction

Behind its arguments an instruction has room for a guard and for nothing else.  Reading
fails at the first token that cannot belong to a guard.  What such a token is refused for
depends on where it stands: an operator in front of the guard is taken for a negation that
is none, a round block for arguments that the action does not take, and any other token is
unexpected.
-/

namespace Token

/-- Whether tokens are a guard: a negation and a condition, each of which may be missing. -/
def AreGuard (tokens : List Token) : Prop :=
  ∃ negation? condition?, tokens = Negation.tokens negation? ++ blockTokens .brace condition?

/-- Whether some guard begins with tokens. -/
def BeginGuard (tokens : List Token) : Prop :=
  ∃ rest, AreGuard (tokens ++ rest)

/-- Whether the condition that is reached behind a negation has a truth value, if there is
one. -/
def GuardEvaluates
    (context : Context)
    (tokens : List Token) : Prop :=
  ∀ negation? inside rest,
    tokens = Negation.tokens negation? ++ blockAround .brace inside :: rest →
    ∃ truth, Token.truth context inside.value = .ok truth

/-!
## Beginnings of guards
-/

section Beginnings

variable
  {negation? : Option (Located Negation)}
  {inside : Located (List Token)}
  {token : Token}

theorem AreGuard.cons_cases
    {rest : List Token}
    (areGuard : AreGuard (token :: rest)) :
    (∃ negation condition?,
        token = Negation.token negation ∧ rest = blockTokens .brace condition?) ∨
      ∃ inside, token = blockAround .brace inside ∧ rest = [] := by
  obtain ⟨negation?, condition?, same⟩ := areGuard
  cases negation? with
  | some negation =>
      obtain ⟨rfl, rfl⟩ := List.cons.inj same
      exact .inl ⟨negation, condition?, rfl, rfl⟩
  | none =>
      cases condition? with
      | some inside =>
          obtain ⟨rfl, rfl⟩ := List.cons.inj same
          exact .inr ⟨inside, rfl, rfl⟩
      | none =>
          cases same

theorem beginGuard_negation (negation? : Option (Located Negation)) :
    BeginGuard (Negation.tokens negation?) :=
  ⟨[], negation?, none, rfl⟩

theorem beginGuard_condition
    (negation? : Option (Located Negation))
    (inside : Located (List Token)) :
    BeginGuard (Negation.tokens negation? ++ [blockAround .brace inside]) :=
  ⟨[], negation?, some inside, List.append_nil _⟩

/-- Nothing but a condition may follow a negation, and no other token may begin a guard. -/
theorem not_beginGuard_of_noCondition
    (noNegation : negation? = none → ∀ negation, token ≠ Negation.token negation)
    (noCondition : ∀ inside, token ≠ blockAround .brace inside) :
    ¬BeginGuard (Negation.tokens negation? ++ [token]) := by
  rintro ⟨rest, areGuard⟩
  cases negation? with
  | none =>
      rcases areGuard.cons_cases with ⟨negation, _, isNegation, -⟩ | ⟨inside, isCondition, -⟩
      · exact noNegation rfl negation isNegation
      · exact noCondition inside isCondition
  | some negation =>
      rcases areGuard.cons_cases with ⟨_, condition?, -, same⟩ | ⟨_, ⟨⟩, -⟩
      cases condition? with
      | none =>
          cases same
      | some inside =>
          exact noCondition inside (List.cons.inj same).1

/-- Nothing may follow a condition. -/
theorem not_beginGuard_behindCondition :
    ¬BeginGuard (Negation.tokens negation? ++ [blockAround .brace inside] ++ [token]) := by
  rintro ⟨rest, areGuard⟩
  cases negation? with
  | none =>
      rcases areGuard.cons_cases with ⟨_, _, ⟨⟩, -⟩ | ⟨_, -, same⟩
      exact List.cons_ne_nil _ _ same
  | some negation =>
      rcases areGuard.cons_cases with ⟨_, condition?, -, same⟩ | ⟨_, ⟨⟩, -⟩
      cases condition? <;> simp at same

end Beginnings

end Token

namespace CommandParts

/-- Whether parts without a guard are the beginning of what stands in front of some tokens:
there is no more of a parameter or of arguments to be taken from these. -/
structure IsBeginning
    (parts : CommandParts)
    (rest : List Token) : Prop where
  unguarded :
    parts.conditionNegation? = none ∧ parts.condition? = none
  grammatical :
    parts.IsGrammatical
  parameterEnds :
    ∀ action,
      parts.action.action? = some (action, none) →
      parts.parameter? = none →
      parts.arguments? = none →
      ∀ token ∈ rest.head?, token.isPlain = false
  argumentsEnd :
    ∀ action embedded,
      parts.action.action? = some (action, embedded) →
      action = .event ∨ action = .call →
      parts.arguments? = none →
      ∀ inside, rest.head? ≠ some (Token.blockAround .round inside)

/-- Whether a beginning that has values is followed by tokens that are no guard.  A condition
that is reached in them has a truth value, so that nothing else is wrong. -/
structure LeavesSurplus
    (context : Context)
    (parts : CommandParts)
    (rest : List Token) : Prop where
  beginning : parts.IsBeginning rest
  evaluates : parts.Evaluates context
  guardEvaluates : Token.GuardEvaluates context rest
  notGuard : ¬Token.AreGuard rest

/-- What a token behind the beginning of a guard is refused for. -/
inductive Refuses (parts : CommandParts) : List Token → Token → Fault → Prop where
  | operator
      {text : String}
      {span : Span} :
      Refuses parts [] (.operator text span)
        (.unknownOperator (.operator text span) ["!", "!!"])
  | arguments
      {action : Action}
      {embedded : Option String}
      {inside : Located (List Token)} :
      parts.action.action? = some (action, embedded) →
      parts.arguments? = none →
      Refuses parts [] (Token.blockAround .round inside)
        (.unwantedArguments action (Token.blockAround .round inside))
  | guardPosition
      {negation? : Option (Located Negation)}
      {token : Token} :
      (negation? = none →
        token.operator? = none ∧
          (parts.arguments? = none → ∀ inside, token ≠ Token.blockAround .round inside)) →
      Refuses parts (Negation.tokens negation?) token (.unexpected token .conditionOrEnd)
  | behindGuard
      {negation? : Option (Located Negation)}
      {inside : Located (List Token)}
      {token : Token} :
      Refuses parts (Negation.tokens negation? ++ [Token.blockAround .brace inside]) token
        (.unexpected token .endOfInstruction)

/-- Whether tokens have a first one that cannot belong to a guard, and the fault is the one
that it is refused for. -/
def RefusesFirst
    (parts : CommandParts)
    (tokens : List Token)
    (fault : Fault) : Prop :=
  ∃ front token behind,
    tokens = front ++ token :: behind ∧
      Token.BeginGuard front ∧
      ¬Token.BeginGuard (front ++ [token]) ∧
      parts.Refuses front token fault

end CommandParts

namespace Token

/-!
## How the rest is read
-/

variable
  {context : Context}
  {parts : CommandParts}
  {rest : List Token}

/-- Where no condition is, reading fails at the first token or behind the condition that it
is. -/
theorem refusesFirst_of_takeCondition
    {negation? : Option (Located Negation)}
    (noNegation :
      negation? = none →
        (∀ token ∈ rest.head?, token.operator? = none) ∧
          (parts.arguments? = none →
            ∀ inside, rest.head? ≠ some (blockAround .round inside)))
    (evaluates : GuardEvaluates context (Negation.tokens negation? ++ rest))
    (notGuard : ¬AreGuard (Negation.tokens negation? ++ rest)) :
    ∃ fault,
      takeCondition context rest = .error fault ∧
        parts.RefusesFirst (Negation.tokens negation? ++ rest) fault := by
  match rest with
  | [] =>
      exact absurd ⟨negation?, none, rfl⟩ notGuard
  | token :: behind =>
      by_cases isCondition : ∃ inside, token = blockAround .brace inside
      · obtain ⟨inside, rfl⟩ := isCondition
        obtain ⟨truth, found⟩ := evaluates negation? inside behind rfl
        cases behind with
        | nil =>
            exact absurd ⟨negation?, some inside, rfl⟩ notGuard
        | cons next behind =>
            refine ⟨.unexpected next .endOfInstruction, ?_, _, next, behind, ?_,
              beginGuard_condition negation? inside, not_beginGuard_behindCondition,
              .behindGuard⟩
            · rw [blockAround, takeCondition, found]
              rfl
            · rw [List.append_assoc]
              rfl
      · have noCondition : ∀ inside, token ≠ blockAround .brace inside :=
          not_exists.mp isCondition
        refine ⟨.unexpected token .conditionOrEnd, ?_, _, token, behind, rfl,
          beginGuard_negation negation?, not_beginGuard_of_noCondition ?_ noCondition,
          .guardPosition fun isNone => ⟨(noNegation isNone).1 token rfl, ?_⟩⟩
        · rw [takeCondition]
          · exact fun inside span isBlock => noCondition ⟨inside, span⟩ isBlock
        · rintro isNone negation rfl
          exact absurd ((noNegation isNone).1 _ rfl) (by simp [Negation.token, operator?])
        · exact fun noArguments inside same =>
            (noNegation isNone).2 noArguments inside (congrArg some same)

/-- An operator in front of a guard that is no negation is not known. -/
theorem exists_operator_of_takeNegation
    {fault : Fault}
    (failed : takeNegation rest = .error fault) :
    ∃ text span behind,
      rest = operator text span :: behind ∧
        (∀ negation : Negation, text ≠ negation.text) ∧
        fault = .unknownOperator (operator text span) ["!", "!!"] := by
  unfold takeNegation at failed
  split at failed
  · rename_i text span behind
    cases found : negations.lookup text with
    | some count =>
        rw [found] at failed
        cases failed
    | none =>
        rw [found] at failed
        cases failed
        refine ⟨text, span, behind, rfl, ?_, rfl⟩
        rintro negation rfl
        rw [lookup_negations_eq_some_iff.mpr ⟨negation, rfl, rfl⟩] at found
        cases found
  · cases failed

/-- Whatever is no guard is refused at its first token that cannot belong to one. -/
theorem refusesFirst_of_not_areGuard
    (noArguments :
      parts.arguments? = none → ∀ inside, rest.head? ≠ some (blockAround .round inside))
    (evaluates : GuardEvaluates context rest)
    (notGuard : ¬AreGuard rest) :
    ∃ fault,
      (takeNegation rest >>= fun taken => takeCondition context taken.2) = .error fault ∧
        parts.RefusesFirst rest fault := by
  cases negated : takeNegation rest with
  | ok taken =>
      obtain ⟨count, behind⟩ := taken
      obtain ⟨negation?, rfl, noOperator, -⟩ := takeNegation_eq_ok_iff.mp negated
      refine refusesFirst_of_takeCondition (fun isNone => ⟨noOperator isNone, ?_⟩) evaluates
        notGuard
      subst isNone
      exact noArguments
  | error fault =>
      obtain ⟨text, span, behind, rfl, notNegation, rfl⟩ :=
        exists_operator_of_takeNegation negated
      refine ⟨_, rfl, [], operator text span, behind, rfl, beginGuard_negation none, ?_, .operator⟩
      refine @not_beginGuard_of_noCondition none _ (fun _ negation same => ?_)
        (by simp [blockAround])
      exact notNegation negation.value (by injection same)

/-- The beginning of an instruction is taken from the front, up to its arguments. -/
theorem exists_command_eq
    (beginning : parts.IsBeginning rest)
    (evaluates : parts.Evaluates context)
    (stop : Nat) :
    ∃ (action : Action) (embedded : Option String) (build : List Value → Nat → Bool → Command),
      parts.action.action? = some (action, embedded) ∧
        Token.command context stop (parts.tokens ++ rest) =
          (takeArguments context action (blockTokens .round parts.arguments? ++ rest) >>=
            fun argued => takeNegation argued.2 >>=
            fun negated => takeCondition context negated.2 >>=
            fun condition => .ok (build argued.1 negated.1 condition)) := by
  obtain ⟨action, embedded, named, parameterFits, takesArguments⟩ := beginning.grammatical.action
  obtain ⟨⟨value, path?⟩, gives⟩ :=
    (SubjectPart.exists_gives_iff beginning.grammatical.subject).mpr evaluates.operand
  have written :
      parts.tokens ++ rest =
        Negation.tokens parts.negation? ++
          (parts.subject.tokens ++
            parts.action :: (parts.parameter?.toList ++
              (blockTokens .round parts.arguments? ++ rest))) := by
    simp [CommandParts.tokens, CommandParts.actionTokens, CommandParts.argumentTokens,
      CommandParts.guardTokens, beginning.unguarded]
  rw [written, command_eq_behindParameter stop
    (beginning.grammatical.subject.behind (isComparison_of_action? named) _) gives named]
  · exact ⟨action, embedded, fun arguments conditionCount condition => {
        action, path?, arguments
        parameter? := (parts.parameter?.bind parameterText?).or embedded
        value := value.toScalar.negate (Negation.countOf parts.negation?)
        negations := Negation.countOf parts.negation?
        condition := condition ^^ decide (conditionCount % 2 = 1) }, named, rfl⟩
  · exact fun token isToken => ⟨beginning.grammatical.parameter token isToken,
      parameterFits (Option.isSome_iff_exists.mpr ⟨token, isToken⟩)⟩
  · rintro noParameter rfl
    cases noArguments : parts.arguments? with
    | some inside =>
        simp [isPlain]
    | none =>
        simpa using beginning.parameterEnds action named noParameter noArguments

end Token

/--
The end of an instruction is strict.  Whatever stands behind a beginning that has values, if
it is no guard, reading fails, and it fails at the first token that cannot belong to a
guard.  An operator in front of the guard that is no negation is an unknown operator, a
round block behind an action without arguments is unwanted, and every other token is
unexpected: behind a condition the end of the instruction is expected, and in front of it
the condition or the end.
-/
theorem command_refusesSurplus
    {context : Context}
    {instruction : Instruction}
    {parts : CommandParts}
    {rest : List Token}
    (written : instruction.tokens = parts.tokens ++ rest)
    (surplus : parts.LeavesSurplus context rest) :
    ∃ fault,
      instruction.command context = .error ⟨fault, instruction.source⟩ ∧
        parts.RefusesFirst rest fault := by
  obtain ⟨beginning, evaluates, guardEvaluates, notGuard⟩ := surplus
  obtain ⟨action, embedded, build, named, read⟩ :=
    Token.exists_command_eq beginning evaluates instruction.span.stop
  rw [Instruction.command, written, read]
  by_cases unwanted :
      parts.arguments? = none ∧ ∃ inside, rest.head? = some (Token.blockAround .round inside)
  · obtain ⟨noArguments, inside, first⟩ := unwanted
    obtain ⟨behind, rfl⟩ := List.head?_eq_some_iff.mp first
    have takesNone : action.takesArguments = false := by
      rw [Bool.eq_false_iff, ne_eq, Action.takesArguments_iff]
      exact fun takes => beginning.argumentsEnd action embedded named takes noArguments inside rfl
    refine ⟨.unwantedArguments action (Token.blockAround .round inside), ?_, [], _, behind, rfl,
      Token.beginGuard_negation none, ?_, .arguments named noArguments⟩
    · simp [noArguments, Token.takeArguments, Token.blockAround, takesNone, bind, Except.bind,
        Except.mapError]
    · exact @Token.not_beginGuard_of_noCondition none _ (fun _ _ => Token.noConfusion)
        (by simp [Token.blockAround])
  · have noArguments :
        parts.arguments? = none →
          ∀ inside, rest.head? ≠ some (Token.blockAround .round inside) :=
      fun isNone inside first => unwanted ⟨isNone, inside, first⟩
    obtain ⟨asked, asks⟩ :=
      (CommandParts.exists_asks_iff beginning.grammatical).mpr evaluates
    have takesArguments : parts.arguments?.isSome → action = .event ∨ action = .call := by
      obtain ⟨_, _, namedToo, -, takes⟩ := beginning.grammatical.action
      rw [named] at namedToo
      cases namedToo
      exact takes
    have argued :
        Token.takeArguments context action
            (Token.blockTokens .round parts.arguments? ++ rest) =
          .ok (asked.arguments, rest) :=
      Token.takeArguments_eq_ok_iff.mpr ⟨parts.arguments?, rfl, takesArguments,
        fun isNone inside span => noArguments isNone ⟨inside, span⟩, asks.arguments⟩
    obtain ⟨fault, failed, refuses⟩ :=
      Token.refusesFirst_of_not_areGuard noArguments guardEvaluates notGuard
    refine ⟨fault, ?_, refuses⟩
    rw [argued]
    cases negated : Token.takeNegation rest with
    | error fault =>
        rw [negated] at failed
        cases failed
        simp [bind, Except.bind, negated, Except.mapError]
    | ok taken =>
        have conditionFailed : Token.takeCondition context taken.2 = .error fault := by
          rwa [negated] at failed
        simp [bind, Except.bind, negated, conditionFailed, Except.mapError]

/-- Behind a guard with a negation and a condition even another negation is refused. -/
theorem command_refusesSurplus_secondNegation :
    let context : Context := .ofData (.object [("paid", .bool true)])
    let parts : CommandParts :=
      ⟨none, .single (.name "x" ⟨0, 1⟩), .name ":save" ⟨2, 7⟩, none,
        some ⟨[.name "y" ⟨9, 10⟩], ⟨8, 11⟩⟩, none, none⟩
    let rest : List Token :=
      [.operator "!" ⟨12, 13⟩, .block .brace [.name "paid" ⟨15, 19⟩] ⟨14, 20⟩,
        .operator "!" ⟨21, 22⟩]
    let instruction : Instruction :=
      ⟨"x :save (y) ! \x7bpaid\x7d !", ⟨0, 22⟩, parts.tokens ++ rest⟩
    instructions "x :save (y) ! \x7bpaid\x7d !" = [instruction] ∧
      parts.LeavesSurplus context rest ∧
      ∃ fault,
        instruction.command context = .error ⟨fault, instruction.source⟩ ∧
          fault.span = ⟨21, 22⟩ ∧
          parts.RefusesFirst rest fault := by
  intro context parts rest instruction
  have surplus : parts.LeavesSurplus context rest := by
    refine ⟨⟨⟨rfl, rfl⟩,
        ⟨⟨rfl, rfl⟩, ⟨.event, some "save", rfl, ?_, fun _ => .inl rfl⟩, ?_⟩, ?_, ?_⟩,
      ⟨⟨.null, rfl⟩, ?_, ?_⟩, ?_, ?_⟩
    · exact fun absent => nomatch absent
    · exact fun _ absent => nomatch absent
    · exact fun _ _ _ absent => nomatch absent
    · exact fun _ _ _ _ absent => nomatch absent
    · rintro _ ⟨⟩ group member
      obtain rfl : group = [.name "y" ⟨9, 10⟩] := List.mem_singleton.mp member
      exact ⟨.null, rfl⟩
    · exact fun _ absent => nomatch absent
    · rintro negation? ⟨inside, span⟩ behind same
      cases negation? with
      | none =>
          cases (List.cons.inj same).1
      | some negation =>
          obtain ⟨-, same⟩ := List.cons.inj same
          cases (List.cons.inj same).1
          exact ⟨true, rfl⟩
    · intro areGuard
      rcases areGuard.cons_cases with ⟨_, condition?, -, same⟩ | ⟨_, ⟨⟩, -⟩
      cases condition? <;> simp at same
  have written : instruction.tokens = parts.tokens ++ rest := rfl
  obtain ⟨fault, fails, refuses⟩ := command_refusesSurplus written surplus
  have atSecond : (fault.span : Span) = ⟨21, 22⟩ := by
    cases fails
    rfl
  exact ⟨rfl, surplus, fault, fails, atSecond, refuses⟩

/-- Not every token that is refused is called unexpected.  An operator in front of a guard
that is no negation is an unknown operator, and a block of another kind than a condition may
be unwanted arguments. -/
theorem command_refusesSurplus_otherKinds :
    let context : Context := .ofData (.object [("paid", .bool true)])
    let parts : CommandParts :=
      ⟨none, .single (.name "x" ⟨0, 1⟩), .name "." ⟨2, 3⟩, none, none, none, none⟩
    let refusedAs (source : String) (rest : List Token) (kind : String) : Prop :=
      ∃ instruction ∈ instructions source,
        instruction.tokens = parts.tokens ++ rest ∧
          parts.LeavesSurplus context rest ∧
          ∃ error, instruction.command context = .error error ∧ error.fault.cause.kindName = kind
    refusedAs "x . && \x7bpaid\x7d"
        [.operator "&&" ⟨4, 6⟩, .block .brace [.name "paid" ⟨8, 12⟩] ⟨7, 13⟩] "UnknownOperator" ∧
      refusedAs "x . (paid)" [.block .round [.name "paid" ⟨5, 9⟩] ⟨4, 10⟩] "InvalidArguments" := by
  intro context parts refusedAs
  have leavesSurplus
      {first : Token}
      {others : List Token}
      (notPlain : first.isPlain = false)
      (noNegation : ∀ negation, first ≠ Negation.token negation)
      (noCondition : ∀ inside, first ≠ Token.blockAround .brace inside) :
      parts.LeavesSurplus context (first :: others) := by
    refine ⟨⟨⟨rfl, rfl⟩, ⟨⟨rfl, rfl⟩, ⟨.text, none, rfl, ?_, ?_⟩, ?_⟩, ?_, ?_⟩,
      ⟨⟨.null, rfl⟩, ?_, ?_⟩, ?_, ?_⟩
    · exact fun absent => nomatch absent
    · exact fun absent => nomatch absent
    · exact fun _ absent => nomatch absent
    · rintro _ _ _ _ token ⟨⟩
      exact notPlain
    · rintro _ _ ⟨⟩ (⟨⟨⟩⟩ | ⟨⟨⟩⟩)
    · exact fun _ absent => nomatch absent
    · exact fun _ absent => nomatch absent
    · rintro negation? inside behind same
      cases negation? with
      | none =>
          exact (noCondition inside (List.cons.inj same).1).elim
      | some negation =>
          exact (noNegation negation (List.cons.inj same).1).elim
    · intro areGuard
      rcases areGuard.cons_cases with ⟨negation, _, isNegation, -⟩ | ⟨inside, isCondition, -⟩
      · exact noNegation negation isNegation
      · exact noCondition inside isCondition
  refine ⟨⟨_, List.mem_singleton_self _, rfl, ?_, _, rfl, rfl⟩,
    ⟨_, List.mem_singleton_self _, rfl, ?_, _, rfl, rfl⟩⟩
  · refine leavesSurplus rfl ?_ (fun _ => Token.noConfusion)
    rintro ⟨negation, span⟩ isNegation
    cases negation <;> simp [Negation.token, Negation.text] at isNegation
  · exact leavesSurplus rfl (fun _ => Token.noConfusion) (by simp [Token.blockAround])

end DataBinding
