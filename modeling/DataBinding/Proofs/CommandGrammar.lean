import DataBinding.Instruction.Prepare
import DataBinding.Proofs.CommandParts

namespace DataBinding

/-!
# The grammar of instructions

Commands are read in one pass that never steps back.  It accepts exactly the tokens
that some parts write, and the command is what the parts ask for.
-/

/-!
## What each step takes
-/

/-- Events and calls take arguments, and no other actions. -/
theorem Action.takesArguments_iff
    {action : Action} :
    action.takesArguments = true ↔ action = .event ∨ action = .call := by
  cases action <;> simp [takesArguments]

namespace Token

theorem isSome_plainValue?
    (context : Context)
    (token : Token) :
    (token.plainValue? context).isSome = token.isPlain := by
  cases token <;> rfl

theorem isSome_parameterText?
    (token : Token) :
    token.parameterText?.isSome = token.isPlain := by
  cases token <;> rfl

theorem lookup_negations_eq_some_iff
    {text : String}
    {count : Nat} :
    negations.lookup text = some count ↔
      ∃ negation : Negation, negation.text = text ∧ negation.count = count := by
  constructor
  · intro found
    by_cases isOnce : text = "!"
    · subst isOnce
      exact ⟨.once, rfl, Option.some.inj found⟩
    · by_cases isTwice : text = "!!"
      · subst isTwice
        exact ⟨.twice, rfl, Option.some.inj found⟩
      · have notOnce : (text == "!") = false := beq_false_of_ne isOnce
        have notTwice : (text == "!!") = false := beq_false_of_ne isTwice
        simp [negations, List.lookup_cons, notOnce, notTwice] at found
  · intro written
    obtain ⟨negation, rfl, rfl⟩ := written
    cases negation <;> rfl

/-- A negation is taken whenever there is one, and no other operator may stand in
its place. -/
theorem takeNegation_eq_ok_iff
    {tokens rest : List Token}
    {count : Nat} :
    takeNegation tokens = .ok (count, rest) ↔
      ∃ negation?,
        tokens = Negation.tokens negation? ++ rest ∧
          (negation? = none → ∀ token ∈ rest.head?, token.operator? = none) ∧
          count = Negation.countOf negation? := by
  constructor
  · intro taken
    cases tokens with
    | nil =>
        cases taken
        exact ⟨none, rfl, by simp, rfl⟩
    | cons token others =>
        cases token with
        | operator text span =>
            rw [takeNegation] at taken
            cases found : negations.lookup text with
            | none =>
                simp [found] at taken
            | some known =>
                simp only [found, Except.ok.injEq, Prod.mk.injEq] at taken
                obtain ⟨rfl, rfl⟩ := taken
                obtain ⟨negation, rfl, rfl⟩ := lookup_negations_eq_some_iff.mp found
                exact ⟨some ⟨negation, span⟩, rfl, by simp, rfl⟩
        | name _ _ | quotation _ _ _ | number _ _ | block _ _ _ | separator _ =>
            cases taken
            exact ⟨none, rfl, by simp [operator?], rfl⟩
  · intro written
    obtain ⟨negation?, rfl, noOperator, rfl⟩ := written
    cases negation? with
    | some negation =>
        have found :
            negations.lookup negation.value.text = some negation.value.count :=
          lookup_negations_eq_some_iff.mpr ⟨negation.value, rfl, rfl⟩
        simp [takeNegation, found, Negation.countOf]
    | none =>
        cases rest with
        | nil =>
            rfl
        | cons token others =>
            have noneFirst : token.operator? = none := noOperator rfl token rfl
            cases token with
            | operator text span =>
                cases noneFirst
            | name _ _ | quotation _ _ _ | number _ _ | block _ _ _ | separator _ =>
                rfl

theorem subject_eq_ok_iff
    {context : Context}
    {token : Token}
    {result : Subject} :
    token.subject context = .ok result ↔
      (SubjectPart.single token).Gives context result := by
  cases token with
  | name path span =>
      constructor
      · intro found
        cases found
        exact .name path span
      · intro gives
        cases gives with
        | name =>
            rfl
        | unnamed notName _ =>
            exact absurd rfl (notName path span)
  | quotation _ _ _ | number _ _ | operator _ _ | block _ _ _ | separator _ =>
      simp only [subject, bind_eq_ok_iff, Except.ok.injEq]
      constructor
      · intro found
        obtain ⟨held, hasValue, rfl⟩ := found
        exact .unnamed (by simp) hasValue
      · intro gives
        cases gives with
        | unnamed _ hasValue =>
            exact ⟨_, hasValue, rfl⟩

theorem isOperand_of_value
    {context : Context}
    {token : Token}
    {result : Value}
    (found : token.value context = .ok result) :
    token.isOperand = true := by
  cases token with
  | operator _ _ | separator _ =>
      simp [value, plainValue?] at found
  | name _ _ | quotation _ _ _ | number _ _ | block _ _ _ =>
      rfl

theorem isOperand_of_gives
    {context : Context}
    {token : Token}
    {result : Subject}
    (gives : (SubjectPart.single token).Gives context result) :
    token.isOperand = true := by
  cases gives with
  | name path span =>
      rfl
  | unnamed _ found =>
      exact isOperand_of_value found

theorem takeSubject_of_startsComparison
    (context : Context)
    (stop : Nat)
    {left comparison right : Token}
    {rest : List Token}
    (starts : startsComparison (left :: comparison :: right :: rest) = true) :
    takeSubject context stop (left :: comparison :: right :: rest) =
      (compare context left comparison right >>= fun holds =>
        .ok (⟨.bool holds, none⟩, rest)) := by
  rw [startsComparison] at starts
  rw [takeSubject, if_pos starts]

theorem takeSubject_of_not_startsComparison
    (context : Context)
    (stop : Nat)
    {token : Token}
    {rest : List Token}
    (startsNot : startsComparison (token :: rest) = false) :
    takeSubject context stop (token :: rest) =
      (token.subject context >>= fun subject => .ok (subject, rest)) := by
  match rest with
  | [] | [second] =>
      rw [takeSubject]
      rintro _ _ _ ⟨⟩
  | second :: third :: rest =>
      rw [startsComparison] at startsNot
      rw [takeSubject, if_neg (by simp [startsNot])]

/-- A subject is taken as a comparison whenever its tokens begin one. -/
theorem takeSubject_eq_ok_iff
    {context : Context}
    {stop : Nat}
    {tokens rest : List Token}
    {result : Subject} :
    takeSubject context stop tokens = .ok (result, rest) ↔
      ∃ subject : SubjectPart,
        tokens = subject.tokens ++ rest ∧
          subject.Fits rest ∧ subject.Gives context result := by
  constructor
  · intro taken
    match tokens with
    | [] =>
        cases taken
    | token :: others =>
        cases starts : startsComparison (token :: others) with
        | false =>
            rw [takeSubject_of_not_startsComparison context stop starts,
              bind_eq_ok_iff] at taken
            obtain ⟨subject, found, ⟨⟩⟩ := taken
            have gives := subject_eq_ok_iff.mp found
            exact ⟨.single token, rfl, ⟨isOperand_of_gives gives, starts⟩, gives⟩
        | true =>
            match others with
            | [] | [_] =>
                cases starts
            | comparison :: right :: others =>
                rw [takeSubject_of_startsComparison context stop starts,
                  bind_eq_ok_iff] at taken
                obtain ⟨holds, compared, ⟨⟩⟩ := taken
                obtain ⟨relation, leftValue, rightValue, leftHas, asks, rightHas, rfl⟩ :=
                  compareWith_eq_ok_iff.mp compared
                have rightPlain : right.isPlain = true := by
                  rw [← isSome_plainValue? context, rightHas]
                  rfl
                have isComparison : comparison.isComparison = true := by
                  rw [Token.isComparison, asks]
                  rfl
                obtain ⟨text, span, rfl, stands⟩ := exists_operator_of_relation? asks
                exact ⟨.comparison token (.operator text span) right, rfl,
                  ⟨isOperand_of_value leftHas, isComparison, rightPlain⟩,
                  .comparison leftHas stands rightHas⟩
  · intro written
    obtain ⟨subject, rfl, fits, gives⟩ := written
    cases subject with
    | single token =>
        have taken := takeSubject_of_not_startsComparison context stop fits.2
        rw [subject_eq_ok_iff.mpr gives] at taken
        exact taken
    | comparison left comparison right =>
        obtain ⟨isOperand, isComparison, _⟩ := fits
        have starts : startsComparison (left :: comparison :: right :: rest) = true := by
          rw [startsComparison, isOperand, isComparison]
          rfl
        cases gives with
        | @comparison _ _ _ span _ _ _ leftHas stands rightHas =>
            have compared :=
              compareWith_eq_ok_iff.mpr
                ⟨_, _, _, leftHas, relation?_operator stands span, rightHas, rfl⟩
            have taken := takeSubject_of_startsComparison context stop starts
            rw [Token.compare, compared] at taken
            exact taken

theorem takeAction_eq_ok_iff
    {stop : Nat}
    {tokens rest : List Token}
    {named : Action × Option String} :
    takeAction stop tokens = .ok (named, rest) ↔
      ∃ token, tokens = token :: rest ∧ token.action? = some named := by
  cases tokens with
  | nil =>
      simp [takeAction]
  | cons token others =>
      rw [takeAction]
      cases worded : token.actionWord? with
      | none =>
          simp [action?, worded]
      | some word =>
          cases resolved : Action.resolve? word with
          | none =>
              simp [action?, worded, resolved]
          | some known =>
              simp [action?, worded, resolved, and_comm]

/-- A parameter is taken whenever there is a name or a text, unless the word of the
action has one. -/
theorem takeParameter_eq_iff
    {embedded result : Option String}
    {tokens rest : List Token} :
    takeParameter embedded tokens = (result, rest) ↔
      ∃ parameter?,
        tokens = parameter?.toList ++ rest ∧
          (∀ token ∈ parameter?, token.isPlain = true ∧ embedded = none) ∧
          (parameter? = none →
            embedded = none → ∀ token ∈ rest.head?, token.isPlain = false) ∧
          result = (parameter?.bind parameterText?).or embedded := by
  constructor
  · intro taken
    cases tokens with
    | nil =>
        cases taken
        exact ⟨none, rfl, by simp, by simp, by simp⟩
    | cons token others =>
        have plain := isSome_parameterText? token
        cases embedded with
        | some parameter =>
            cases taken
            exact ⟨none, rfl, by simp, by simp, by simp⟩
        | none =>
            cases texted : token.parameterText? with
            | none =>
                rw [texted] at plain
                simp only [takeParameter, texted] at taken
                cases taken
                exact ⟨none, rfl, by simp, by simp [← plain], by simp⟩
            | some parameter =>
                rw [texted] at plain
                simp only [takeParameter, texted] at taken
                cases taken
                exact ⟨some token, rfl, by simp [← plain], by simp, by simp [texted]⟩
  · intro written
    obtain ⟨parameter?, rfl, fits, notPlain, rfl⟩ := written
    cases parameter? with
    | some token =>
        obtain ⟨isPlain, rfl⟩ := fits token rfl
        rw [← isSome_parameterText?, Option.isSome_iff_exists] at isPlain
        obtain ⟨parameter, texted⟩ := isPlain
        simp [takeParameter, texted]
    | none =>
        cases rest with
        | nil =>
            simp [takeParameter]
        | cons token others =>
            cases embedded with
            | some parameter =>
                simp [takeParameter]
            | none =>
                have plain := notPlain rfl rfl token rfl
                rw [← isSome_parameterText?, Option.isSome_eq_false_iff,
                  Option.isNone_iff_eq_none] at plain
                simp [takeParameter, plain]

theorem mapM_eq_ok_iff
    {ε α β : Type}
    {compute : α → Except ε β}
    {inputs : List α}
    {results : List β} :
    inputs.mapM compute = .ok results ↔
      List.Forall₂ (fun input result => compute input = .ok result) inputs results := by
  induction inputs generalizing results with
  | nil =>
      simp [pure, Except.pure, eq_comm]
  | cons input inputs inductionHypothesis =>
      simp only [List.mapM_cons, bind_eq_ok_iff, inductionHypothesis]
      constructor
      · intro computed
        obtain ⟨result, first, others, rest, ⟨⟩⟩ := computed
        exact .cons first rest
      · intro related
        cases related with
        | cons first rest =>
            exact ⟨_, first, _, rest, rfl⟩

theorem arguments_eq_ok_iff
    {context : Context}
    {tokens : List Token}
    {values : List Value} :
    arguments context tokens = .ok values ↔
      List.Forall₂ (fun group value => argument context group = .ok value)
        (argumentGroups tokens) values := by
  rw [arguments, argumentGroups]
  split
  · simp [eq_comm]
  · exact mapM_eq_ok_iff

/-- Arguments are taken whenever there is a round block. -/
theorem takeArguments_eq_ok_iff
    {context : Context}
    {action : Action}
    {tokens rest : List Token}
    {values : List Value} :
    takeArguments context action tokens = .ok (values, rest) ↔
      ∃ arguments?,
        tokens = blockTokens .round arguments? ++ rest ∧
          (arguments?.isSome → action = .event ∨ action = .call) ∧
          (arguments? = none →
            ∀ inside span, rest.head? ≠ some (.block .round inside span)) ∧
          CommandParts.ArgumentsGive context arguments? values := by
  constructor
  · intro taken
    unfold takeArguments at taken
    split at taken
    · rename_i inside span others
      split at taken
      · rename_i takes
        obtain ⟨found, evaluated, ⟨⟩⟩ := bind_eq_ok_iff.mp taken
        exact ⟨some ⟨inside, span⟩, rfl, fun _ => Action.takesArguments_iff.mp takes, by simp,
          arguments_eq_ok_iff.mp evaluated⟩
      · cases taken
    · rename_i noBlock
      cases taken
      refine ⟨none, rfl, by simp, fun _ inside span first => ?_, .nil⟩
      obtain ⟨others, rfl⟩ := List.head?_eq_some_iff.mp first
      exact noBlock inside span others rfl
  · intro written
    obtain ⟨arguments?, rfl, takes, noBlock, give⟩ := written
    cases arguments? with
    | some inside =>
        have evaluated := arguments_eq_ok_iff.mpr give
        rw [blockTokens_some, List.singleton_append, takeArguments,
          if_pos (Action.takesArguments_iff.mpr (takes rfl)), evaluated]
        rfl
    | none =>
        cases give
        rw [blockTokens_none, List.nil_append]
        unfold takeArguments
        split
        · exact absurd rfl (noBlock rfl _ _)
        · rfl

/-- A condition is all that is left. -/
theorem takeCondition_eq_ok_iff
    {context : Context}
    {tokens : List Token}
    {truth : Bool} :
    takeCondition context tokens = .ok truth ↔
      ∃ condition?,
        tokens = blockTokens .brace condition? ∧
          CommandParts.ConditionGives context condition? truth := by
  constructor
  · intro taken
    unfold takeCondition at taken
    split at taken
    · cases taken
      exact ⟨none, rfl, rfl⟩
    · rename_i inside span others
      obtain ⟨found, evaluated, concluded⟩ := bind_eq_ok_iff.mp taken
      cases others with
      | nil =>
          cases concluded
          exact ⟨some ⟨inside, span⟩, rfl, evaluated⟩
      | cons token others =>
          cases concluded
    · cases taken
  · intro written
    obtain ⟨condition?, rfl, gives⟩ := written
    cases condition? with
    | some inside =>
        have evaluated : Token.truth context inside.value = .ok truth := gives
        rw [blockTokens_some, takeCondition, evaluated]
        rfl
    | none =>
        obtain rfl : truth = true := gives
        rfl

/-!
## What the whole pass takes
-/

/-- The command that is read is one that some parts of the tokens ask for. -/
theorem exists_splits_of_command
    {context : Context}
    {stop : Nat}
    {tokens : List Token}
    {command : Command}
    (taken : Token.command context stop tokens = .ok command) :
    ∃ parts : CommandParts, parts.Splits tokens ∧ parts.Asks context command := by
  simp only [Token.command, bind_eq_ok_iff, Prod.exists] at taken
  obtain ⟨count, afterNegation, negated, subject, afterSubject, subjected, action,
    embedded, afterAction, acted, argumentValues, afterArguments, argued,
    conditionCount, afterConditionNegation, conditionNegated, truth, concluded,
    ⟨⟩⟩ := taken
  obtain ⟨text?, afterParameter, parametered⟩ :
      ∃ text? afterParameter,
        takeParameter embedded afterAction = (text?, afterParameter) :=
    ⟨_, _, rfl⟩
  rw [parametered] at argued ⊢
  obtain ⟨negation?, rfl, -, rfl⟩ := takeNegation_eq_ok_iff.mp negated
  obtain ⟨subjectPart, rfl, fits, gives⟩ := takeSubject_eq_ok_iff.mp subjected
  obtain ⟨actionToken, rfl, named⟩ := takeAction_eq_ok_iff.mp acted
  obtain ⟨parameter?, rfl, parameterFits, -, rfl⟩ := takeParameter_eq_iff.mp parametered
  obtain ⟨arguments?, rfl, takesArguments, -, argumentsGive⟩ :=
    takeArguments_eq_ok_iff.mp argued
  obtain ⟨conditionNegation?, rfl, -, rfl⟩ := takeNegation_eq_ok_iff.mp conditionNegated
  obtain ⟨condition?, rfl, conditionGives⟩ := takeCondition_eq_ok_iff.mp concluded
  refine ⟨⟨negation?, subjectPart, actionToken, parameter?, arguments?,
    conditionNegation?, condition?⟩, ⟨rfl, ⟨fits, ?_, ?_⟩⟩, ?_⟩
  · refine ⟨action, embedded, named, fun present => ?_, takesArguments⟩
    obtain ⟨token, isToken⟩ := Option.isSome_iff_exists.mp present
    exact (parameterFits token isToken).2
  · exact fun token isToken => (parameterFits token isToken).1
  · exact ⟨rfl, ⟨subject.value, gives, rfl⟩, ⟨embedded, named, rfl⟩, argumentsGive,
      truth, conditionGives, rfl⟩

/-- The parts in front of the arguments are taken as they are, whatever stands behind them,
if it has no more of a parameter. -/
theorem command_eq_behindParameter
    {context : Context}
    {parts : CommandParts}
    {behind : List Token}
    {value : Value}
    {path? : Option String}
    {action : Action}
    {embedded : Option String}
    (stop : Nat)
    (fits : parts.subject.Fits (parts.action :: (parts.parameter?.toList ++ behind)))
    (gives : parts.subject.Gives context ⟨value, path?⟩)
    (named : parts.action.action? = some (action, embedded))
    (parameterFits : ∀ token ∈ parts.parameter?, token.isPlain = true ∧ embedded = none)
    (parameterEnds :
      parts.parameter? = none → embedded = none →
        ∀ token ∈ behind.head?, token.isPlain = false) :
    Token.command context stop
        (Negation.tokens parts.negation? ++
          (parts.subject.tokens ++ parts.action :: (parts.parameter?.toList ++ behind))) =
      (takeArguments context action behind >>= fun argued =>
        takeNegation argued.2 >>= fun negated =>
        takeCondition context negated.2 >>= fun condition =>
        .ok {
          action
          value := value.toScalar.negate (Negation.countOf parts.negation?)
          negations := Negation.countOf parts.negation?
          path?
          parameter? := (parts.parameter?.bind parameterText?).or embedded
          arguments := argued.1
          condition := condition ^^ decide (negated.1 % 2 = 1) }) := by
  have negated :
      takeNegation
          (Negation.tokens parts.negation? ++
            (parts.subject.tokens ++ parts.action :: (parts.parameter?.toList ++ behind))) =
        .ok (Negation.countOf parts.negation?,
          parts.subject.tokens ++ parts.action :: (parts.parameter?.toList ++ behind)) :=
    takeNegation_eq_ok_iff.mpr
      ⟨parts.negation?, rfl, fun _ => fits.operator?_first _, rfl⟩
  have subjected :
      takeSubject context stop
          (parts.subject.tokens ++ parts.action :: (parts.parameter?.toList ++ behind)) =
        .ok (⟨value, path?⟩, parts.action :: (parts.parameter?.toList ++ behind)) :=
    takeSubject_eq_ok_iff.mpr ⟨parts.subject, rfl, fits, gives⟩
  have acted :
      takeAction stop (parts.action :: (parts.parameter?.toList ++ behind)) =
        .ok ((action, embedded), parts.parameter?.toList ++ behind) :=
    takeAction_eq_ok_iff.mpr ⟨parts.action, rfl, named⟩
  have parametered :
      takeParameter embedded (parts.parameter?.toList ++ behind) =
        ((parts.parameter?.bind parameterText?).or embedded, behind) :=
    takeParameter_eq_iff.mpr ⟨parts.parameter?, rfl, parameterFits, parameterEnds, rfl⟩
  simp only [Token.command, negated, subjected, acted, parametered, bind, Except.bind]

/-- Each step of reading ends where the next part begins, so that parts of the tokens
are read as they are. -/
theorem command_of_splits
    {context : Context}
    {tokens : List Token}
    {parts : CommandParts}
    {command : Command}
    (stop : Nat)
    (splits : parts.Splits tokens)
    (asks : parts.Asks context command) :
    Token.command context stop tokens = .ok command := by
  obtain ⟨rfl, grammatical⟩ := splits
  obtain ⟨action, embedded, named, parameterFits, takesArguments⟩ := grammatical.action
  obtain ⟨value, gives, valueShape⟩ := asks.subject
  obtain ⟨_, namedAgain, parameterShape⟩ := asks.action
  obtain ⟨truth, conditionGives, conditionShape⟩ := asks.condition
  rw [named] at namedAgain
  cases namedAgain
  have front :=
    command_eq_behindParameter stop grammatical.subject gives named
      (fun token isToken => ⟨grammatical.parameter token isToken,
        parameterFits (Option.isSome_iff_exists.mpr ⟨token, isToken⟩)⟩)
      (fun _ _ => parts.isPlain_first_argumentTokens)
  have argued :
      takeArguments context command.action parts.argumentTokens =
        .ok (command.arguments, parts.guardTokens) :=
    takeArguments_eq_ok_iff.mpr ⟨parts.arguments?, rfl, takesArguments,
      fun _ => parts.block_first_guardTokens, asks.arguments⟩
  have conditionNegated :
      takeNegation parts.guardTokens =
        .ok (Negation.countOf parts.conditionNegation?,
          blockTokens .brace parts.condition?) :=
    takeNegation_eq_ok_iff.mpr ⟨parts.conditionNegation?, rfl,
      fun _ => CommandParts.operator?_first_condition parts.condition?, rfl⟩
  have concluded :
      takeCondition context (blockTokens .brace parts.condition?) = .ok truth :=
    takeCondition_eq_ok_iff.mpr ⟨parts.condition?, rfl, conditionGives⟩
  refine front.trans ?_
  simp only [bind_eq_ok_iff, Prod.exists]
  refine ⟨_, _, argued, _, _, conditionNegated, truth, concluded, ?_⟩
  rw [Except.ok.injEq, ← asks.negations, ← valueShape, ← parameterShape, ← conditionShape]

end Token

/-!
## What has to be evaluated
-/

theorem SubjectPart.exists_gives_iff
    {context : Context}
    {subject : SubjectPart}
    {following : List Token}
    (fits : subject.Fits following) :
    (∃ given, subject.Gives context given) ↔
      ∃ value, subject.operand.value context = .ok value := by
  constructor
  · intro reading
    obtain ⟨given, gives⟩ := reading
    cases gives with
    | comparison leftHas _ _ =>
        exact ⟨_, leftHas⟩
    | name path span =>
        exact ⟨context.lookup path, by simp [operand, Token.value, Token.plainValue?]⟩
    | unnamed _ hasValue =>
        exact ⟨_, hasValue⟩
  · intro evaluated
    obtain ⟨value, hasValue⟩ := evaluated
    cases subject with
    | comparison left operator right =>
        obtain ⟨_, isComparison, rightPlain⟩ := fits
        obtain ⟨relation, asks⟩ := Option.isSome_iff_exists.mp isComparison
        obtain ⟨text, span, rfl, stands⟩ := Token.exists_operator_of_relation? asks
        rw [← Token.isSome_plainValue? context, Option.isSome_iff_exists] at rightPlain
        obtain ⟨rightValue, rightHas⟩ := rightPlain
        exact ⟨_, .comparison hasValue stands rightHas⟩
    | single token =>
        cases token with
        | name path span =>
            exact ⟨_, .name path span⟩
        | quotation _ _ _ | number _ _ | operator _ _ | block _ _ _ | separator _ =>
            exact ⟨_, .unnamed (by simp) hasValue⟩

theorem exists_forall₂_iff
    {α β : Type}
    {related : α → β → Prop}
    {inputs : List α} :
    (∃ results, List.Forall₂ related inputs results) ↔
      ∀ input ∈ inputs, ∃ result, related input result := by
  induction inputs with
  | nil =>
      simp
  | cons input inputs inductionHypothesis =>
      rw [List.forall_mem_cons, ← inductionHypothesis]
      constructor
      · intro found
        obtain ⟨_, allRelated⟩ := found
        cases allRelated with
        | cons first rest =>
            exact ⟨⟨_, first⟩, ⟨_, rest⟩⟩
      · intro found
        obtain ⟨⟨result, first⟩, ⟨results, rest⟩⟩ := found
        exact ⟨result :: results, .cons first rest⟩

/-- Parts ask for a command as soon as all that has to be evaluated has a value. -/
theorem CommandParts.exists_asks_iff
    {context : Context}
    {parts : CommandParts}
    (grammatical : parts.IsGrammatical) :
    (∃ command, parts.Asks context command) ↔ parts.Evaluates context := by
  have argumentsEvaluate :
      (∃ values, ArgumentsGive context parts.arguments? values) ↔
        ∀ inside ∈ parts.arguments?,
          ∀ group ∈ Token.argumentGroups inside.value,
            ∃ value, Token.argument context group = .ok value := by
    simp only [ArgumentsGive, exists_forall₂_iff]
    cases parts.arguments? <;> simp
  have conditionEvaluates :
      (∃ truth, ConditionGives context parts.condition? truth) ↔
        ∀ inside ∈ parts.condition?, ∃ truth, Token.truth context inside.value = .ok truth := by
    cases parts.condition? <;> simp [ConditionGives]
  constructor
  · intro asked
    obtain ⟨command, asks⟩ := asked
    obtain ⟨value, gives, _⟩ := asks.subject
    obtain ⟨truth, conditionGives, _⟩ := asks.condition
    exact ⟨(SubjectPart.exists_gives_iff grammatical.subject).mp ⟨_, gives⟩,
      argumentsEvaluate.mp ⟨_, asks.arguments⟩,
      conditionEvaluates.mp ⟨truth, conditionGives⟩⟩
  · intro evaluates
    obtain ⟨action, embedded, named, _⟩ := grammatical.action
    obtain ⟨⟨value, path?⟩, gives⟩ :=
      (SubjectPart.exists_gives_iff grammatical.subject).mpr evaluates.operand
    obtain ⟨values, argumentsGive⟩ := argumentsEvaluate.mpr evaluates.arguments
    obtain ⟨truth, conditionGives⟩ := conditionEvaluates.mpr evaluates.condition
    exact ⟨{
        action, path?
        value := value.toScalar.negate (Negation.countOf parts.negation?)
        negations := Negation.countOf parts.negation?
        parameter? := (parts.parameter?.bind Token.parameterText?).or embedded
        arguments := values
        condition :=
          truth ^^ decide (Negation.countOf parts.conditionNegation? % 2 = 1) },
      rfl, ⟨value, gives, rfl⟩, ⟨embedded, named, rfl⟩, argumentsGive,
      ⟨truth, conditionGives, rfl⟩⟩

/--
Reading an instruction succeeds exactly when its tokens split into parts in which all
that has to be evaluated has a value.  There is at most one such split, whatever the
context, and the command is the one that its parts ask for.
-/
theorem command_readsGrammar
    (context : Context)
    (instruction : Instruction) :
    ((∃ command, instruction.command context = .ok command) ↔
        ∃ parts : CommandParts,
          parts.Splits instruction.tokens ∧ parts.Evaluates context) ∧
      (∀ parts parts' : CommandParts,
        parts.Splits instruction.tokens →
        parts'.Splits instruction.tokens →
        parts = parts') ∧
      ∀ (command : Command) (parts : CommandParts),
        instruction.command context = .ok command →
        parts.Splits instruction.tokens →
        parts.Asks context command := by
  have read (command : Command) :
      instruction.command context = .ok command ↔
        Token.command context instruction.span.stop instruction.tokens = .ok command :=
    mapError_eq_ok_iff
  refine ⟨?_, fun parts parts' splits splits' => splits.unique splits', ?_⟩
  · constructor
    · intro reading
      obtain ⟨command, taken⟩ := reading
      obtain ⟨parts, splits, asks⟩ :=
        Token.exists_splits_of_command ((read command).mp taken)
      exact ⟨parts, splits,
        (CommandParts.exists_asks_iff splits.grammatical).mp ⟨command, asks⟩⟩
    · intro reading
      obtain ⟨parts, splits, evaluates⟩ := reading
      obtain ⟨command, asks⟩ :=
        (CommandParts.exists_asks_iff splits.grammatical).mpr evaluates
      exact ⟨command, (read command).mpr (Token.command_of_splits _ splits asks)⟩
  · intro command parts taken splits
    obtain ⟨parts', splits', asks⟩ :=
      Token.exists_splits_of_command ((read command).mp taken)
    rw [splits.unique splits']
    exact asks

end DataBinding
