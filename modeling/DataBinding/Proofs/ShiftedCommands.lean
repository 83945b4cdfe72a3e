import DataBinding.Proofs.DataIndependence
import DataBinding.Proofs.ShiftedTokens

namespace DataBinding

/-!
# Commands of instructions that stand further on

Evaluation and grammar hand places on and never look at them.  So tokens that stand
further on ask for the same command, or are refused for the same reason in a place
that is as much further on.
-/

/-- A misfit in a formula that stands further on. -/
def Formula.Misfit.shifted
    (distance : Nat)
    (misfit : Formula.Misfit) : Formula.Misfit :=
  { misfit with span := misfit.span.shifted distance }

/-- The cause of a fault among tokens that stand further on. -/
def Cause.shifted
    (distance : Nat) :
    Cause → Cause
  | unexpected found expected => unexpected (found.map (Token.shifted distance)) expected
  | unknownAction found => unknownAction (found.shifted distance)
  | unknownOperator found supported => unknownOperator (found.shifted distance) supported
  | unwantedArguments action found => unwantedArguments action (found.shifted distance)
  | expression misfit => expression (misfit.shifted distance)

/-- A fault that is found further on. -/
def Fault.shifted
    (distance : Nat)
    (fault : Fault) : Fault where
  cause := fault.cause.shifted distance
  span := fault.span.shifted distance

/-- An error that is found further on. -/
def ParseError.shifted
    (distance : Nat)
    (error : ParseError) : ParseError :=
  { error with fault := error.fault.shifted distance }

/-!
## The wording of an error has no places in it
-/

namespace Token

@[simp]
theorem isSeparator_shifted
    (distance : Nat)
    (token : Token) :
    (token.shifted distance).isSeparator = token.isSeparator := by
  cases token <;> rfl

mutual

theorem chars_shifted
    (distance : Nat) :
    (token : Token) → (token.shifted distance).chars = token.chars
  | .name _ _ | .quotation _ _ _ | .number _ _ | .operator _ _ | .separator _ => rfl
  | .block bracket tokens span => by
      rw [shifted, chars, chars, sequenceChars_allShifted distance tokens]

theorem sequenceChars_allShifted
    (distance : Nat) :
    (tokens : List Token) → sequenceChars (allShifted distance tokens) = sequenceChars tokens
  | [] => rfl
  | token :: rest => by
      rw [allShifted, sequenceChars, sequenceChars, chars_shifted distance token,
        followingChars_allShifted distance rest]

theorem followingChars_allShifted
    (distance : Nat) :
    (tokens : List Token) → followingChars (allShifted distance tokens) = followingChars tokens
  | [] => rfl
  | token :: rest => by
      rw [allShifted, followingChars, followingChars, isSeparator_shifted,
        chars_shifted distance token, followingChars_allShifted distance rest]

end

theorem describe_shifted
    (distance : Nat)
    (token : Token) :
    (token.shifted distance).describe = token.describe := by
  have sameKind : (token.shifted distance).kindName = token.kindName := by
    cases token <;> rfl
  rw [describe, describe, text, text, sameKind, chars_shifted]

end Token

theorem Cause.found_shifted
    (distance : Nat)
    (cause : Cause) :
    (cause.shifted distance).found = cause.found := by
  cases cause with
  | unexpected found expected =>
      cases found with
      | none =>
          rfl
      | some token =>
          exact token.describe_shifted distance
  | unknownAction found =>
      exact found.describe_shifted distance
  | unknownOperator found supported =>
      exact found.describe_shifted distance
  | unwantedArguments action found =>
      exact found.describe_shifted distance
  | expression misfit =>
      rfl

theorem Cause.kindName_shifted
    (distance : Nat)
    (cause : Cause) :
    (cause.shifted distance).kindName = cause.kindName := by
  cases cause <;> rfl

theorem ParseError.message_shifted
    (distance : Nat)
    (error : ParseError) :
    (error.shifted distance).message = error.message := by
  obtain ⟨⟨cause, span⟩, instruction⟩ := error
  have sameFound := cause.found_shifted distance
  cases cause with
  | expression misfit =>
      rfl
  | unexpected _ _ | unknownAction _ | unknownOperator _ _ | unwantedArguments _ _ =>
      simp only [message, ParseError.shifted, Fault.shifted, Cause.shifted] at sameFound ⊢
      rw [sameFound]

/-- Two outcomes of which one has the value of the other, or its error in other words. -/
theorem Both.eq_mapError
    {ε δ α : Type}
    {wording : ε → δ}
    {outcome : Except ε α}
    {outcome' : Except δ α}
    (both : Both (fun error error' => error' = wording error) Eq outcome outcome') :
    outcome' = outcome.mapError wording := by
  cases both with
  | ok same =>
      rw [same]
      rfl
  | error same =>
      rw [same]
      rfl

namespace Formula

/-- A formula further on has the same value, or goes wrong at the same symbol. -/
theorem Reader.readAll_shifted
    (distance start stop : Nat)
    (reader : Reader)
    (symbols : List (Located Symbol)) :
    reader.readAll (distance + start) (distance + stop)
        (symbols.map (Located.shifted distance)) =
      (reader.readAll start stop symbols).mapError (Misfit.shifted distance) := by
  induction symbols generalizing stop reader with
  | nil =>
      simp only [List.map_nil, readAll]
      split <;> rfl
  | cons located rest inductionHypothesis =>
      obtain ⟨symbol, span⟩ := located
      simp only [List.map_cons, Located.shifted, readAll]
      cases reader.read? symbol with
      | none =>
          rfl
      | some next =>
          exact inductionHypothesis span.stop next

theorem evaluate_shifted
    (distance stop : Nat)
    (symbols : List (Located Symbol)) :
    evaluate (symbols.map (Located.shifted distance)) (distance + stop) =
      (evaluate symbols stop).mapError (Misfit.shifted distance) :=
  Reader.readAll_shifted distance stop stop .start symbols

end Formula

namespace Token

/-!
## Evaluating tokens and the same tokens further on
-/

section Shifted

variable (distance : Nat)

@[simp]
theorem operator?_shifted
    (token : Token) :
    (token.shifted distance).operator? = token.operator? := by
  cases token <;> rfl

@[simp]
theorem isOperand_shifted
    (token : Token) :
    (token.shifted distance).isOperand = token.isOperand := by
  cases token <;> rfl

@[simp]
theorem relation?_shifted
    (token : Token) :
    (token.shifted distance).relation? = token.relation? := by
  rw [relation?, relation?, operator?_shifted]

@[simp]
theorem isComparison_shifted
    (token : Token) :
    (token.shifted distance).isComparison = token.isComparison := by
  rw [isComparison, isComparison, relation?_shifted]

@[simp]
theorem plainValue?_shifted
    (context : Context)
    (token : Token) :
    (token.shifted distance).plainValue? context = token.plainValue? context := by
  cases token <;> rfl

@[simp]
theorem actionWord?_shifted
    (token : Token) :
    (token.shifted distance).actionWord? = token.actionWord? := by
  cases token <;> rfl

@[simp]
theorem parameterText?_shifted
    (token : Token) :
    (token.shifted distance).parameterText? = token.parameterText? := by
  cases token <;> rfl

theorem startsComparison_shifted
    (tokens : List Token) :
    startsComparison (tokens.map (shifted distance)) = startsComparison tokens := by
  match tokens with
  | [] | [_] | [_, _] =>
      rfl
  | left :: comparison :: right :: rest =>
      simp [startsComparison]

/-- A fault and the same fault further on. -/
def Further (fault later : Fault) : Prop :=
  later = fault.shifted distance

/-- Symbols and the same symbols further on. -/
def FurtherSymbols (symbols later : List (Located Symbol)) : Prop :=
  later = symbols.map (Located.shifted distance)

/-- What is taken from the front of nested tokens, with what is left of them, and the
same further on. -/
def FurtherTaken
    {α : Type}
    (taken later : α × List Token) : Prop :=
  later = (taken.1, taken.2.map (shifted distance)) ∧ ∀ token ∈ taken.2, token.Nested

theorem further_unexpected
    (token : Token)
    (expected : Expected) :
    Further distance (.unexpected token expected)
      (.unexpected (token.shifted distance) expected) := by
  simp [Further, Fault.unexpected, Fault.shifted, Cause.shifted]

theorem further_unknownOperator
    (token : Token)
    (supported : List String) :
    Further distance (.unknownOperator token supported)
      (.unknownOperator (token.shifted distance) supported) := by
  simp [Further, Fault.unknownOperator, Fault.shifted, Cause.shifted]

theorem further_compareWith
    (context : Context)
    {left later : Except Fault Value}
    (leftBoth : Both (Further distance) Eq left later)
    (comparison right : Token) :
    Both (Further distance) Eq (compareWith context left comparison right)
      (compareWith context later (comparison.shifted distance) (right.shifted distance)) := by
  unfold compareWith
  rw [plainValue?_shifted, relation?_shifted]
  cases right.plainValue? context with
  | none =>
      exact .error (further_unexpected distance right .comparand)
  | some value =>
      refine leftBoth.bind ?_
      rintro leftValue _ rfl
      cases comparison.relation? with
      | none =>
          exact .error (further_unknownOperator distance comparison Relation.operators)
      | some relation =>
          exact .ok rfl

theorem further_conclude
    {tokens : List Token}
    {symbols : List (Located Symbol)}
    (stands : symbols ≠ [] → tokens ≠ []) :
    Both (Further distance) Eq (conclude tokens symbols)
      (conclude (tokens.map (shifted distance)) (symbols.map (Located.shifted distance))) := by
  unfold conclude
  by_cases nothing : symbols = []
  · rw [if_pos nothing, if_pos (by rw [nothing, List.map_nil])]
    exact .ok rfl
  · rw [if_neg nothing, if_neg (by simpa using nothing)]
    obtain ⟨last, isLast⟩ :=
      Option.isSome_iff_exists.mp (List.getLast?_isSome.mpr (stands nothing))
    simp only [List.getLast?_map, isLast, Option.map_some, Option.getD_some, span_shifted,
      Span.shifted, Formula.evaluate_shifted]
    cases Formula.evaluate symbols last.span.stop with
    | ok value =>
        exact .ok rfl
    | error misfit =>
        exact .error rfl

/-- The parentheses of a block that has something in it stand at its two ends. -/
theorem parenthesized_shifted
    {span : Span}
    (positive : 0 < span.stop)
    (inner : List (Located Symbol)) :
    parenthesized (span.shifted distance) (inner.map (Located.shifted distance)) =
      (parenthesized span inner).map (Located.shifted distance) := by
  have closing : distance + span.stop - 1 = distance + (span.stop - 1) := by omega
  by_cases nothing : inner = []
  · simp [parenthesized, nothing, Located.shifted, Span.shifted, closing, Nat.add_assoc]
  · simp [parenthesized, nothing, Located.shifted, Span.shifted, closing, Nat.add_assoc]

/-- Whether tokens are reduced to the same symbols further on. -/
def ReducesFurther
    (context : Context)
    (tokens : List Token) : Prop :=
  Both (Further distance) (FurtherSymbols distance) (symbols context tokens)
    (symbols context (tokens.map (shifted distance)))

variable {distance}

namespace ReducesFurther

variable
  {context : Context}
  {tokens : List Token}

theorem truth
    (reduces : ReducesFurther distance context tokens) :
    Both (Further distance) Eq (Token.truth context tokens)
      (Token.truth context (tokens.map (shifted distance))) := by
  cases tokens with
  | nil =>
      exact .ok rfl
  | cons token rest =>
      refine Both.bind reduces ?_
      rintro symbols _ rfl
      exact further_conclude distance fun _ => List.cons_ne_nil token rest

theorem value_block
    (reduces : ReducesFurther distance context tokens)
    (bracket : Bracket)
    (span : Span) :
    Both (Further distance) Eq (value context (.block bracket tokens span))
      (value context ((block bracket tokens span).shifted distance)) := by
  rw [shifted_block, value_block_eq_truth, value_block_eq_truth]
  refine reduces.truth.bind ?_
  rintro truth _ rfl
  exact .ok rfl

end ReducesFurther

/-- The value of an operand is the same further on, if what is in it is reduced to the
same symbols. -/
theorem further_value_of_inside
    {context : Context}
    {token : Token}
    (inside :
      ∀ bracket tokens span,
        token = .block bracket tokens span → ReducesFurther distance context tokens) :
    Both (Further distance) Eq (token.value context) ((token.shifted distance).value context) := by
  cases token with
  | block bracket tokens span =>
      exact (inside bracket tokens span rfl).value_block bracket span
  | name _ _ | quotation _ _ _ | number _ _ =>
      simp only [shifted, value, plainValue?]
      exact .ok rfl
  | operator _ _ | separator _ =>
      simp only [shifted, value, plainValue?]
      exact .error (further_unexpected distance _ .value)

/-- The symbols of a single token are the same further on, if those of what is in it
are. -/
theorem further_symbolsOf
    {context : Context}
    {token : Token}
    (inside :
      ∀ bracket tokens span,
        token = .block bracket tokens span →
        0 < span.stop ∧ ReducesFurther distance context tokens) :
    Both (Further distance) (FurtherSymbols distance) (symbolsOf context token)
      (symbolsOf context (token.shifted distance)) := by
  cases token with
  | block bracket tokens span =>
      obtain ⟨positive, reduces⟩ := inside bracket tokens span rfl
      simp only [shifted_block, symbolsOf]
      refine Both.bind reduces ?_
      rintro symbols _ rfl
      exact .ok (parenthesized_shifted distance positive symbols)
  | operator text span =>
      simp only [shifted, symbolsOf]
      cases Symbol.ofOperator? text with
      | none =>
          exact .error (further_unknownOperator distance (.operator text span) Symbol.operators)
      | some symbol =>
          exact .ok rfl
  | name _ _ | quotation _ _ _ | number _ _ =>
      simp only [shifted, symbolsOf, plainValue?]
      exact .ok rfl
  | separator span =>
      simp only [shifted, symbolsOf, plainValue?]
      exact .error (further_unexpected distance _ .formulaPart)

theorem Nested.inside
    {bracket : Bracket}
    {tokens : List Token}
    {span : Span}
    (nested : Nested (.block bracket tokens span)) :
    0 < span.stop ∧ ∀ token ∈ tokens, token.Nested := by
  cases nested with
  | block inOrder inside =>
      exact ⟨Nat.lt_of_lt_of_le (Nat.succ_pos _) inOrder.le, inside⟩

/-- Nested tokens are reduced to the same symbols further on, however deeply blocks are
nested. -/
theorem reducesFurther
    (context : Context)
    (tokens : List Token)
    (nested : ∀ token ∈ tokens, token.Nested) :
    ReducesFurther distance context tokens := by
  induction tokens using units_induction with
  | nil =>
      rw [ReducesFurther, List.map_nil, symbols]
      exact .ok rfl
  | comparison left operator right rest starts insideHypothesis restHypothesis =>
      obtain ⟨nestedLeft, nestedBehind⟩ := List.forall_mem_cons.mp nested
      have restReduces := restHypothesis fun other member => nestedBehind other (by simp [member])
      have startsLater := startsComparison_shifted distance (left :: operator :: right :: rest)
      rw [starts] at startsLater
      simp only [List.map_cons] at startsLater
      simp only [ReducesFurther, List.map_cons]
      rw [symbols_of_startsComparison context starts,
        symbols_of_startsComparison context startsLater]
      refine (further_compareWith distance context
        (further_value_of_inside fun bracket tokens span isBlock =>
          insideHypothesis bracket tokens span isBlock (isBlock ▸ nestedLeft).inside.2)
        operator right).bind ?_
      rintro holds _ rfl
      refine Both.bind restReduces ?_
      rintro others _ rfl
      refine .ok ?_
      simp [FurtherSymbols, Located.shifted, Span.shifted]
  | single token rest startsNot insideHypothesis restHypothesis =>
      obtain ⟨nestedFirst, nestedRest⟩ := List.forall_mem_cons.mp nested
      have restReduces := restHypothesis nestedRest
      have startsLater := startsComparison_shifted distance (token :: rest)
      rw [startsNot, List.map_cons] at startsLater
      rw [ReducesFurther, List.map_cons, symbols_of_not_startsComparison context startsNot,
        symbols_of_not_startsComparison context startsLater]
      refine (further_symbolsOf fun bracket tokens span isBlock => ?_).bind ?_
      · obtain ⟨positive, nestedInside⟩ := (isBlock ▸ nestedFirst).inside
        exact ⟨positive, insideHypothesis bracket tokens span isBlock nestedInside⟩
      · rintro first _ rfl
        refine Both.bind restReduces ?_
        rintro others _ rfl
        exact .ok List.map_append.symm

section Command

variable
  (distance)
  (context : Context)

theorem further_truth
    {tokens : List Token}
    (nested : ∀ token ∈ tokens, token.Nested) :
    Both (Further distance) Eq (truth context tokens)
      (truth context (tokens.map (shifted distance))) :=
  (reducesFurther context tokens nested).truth

theorem further_value
    {token : Token}
    (nested : token.Nested) :
    Both (Further distance) Eq (token.value context) ((token.shifted distance).value context) :=
  further_value_of_inside fun _ tokens _ isBlock =>
    reducesFurther context tokens (isBlock ▸ nested).inside.2

theorem further_argument
    {tokens : List Token}
    (nested : ∀ token ∈ tokens, token.Nested) :
    Both (Further distance) Eq (argument context tokens)
      (argument context (tokens.map (shifted distance))) := by
  match tokens with
  | [token] =>
      exact further_value distance context (nested token List.mem_cons_self)
  | [] =>
      exact .ok rfl
  | first :: second :: rest =>
      simp only [List.map_cons, argument]
      refine (further_truth distance context nested).bind ?_
      rintro truth _ rfl
      exact .ok rfl

theorem splitOnP_isSeparator_shifted
    (tokens : List Token) :
    (tokens.map (shifted distance)).splitOnP isSeparator =
      (tokens.splitOnP isSeparator).map (List.map (shifted distance)) := by
  induction tokens with
  | nil =>
      simp
  | cons token rest inductionHypothesis =>
      rw [List.map_cons, List.splitOnP_cons_eq_if_modifyHead,
        List.splitOnP_cons_eq_if_modifyHead, isSeparator_shifted, inductionHypothesis]
      split
      · rfl
      · cases rest.splitOnP isSeparator <;> rfl

theorem further_mapM_argument
    {groups : List (List Token)}
    (nested : ∀ group ∈ groups, ∀ token ∈ group, token.Nested) :
    Both (Further distance) Eq (groups.mapM (argument context))
      ((groups.map (List.map (shifted distance))).mapM (argument context)) := by
  induction groups with
  | nil =>
      exact .ok rfl
  | cons group groups inductionHypothesis =>
      have others :=
        inductionHypothesis fun other member => nested other (List.mem_cons_of_mem group member)
      simp only [List.map_cons, List.mapM_cons]
      refine (further_argument distance context (nested group List.mem_cons_self)).bind ?_
      rintro value _ rfl
      refine others.bind ?_
      rintro values _ rfl
      exact .ok rfl

theorem further_arguments
    {tokens : List Token}
    (nested : ∀ token ∈ tokens, token.Nested) :
    Both (Further distance) Eq (arguments context tokens)
      (arguments context (tokens.map (shifted distance))) := by
  unfold arguments
  rw [List.isEmpty_map, splitOnP_isSeparator_shifted]
  split
  · exact .ok rfl
  · exact further_mapM_argument distance context fun group member token inGroup =>
      nested token (Text.mem_of_mem_splitOnP member inGroup).1

/-!
## The parts of an instruction further on
-/

theorem further_takeNegation
    {tokens : List Token}
    (nested : ∀ token ∈ tokens, token.Nested) :
    Both (Further distance) (FurtherTaken distance) (takeNegation tokens)
      (takeNegation (tokens.map (shifted distance))) := by
  cases tokens with
  | nil =>
      exact .ok ⟨rfl, nested⟩
  | cons token rest =>
      cases token with
      | operator text span =>
          simp only [List.map_cons, shifted, takeNegation]
          cases negations.lookup text with
          | none =>
              exact .error (further_unknownOperator distance (.operator text span) _)
          | some count =>
              exact .ok ⟨rfl, (List.forall_mem_cons.mp nested).2⟩
      | name _ _ | quotation _ _ _ | number _ _ | block _ _ _ | separator _ =>
          exact .ok ⟨rfl, nested⟩

theorem further_subject
    {token : Token}
    (nested : token.Nested) :
    Both (Further distance) Eq (token.subject context)
      ((token.shifted distance).subject context) := by
  have values := further_value distance context nested
  cases token with
  | name path span =>
      exact .ok rfl
  | quotation _ _ _ | number _ _ | operator _ _ | block _ _ _ | separator _ =>
      simp only [shifted, subject] at values ⊢
      refine values.bind ?_
      rintro value _ rfl
      exact .ok rfl

theorem further_takeSubject
    (stop : Nat)
    {tokens : List Token}
    (nested : ∀ token ∈ tokens, token.Nested) :
    Both (Further distance) (FurtherTaken distance) (takeSubject context stop tokens)
      (takeSubject context (distance + stop) (tokens.map (shifted distance))) := by
  match tokens with
  | [] =>
      exact .error rfl
  | [token] =>
      simp only [List.map_cons, List.map_nil, takeSubject]
      refine (further_subject distance context (nested token List.mem_cons_self)).bind ?_
      rintro subject _ rfl
      exact .ok ⟨rfl, (List.forall_mem_cons.mp nested).2⟩
  | [token, second] =>
      simp only [List.map_cons, List.map_nil, takeSubject]
      refine (further_subject distance context (nested token List.mem_cons_self)).bind ?_
      rintro subject _ rfl
      exact .ok ⟨rfl, (List.forall_mem_cons.mp nested).2⟩
  | left :: comparison :: right :: rest =>
      obtain ⟨nestedLeft, nestedBehind⟩ := List.forall_mem_cons.mp nested
      simp only [List.map_cons, takeSubject, isOperand_shifted, isComparison_shifted]
      split
      · refine (further_compareWith distance context (further_value distance context nestedLeft)
          comparison right).bind ?_
        rintro holds _ rfl
        exact .ok ⟨rfl, fun token member => nestedBehind token (by simp [member])⟩
      · refine (further_subject distance context nestedLeft).bind ?_
        rintro subject _ rfl
        exact .ok ⟨rfl, nestedBehind⟩

theorem further_takeAction
    (stop : Nat)
    {tokens : List Token}
    (nested : ∀ token ∈ tokens, token.Nested) :
    Both (Further distance) (FurtherTaken distance) (takeAction stop tokens)
      (takeAction (distance + stop) (tokens.map (shifted distance))) := by
  cases tokens with
  | nil =>
      exact .error rfl
  | cons token rest =>
      simp only [List.map_cons, takeAction, actionWord?_shifted]
      cases token.actionWord? with
      | none =>
          exact .error (further_unexpected distance token .action)
      | some word =>
          dsimp only
          cases Action.resolve? word with
          | none =>
              refine .error ?_
              simp [Further, Fault.unknownAction, Fault.shifted, Cause.shifted]
          | some named =>
              exact .ok ⟨rfl, (List.forall_mem_cons.mp nested).2⟩

theorem further_takeParameter
    (embedded : Option String)
    {tokens : List Token}
    (nested : ∀ token ∈ tokens, token.Nested) :
    FurtherTaken distance (takeParameter embedded tokens)
      (takeParameter embedded (tokens.map (shifted distance))) := by
  cases tokens with
  | nil =>
      exact ⟨rfl, nested⟩
  | cons token rest =>
      rw [List.map_cons]
      cases embedded with
      | some parameter =>
          exact ⟨rfl, nested⟩
      | none =>
          simp only [takeParameter, parameterText?_shifted]
          cases token.parameterText? with
          | none =>
              exact ⟨rfl, nested⟩
          | some parameter =>
              exact ⟨rfl, (List.forall_mem_cons.mp nested).2⟩

theorem further_takeArguments
    (action : Action)
    {tokens : List Token}
    (nested : ∀ token ∈ tokens, token.Nested) :
    Both (Further distance) (FurtherTaken distance) (takeArguments context action tokens)
      (takeArguments context action (tokens.map (shifted distance))) := by
  cases tokens with
  | nil =>
      exact .ok ⟨rfl, nested⟩
  | cons token rest =>
      obtain ⟨nestedFirst, nestedRest⟩ := List.forall_mem_cons.mp nested
      rw [List.map_cons]
      cases token with
      | block bracket inside span =>
          rw [shifted_block]
          cases bracket with
          | round =>
              simp only [takeArguments]
              split
              · refine (further_arguments distance context nestedFirst.inside.2).bind ?_
                rintro values _ rfl
                exact .ok ⟨rfl, nestedRest⟩
              · refine .error ?_
                simp [Further, Fault.unwantedArguments, Fault.shifted, Cause.shifted, Token.span]
          | brace | square =>
              exact .ok ⟨by simp, nested⟩
      | name _ _ | quotation _ _ _ | number _ _ | operator _ _ | separator _ =>
          exact .ok ⟨rfl, nested⟩

theorem further_takeCondition
    {tokens : List Token}
    (nested : ∀ token ∈ tokens, token.Nested) :
    Both (Further distance) Eq (takeCondition context tokens)
      (takeCondition context (tokens.map (shifted distance))) := by
  cases tokens with
  | nil =>
      exact .ok rfl
  | cons token rest =>
      have refused := further_unexpected distance token .conditionOrEnd
      obtain ⟨nestedFirst, nestedRest⟩ := List.forall_mem_cons.mp nested
      rw [List.map_cons]
      cases token with
      | block bracket inside span =>
          rw [shifted_block] at refused ⊢
          cases bracket with
          | brace =>
              simp only [takeCondition]
              refine (further_truth distance context nestedFirst.inside.2).bind ?_
              rintro truth _ rfl
              cases rest with
              | nil =>
                  exact .ok rfl
              | cons second others =>
                  exact .error (further_unexpected distance second .endOfInstruction)
          | round | square =>
              exact .error refused
      | name _ _ | quotation _ _ _ | number _ _ | operator _ _ | separator _ =>
          exact .error refused

/-- Nested tokens ask for the same command further on. -/
theorem further_command
    (stop : Nat)
    {tokens : List Token}
    (nested : ∀ token ∈ tokens, token.Nested) :
    Both (Further distance) Eq (command context stop tokens)
      (command context (distance + stop) (tokens.map (shifted distance))) := by
  unfold command
  refine (further_takeNegation distance nested).bind ?_
  rintro ⟨count, afterNegation⟩ _ ⟨rfl, nestedSubject⟩
  refine (further_takeSubject distance context stop nestedSubject).bind ?_
  rintro ⟨subject, afterSubject⟩ _ ⟨rfl, nestedAction⟩
  refine (further_takeAction distance stop nestedAction).bind ?_
  rintro ⟨⟨action, embedded⟩, afterAction⟩ _ ⟨rfl, nestedParameter⟩
  obtain ⟨sameParameter, nestedArguments⟩ :=
    further_takeParameter distance embedded nestedParameter
  simp only [sameParameter]
  refine (further_takeArguments distance context action nestedArguments).bind ?_
  rintro ⟨values, afterArguments⟩ _ ⟨rfl, nestedGuard⟩
  refine (further_takeNegation distance nestedGuard).bind ?_
  rintro ⟨conditionCount, afterConditionNegation⟩ _ ⟨rfl, nestedCondition⟩
  refine (further_takeCondition distance context nestedCondition).bind ?_
  rintro truth _ rfl
  exact .ok rfl

end Command

end Shifted

end Token

/-- An instruction that stands further on, with the same text. -/
def Instruction.shifted
    (distance : Nat)
    (instruction : Instruction) : Instruction where
  source := instruction.source
  span := instruction.span.shifted distance
  tokens := instruction.tokens.map (Token.shifted distance)

/-- An instruction whose tokens are nested is read further on as it is here, and its
error, if there is one, is found as much further on. -/
theorem Instruction.command_shifted
    (distance : Nat)
    (context : Context)
    {instruction : Instruction}
    (nested : ∀ token ∈ instruction.tokens, token.Nested) :
    (instruction.shifted distance).command context =
      (instruction.command context).mapError (ParseError.shifted distance) := by
  have commands := (Token.further_command distance context instruction.span.stop nested).eq_mapError
  simp only [command, shifted, Span.shifted, commands]
  cases Token.command context instruction.span.stop instruction.tokens <;> rfl

end DataBinding
