import DataBinding.Proofs.CommandGrammar

namespace DataBinding

/-!
# Commands depend on the data that they name

An instruction is read in two contexts that have the same values for the names in it.
Nothing else of a context is ever looked at, so both readings come to the same end,
command or error.  The word of the action and the parameter are names too, but they are
taken as they are written, and what the contexts have for these is of no account.
-/

/-- The outcome of two steps is the same if that of the first is, and that of the second
for whatever the first gives. -/
theorem bind_congr_of_ok
    {ε α β : Type}
    {first first' : Except ε α}
    {next next' : α → Except ε β}
    (sameFirst : first = first')
    (sameNext : ∀ value, first = .ok value → next value = next' value) :
    first >>= next = first' >>= next' := by
  subst sameFirst
  cases computed : first with
  | error fault =>
      rfl
  | ok value =>
      exact sameNext value computed

namespace Token

mutual

/-- The names in a token, at every depth. -/
def names : Token → List String
  | name text _ => [text]
  | block _ tokens _ => allNames tokens
  | _ => []

/-- The names in some tokens, at every depth. -/
def allNames : List Token → List String
  | [] => []
  | token :: rest => names token ++ allNames rest

end

/-- The tokens behind a negation in front, if there is one. -/
def behindNegation : List Token → List Token
  | operator _ _ :: rest => rest
  | tokens => tokens

/-- How many of the tokens in front are the subject. -/
def subjectLength (tokens : List Token) : Nat :=
  if startsComparison tokens then 3 else 1

/-- The tokens behind the word of an action in front, and behind its parameter if one
follows and the word has none in it. -/
def behindAction : List Token → List Token
  | [] => []
  | [_] => []
  | action :: second :: rest =>
      match action.action? with
      | some (_, some _) => second :: rest
      | _ => if second.isPlain then rest else second :: rest

/-- The tokens of an instruction but for a negation in front, the word of the action and
the parameter. -/
def dataTokens (tokens : List Token) : List Token :=
  let affirmed := behindNegation tokens
  affirmed.take (subjectLength affirmed) ++
    behindAction (affirmed.drop (subjectLength affirmed))

/-- Whether two contexts have the same values for the names in some tokens. -/
def AgreeOn
    (context context' : Context)
    (tokens : List Token) : Prop :=
  ∀ path ∈ allNames tokens, context.lookup path = context'.lookup path

theorem mem_allNames
    {path : String}
    {tokens : List Token} :
    path ∈ allNames tokens ↔ ∃ token ∈ tokens, path ∈ token.names := by
  induction tokens with
  | nil =>
      simp [allNames]
  | cons token rest inductionHypothesis =>
      simp [allNames, inductionHypothesis]

/-!
## Evaluating in two contexts
-/

section Evaluation

variable
  {context context' : Context}
  {tokens others : List Token}
  {token : Token}

namespace AgreeOn

theorem of_subset
    (agree : AgreeOn context context' tokens)
    (among : others ⊆ tokens) :
    AgreeOn context context' others := by
  intro path named
  obtain ⟨token, member, inToken⟩ := mem_allNames.mp named
  exact agree path (mem_allNames.mpr ⟨token, among member, inToken⟩)

theorem of_mem
    (agree : AgreeOn context context' tokens)
    (member : token ∈ tokens) :
    AgreeOn context context' [token] :=
  agree.of_subset fun _ single => List.mem_singleton.mp single ▸ member

theorem inside
    {bracket : Bracket}
    {span : Span}
    (agree : AgreeOn context context' [.block bracket tokens span]) :
    AgreeOn context context' tokens := by
  intro path named
  exact agree path (mem_allNames.mpr ⟨_, List.mem_singleton_self _, named⟩)

theorem plainValue?
    (agree : AgreeOn context context' [token]) :
    token.plainValue? context = token.plainValue? context' := by
  cases token with
  | name text span =>
      exact congrArg some
        (agree text (mem_allNames.mpr ⟨_, List.mem_singleton_self _, List.mem_singleton_self _⟩))
  | quotation _ _ _ | number _ _ | operator _ _ | block _ _ _ | separator _ =>
      rfl

theorem compareWith
    {left left' : Except Fault Value}
    (sameLeft : left = left')
    (operator : Token)
    {right : Token}
    (agree : AgreeOn context context' [right]) :
    compareWith context left operator right = compareWith context' left' operator right := by
  rw [Token.compareWith, Token.compareWith, sameLeft, agree.plainValue?]

end AgreeOn

/-- Whether the tokens inside a block are reduced to the same symbols in two contexts, if a
token is one. -/
def SameInside
    (context context' : Context)
    (token : Token) : Prop :=
  ∀ bracket inside span,
    token = .block bracket inside span → symbols context inside = symbols context' inside

theorem SameInside.value
    (sameInside : SameInside context context' token)
    (agree : AgreeOn context context' [token]) :
    token.value context = token.value context' := by
  cases token with
  | block bracket inside span =>
      rw [value_block_eq_truth, value_block_eq_truth, truth, truth,
        sameInside bracket inside span rfl]
  | name _ _ | quotation _ _ _ | number _ _ | operator _ _ | separator _ =>
      simp only [Token.value, agree.plainValue?]

theorem SameInside.symbolsOf
    (sameInside : SameInside context context' token)
    (agree : AgreeOn context context' [token]) :
    token.symbolsOf context = token.symbolsOf context' := by
  cases token with
  | block bracket inside span =>
      simp only [Token.symbolsOf, sameInside bracket inside span rfl]
  | operator text span =>
      simp only [Token.symbolsOf]
  | name _ _ | quotation _ _ _ | number _ _ | separator _ =>
      simp only [Token.symbolsOf, agree.plainValue?]

namespace AgreeOn

/-- Tokens are reduced to the same symbols, however deeply blocks are nested. -/
theorem symbols
    (agree : AgreeOn context context' tokens) :
    symbols context tokens = symbols context' tokens := by
  induction tokens using units_induction with
  | nil =>
      rw [Token.symbols, Token.symbols]
  | comparison left operator right rest starts insideHypothesis restHypothesis =>
      have agreeLeft : AgreeOn context context' [left] := agree.of_mem (by simp)
      have agreeRight : AgreeOn context context' [right] := agree.of_mem (by simp)
      have sameInside : SameInside context context' left := by
        rintro bracket inside span rfl
        exact insideHypothesis bracket inside span rfl agreeLeft.inside
      have sameRest := restHypothesis (agree.of_subset fun _ member => by simp [member])
      rw [symbols_of_startsComparison context starts,
        symbols_of_startsComparison context' starts,
        agreeRight.compareWith (sameInside.value agreeLeft) operator, sameRest]
  | single token rest startsNot insideHypothesis restHypothesis =>
      have agreeFirst : AgreeOn context context' [token] := agree.of_mem (by simp)
      have sameInside : SameInside context context' token := by
        rintro bracket inside span rfl
        exact insideHypothesis bracket inside span rfl agreeFirst.inside
      have sameRest := restHypothesis (agree.of_subset (List.subset_cons_self token rest))
      rw [symbols_of_not_startsComparison context startsNot,
        symbols_of_not_startsComparison context' startsNot, sameInside.symbolsOf agreeFirst,
        sameRest]

theorem truth
    (agree : AgreeOn context context' tokens) :
    truth context tokens = truth context' tokens := by
  rw [Token.truth, Token.truth, agree.symbols]

theorem value
    (agree : AgreeOn context context' [token]) :
    token.value context = token.value context' := by
  refine SameInside.value ?_ agree
  rintro bracket inside span rfl
  exact agree.inside.symbols

theorem compare
    {left right : Token}
    (agreeLeft : AgreeOn context context' [left])
    (operator : Token)
    (agreeRight : AgreeOn context context' [right]) :
    compare context left operator right = compare context' left operator right :=
  agreeRight.compareWith agreeLeft.value operator

theorem argument
    (agree : AgreeOn context context' tokens) :
    argument context tokens = argument context' tokens := by
  unfold Token.argument
  split
  · exact agree.value
  · rw [agree.truth]

theorem mapM_argument
    {groups : List (List Token)}
    (agree : ∀ group ∈ groups, AgreeOn context context' group) :
    groups.mapM (Token.argument context) = groups.mapM (Token.argument context') := by
  induction groups with
  | nil =>
      rfl
  | cons group groups inductionHypothesis =>
      obtain ⟨agreeFirst, agreeRest⟩ := List.forall_mem_cons.mp agree
      rw [List.mapM_cons, List.mapM_cons, agreeFirst.argument, inductionHypothesis agreeRest]

theorem arguments
    (agree : AgreeOn context context' tokens) :
    arguments context tokens = arguments context' tokens := by
  unfold Token.arguments
  split
  · rfl
  · refine mapM_argument fun group member => agree.of_subset fun token inGroup => ?_
    exact (Text.mem_of_mem_splitOnP member inGroup).1

/-!
## Reading an instruction in two contexts
-/

theorem subject
    (agree : AgreeOn context context' [token]) :
    token.subject context = token.subject context' := by
  cases token with
  | name path span =>
      have same : context.lookup path = context'.lookup path :=
        Option.some.inj agree.plainValue?
      rw [Token.subject, Token.subject, same]
  | quotation _ _ _ | number _ _ | operator _ _ | block _ _ _ | separator _ =>
      simp only [Token.subject, agree.value]

/-- The same subject is taken if the contexts agree on the tokens that are taken. -/
theorem takeSubject
    (stop : Nat)
    (agree : AgreeOn context context' (tokens.take (subjectLength tokens))) :
    takeSubject context stop tokens = takeSubject context' stop tokens := by
  match tokens with
  | [] =>
      rfl
  | token :: rest =>
      cases starts : startsComparison (token :: rest) with
      | false =>
          rw [subjectLength, starts] at agree
          have agreeFirst : AgreeOn context context' [token] := agree
          rw [takeSubject_of_not_startsComparison context stop starts,
            takeSubject_of_not_startsComparison context' stop starts, agreeFirst.subject]
      | true =>
          match rest with
          | [] | [_] =>
              cases starts
          | comparison :: right :: rest =>
              rw [subjectLength, starts] at agree
              have agreeThree : AgreeOn context context' [token, comparison, right] := agree
              have agreeLeft : AgreeOn context context' [token] := agreeThree.of_mem (by simp)
              have agreeRight : AgreeOn context context' [right] := agreeThree.of_mem (by simp)
              rw [takeSubject_of_startsComparison context stop starts,
                takeSubject_of_startsComparison context' stop starts,
                agreeLeft.compare comparison agreeRight]

theorem takeArguments
    (action : Action)
    (agree : AgreeOn context context' tokens) :
    takeArguments context action tokens = takeArguments context' action tokens := by
  unfold Token.takeArguments
  split
  · have agreeInside := (agree.of_mem List.mem_cons_self).inside
    rw [agreeInside.arguments]
  · rfl

theorem takeCondition
    (agree : AgreeOn context context' tokens) :
    takeCondition context tokens = takeCondition context' tokens := by
  unfold Token.takeCondition
  split
  · rfl
  · have agreeInside := (agree.of_mem List.mem_cons_self).inside
    rw [agreeInside.truth]
  · rfl

end AgreeOn

end Evaluation

/-!
## What each step leaves
-/

theorem rest_of_takeNegation
    {tokens rest : List Token}
    {count : Nat}
    (taken : takeNegation tokens = .ok (count, rest)) :
    rest = behindNegation tokens := by
  obtain ⟨negation?, rfl, noOperator, -⟩ := takeNegation_eq_ok_iff.mp taken
  cases negation? with
  | some negation =>
      rfl
  | none =>
      cases rest with
      | nil =>
          rfl
      | cons token others =>
          have noneFirst : token.operator? = none := noOperator rfl token rfl
          cases token with
          | operator text span =>
              cases noneFirst
          | name _ _ | quotation _ _ _ | number _ _ | block _ _ _ | separator _ =>
              rfl

theorem subset_of_takeNegation
    {tokens rest : List Token}
    {count : Nat}
    (taken : takeNegation tokens = .ok (count, rest)) :
    rest ⊆ tokens := by
  obtain ⟨negation?, rfl, -, -⟩ := takeNegation_eq_ok_iff.mp taken
  exact List.subset_append_right _ _

theorem rest_of_takeSubject
    {context : Context}
    {stop : Nat}
    {tokens rest : List Token}
    {subject : Subject}
    (taken : takeSubject context stop tokens = .ok (subject, rest)) :
    rest = tokens.drop (subjectLength tokens) := by
  obtain ⟨part, rfl, fits, -⟩ := takeSubject_eq_ok_iff.mp taken
  cases part with
  | single token =>
      have startsNot : startsComparison (token :: rest) = false := fits.2
      simp [SubjectPart.tokens, subjectLength, startsNot]
  | comparison left operator right =>
      obtain ⟨isOperand, isComparison, -⟩ := fits
      simp [SubjectPart.tokens, subjectLength, startsComparison, isOperand, isComparison]

theorem rest_of_takeAction
    {stop : Nat}
    {tokens rest : List Token}
    {action : Action}
    {embedded : Option String}
    (taken : takeAction stop tokens = .ok ((action, embedded), rest)) :
    (takeParameter embedded rest).2 = behindAction tokens := by
  obtain ⟨token, rfl, named⟩ := takeAction_eq_ok_iff.mp taken
  cases rest with
  | nil =>
      rfl
  | cons second others =>
      have texted := isSome_parameterText? second
      simp only [behindAction, named]
      cases embedded with
      | some parameter =>
          rfl
      | none =>
          cases found : second.parameterText? with
          | none =>
              simp [takeParameter, found, ← texted]
          | some parameter =>
              simp [takeParameter, found, ← texted]

theorem subset_of_takeArguments
    {context : Context}
    {action : Action}
    {tokens rest : List Token}
    {values : List Value}
    (taken : takeArguments context action tokens = .ok (values, rest)) :
    rest ⊆ tokens := by
  obtain ⟨arguments?, rfl, -⟩ := takeArguments_eq_ok_iff.mp taken
  exact List.subset_append_right _ _

/-- The same command is read, step by step, if the contexts agree on all that each step
takes. -/
theorem AgreeOn.command
    {context context' : Context}
    {tokens : List Token}
    (stop : Nat)
    (agree : AgreeOn context context' (dataTokens tokens)) :
    command context stop tokens = command context' stop tokens := by
  unfold Token.command
  refine bind_congr_of_ok rfl fun ⟨count, affirmed⟩ negated => ?_
  obtain rfl := rest_of_takeNegation negated
  have agreeSubject := agree.of_subset (List.subset_append_left _ _)
  have agreeBehind := agree.of_subset (List.subset_append_right _ _)
  refine bind_congr_of_ok (agreeSubject.takeSubject stop)
    fun ⟨subject, afterSubject⟩ subjected => ?_
  obtain rfl := rest_of_takeSubject subjected
  refine bind_congr_of_ok rfl fun ⟨⟨action, embedded⟩, afterAction⟩ acted => ?_
  have parametered := rest_of_takeAction acted
  dsimp only at parametered ⊢
  rw [parametered]
  refine bind_congr_of_ok (agreeBehind.takeArguments action)
    fun ⟨values, afterArguments⟩ argued => ?_
  have agreeGuard := agreeBehind.of_subset (subset_of_takeArguments argued)
  refine bind_congr_of_ok rfl fun ⟨conditionCount, afterNegation⟩ conditionNegated => ?_
  have agreeCondition := agreeGuard.of_subset (subset_of_takeNegation conditionNegated)
  exact bind_congr_of_ok agreeCondition.takeCondition fun _ _ => rfl

end Token

/-- The names in an instruction, at every depth, but for the word of the action and the
parameter. -/
def Instruction.dataNames (instruction : Instruction) : List String :=
  Token.allNames (Token.dataTokens instruction.tokens)

/--
A command depends on the data only through the variables that it names.  In two contexts
that lead from these to the same values an instruction has one outcome, be it the same
command or the same error.
-/
theorem command_dependsOnNames
    {context context' : Context}
    {instruction : Instruction}
    (agree :
      ∀ path ∈ instruction.dataNames, context.lookup path = context'.lookup path) :
    instruction.command context = instruction.command context' := by
  have agreeOn : Token.AgreeOn context context' (Token.dataTokens instruction.tokens) := agree
  rw [Instruction.command, Instruction.command, agreeOn.command]

/-- The two contexts differ in what they have for the parameter of the event. -/
theorem command_dependsOnNames_saved :
    let context : Context :=
      .ofData (.object [("name", .string "Ann"), ("paid", .bool true), ("saved", .bool false)])
    let context' : Context :=
      ⟨.object [("name", .string "Ann"), ("paid", .bool true), ("saved", .string "x")], [.null]⟩
    ∃ instruction,
      instructions "name event saved (total, [\x7bcount\x7d == paid]) !\x7bpaid\x7d" =
          [instruction] ∧
        instruction.dataNames = ["name", "total", "count", "paid", "paid"] ∧
        (∀ path ∈ instruction.dataNames, context.lookup path = context'.lookup path) ∧
        context.lookup "saved" = .bool false ∧
        context'.lookup "saved" = .string "x" ∧
        instruction.command context = instruction.command context' := by
  intro context context'
  let instruction : Instruction :=
    ⟨"name event saved (total, [\x7bcount\x7d == paid]) !\x7bpaid\x7d", ⟨0, 51⟩,
      [.name "name" ⟨0, 4⟩, .name "event" ⟨5, 10⟩, .name "saved" ⟨11, 16⟩,
        .block .round
          [.name "total" ⟨18, 23⟩, .separator ⟨23, 24⟩,
            .block .square
              [.block .brace [.name "count" ⟨27, 32⟩] ⟨26, 33⟩, .operator "==" ⟨34, 36⟩,
                .name "paid" ⟨37, 41⟩] ⟨25, 42⟩] ⟨17, 43⟩,
        .operator "!" ⟨44, 45⟩, .block .brace [.name "paid" ⟨46, 50⟩] ⟨45, 51⟩]⟩
  have names : instruction.dataNames = ["name", "total", "count", "paid", "paid"] := rfl
  have agree : ∀ path ∈ instruction.dataNames, context.lookup path = context'.lookup path := by
    rw [names]
    simp only [List.forall_mem_cons, List.not_mem_nil, false_implies, implies_true, and_true]
    exact ⟨rfl, rfl, rfl, rfl, rfl⟩
  exact ⟨instruction, rfl, names, agree, rfl, rfl, command_dependsOnNames agree⟩

end DataBinding
