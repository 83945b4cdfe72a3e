import DataBinding.Instruction.Prepare
import DataBinding.Proofs.BlockReading
import DataBinding.Proofs.SymbolPlaces

namespace DataBinding

/-!
# The places of faults

A fault of an instruction is found among its tokens or at its end.  Each step that takes
something from the front of the tokens leaves the rest of them or is a fault among them.
As tokens lie in their instruction at every depth, so do its faults.
-/

/-- Whether an outcome is a value, or a fault among tokens. -/
def FaultAmong
    {α : Type}
    (tokens : List Token)
    (outcome : Except Fault α) : Prop :=
  Yields (fun fault : Fault => fault.FoundAmong tokens) (fun _ => True) outcome

theorem FaultAmong.ofPart
    {α : Type}
    {part tokens : List Token}
    {outcome : Except Fault α}
    (found : FaultAmong part outcome)
    (isPart : part <:+: tokens) :
    FaultAmong tokens outcome :=
  found.weaken fun _ found => found.ofPart isPart

/-- A fault inside a block is found among the tokens that the block is one of. -/
theorem FaultAmong.outside
    {α : Type}
    {tokens inside : List Token}
    {bracket : Bracket}
    {span : Span}
    {outcome : Except Fault α}
    (found : FaultAmong inside outcome)
    (member : .block bracket inside span ∈ tokens) :
    FaultAmong tokens outcome :=
  found.weaken fun _ found => .inside member found

/-- The pieces of a list between separators are parts of it, the first one at its
beginning. -/
theorem Text.isInfix_of_mem_splitOnP
    {α : Type}
    (separates : α → Bool)
    (list : List α) :
    (∀ first ∈ (list.splitOnP separates).head?, first <+: list) ∧
      ∀ piece ∈ list.splitOnP separates, piece <:+: list := by
  induction list with
  | nil =>
      simp
  | cons item rest inductionHypothesis =>
      obtain ⟨firstIsPrefix, areParts⟩ := inductionHypothesis
      rw [List.splitOnP_cons_eq_if_modifyHead]
      split
      · refine ⟨fun first isFirst => ?_, fun piece member => ?_⟩
        · cases isFirst
          exact List.nil_prefix
        · rcases List.mem_cons.mp member with rfl | inRest
          · exact List.nil_infix
          · exact (areParts piece inRest).trans (List.suffix_cons item rest).isInfix
      · cases pieces : rest.splitOnP separates with
        | nil =>
            simp
        | cons first others =>
            rw [pieces] at firstIsPrefix areParts
            have grown : item :: first <+: item :: rest :=
              (List.cons_prefix_cons).mpr ⟨rfl, firstIsPrefix first rfl⟩
            refine ⟨fun other isFirst => ?_, fun piece member => ?_⟩
            · cases isFirst
              exact grown
            · rcases List.mem_cons.mp member with rfl | inOthers
              · exact grown.isInfix
              · exact (areParts piece (List.mem_cons_of_mem first inOthers)).trans
                  (List.suffix_cons item rest).isInfix

namespace Token

/-!
## Faults of operands, conditions and arguments
-/

section Evaluation

variable
  (context : Context)
  {tokens : List Token}
  {token : Token}

/-- What comes of comparing, where both the operator and the right side are tokens. -/
theorem compareWith_among
    {left : Except Fault Value}
    (leftAmong : FaultAmong tokens left)
    {operator right : Token}
    (isOperator : operator ∈ tokens)
    (isRight : right ∈ tokens) :
    FaultAmong tokens (compareWith context left operator right) := by
  unfold compareWith
  cases right.plainValue? context with
  | none =>
      exact .error (.token isRight rfl)
  | some value =>
      refine Yields.bind leftAmong fun left _ => ?_
      cases operator.relation? with
      | none =>
          exact .error (.token isOperator rfl)
      | some relation =>
          exact .ok trivial

/-- Whether tokens are reduced to symbols, or have a fault among them. -/
def Reduces (tokens : List Token) : Prop :=
  Yields (fun fault : Fault => fault.FoundAmong tokens) (Reduced tokens)
    (symbols context tokens)

/-- Whether the tokens of a block are reduced, if a token is one. -/
def InsideReduces (token : Token) : Prop :=
  ∀ bracket inside span, token = .block bracket inside span → Reduces context inside

variable {context}

theorem Reduces.truth
    (reduces : Reduces context tokens) :
    FaultAmong tokens (truth context tokens) :=
  Yields.bind reduces fun _ reduced => reduced.conclude

theorem InsideReduces.value
    (insideReduces : InsideReduces context token)
    (member : token ∈ tokens) :
    FaultAmong tokens (token.value context) := by
  cases token with
  | block bracket inside span =>
      rw [value_block_eq_truth]
      exact ((insideReduces bracket inside span rfl).truth.outside member).bind fun _ _ =>
        .ok trivial
  | name _ _ | quotation _ _ _ | number _ _ =>
      simp only [Token.value, plainValue?]
      exact .ok trivial
  | operator _ _ | separator _ =>
      simp only [Token.value, plainValue?]
      exact .error (.token member rfl)

theorem InsideReduces.symbolsOf
    (insideReduces : InsideReduces context token) :
    Yields (fun fault : Fault => fault.FoundAmong [token]) (Reduced [token])
      (token.symbolsOf context) := by
  have atToken : ∀ fault : Fault, fault.span = token.span → fault.FoundAmong [token] :=
    fun _ same => .token List.mem_cons_self same
  cases token with
  | block bracket inside span =>
      simp only [Token.symbolsOf]
      refine ((insideReduces bracket inside span rfl).weaken fun _ found =>
        .inside List.mem_cons_self found).bind fun symbols reduced => ?_
      exact .ok (reduced.parenthesized bracket span)
  | operator text span =>
      simp only [Token.symbolsOf]
      cases isSymbol : Symbol.ofOperator? text with
      | none =>
          exact .error (atToken _ rfl)
      | some symbol =>
          exact .ok (.operator isSymbol span)
  | name _ _ | quotation _ _ _ | number _ _ =>
      simp only [Token.symbolsOf, plainValue?]
      exact .ok (.operand rfl atToken _)
  | separator _ =>
      simp only [Token.symbolsOf, plainValue?]
      exact .error (atToken _ rfl)

variable (context)

/-- Tokens are reduced to symbols or have a fault among them, however deeply blocks are
nested. -/
theorem reduces (tokens : List Token) :
    Reduces context tokens := by
  induction tokens using units_induction with
  | nil =>
      rw [Reduces, symbols]
      exact .ok .nothing
  | comparison left operator right rest starts insideHypothesis restHypothesis =>
      have compares :
          FaultAmong (left :: operator :: right :: rest)
            (compareWith context (left.value context) operator right) :=
        compareWith_among context (InsideReduces.value insideHypothesis List.mem_cons_self)
          (by simp) (by simp)
      rw [Reduces, symbols_of_startsComparison context starts]
      refine compares.bind fun holds _ => ?_
      refine (restHypothesis.weaken fun _ found =>
        found.ofPart (List.suffix_append [left, operator, right] rest).isInfix).bind
          fun others othersReduced => ?_
      exact .ok ((Reduced.comparison left operator right holds).append othersReduced)
  | single token rest startsNot insideHypothesis restHypothesis =>
      have first : InsideReduces context token := insideHypothesis
      rw [Reduces, symbols_of_not_startsComparison context startsNot]
      refine (first.symbolsOf.weaken fun _ found =>
        found.ofPart (List.prefix_append [token] rest).isInfix).bind
          fun symbols firstReduced => ?_
      refine (restHypothesis.weaken fun _ found =>
        found.ofPart (List.suffix_cons token rest).isInfix).bind fun others othersReduced => ?_
      exact .ok (firstReduced.append othersReduced)

theorem truth_among (tokens : List Token) :
    FaultAmong tokens (truth context tokens) :=
  (reduces context tokens).truth

theorem value_among
    (member : token ∈ tokens) :
    FaultAmong tokens (token.value context) :=
  InsideReduces.value (fun _ inside _ _ => reduces context inside) member

theorem argument_among (tokens : List Token) :
    FaultAmong tokens (argument context tokens) := by
  match tokens with
  | [token] =>
      exact value_among context List.mem_cons_self
  | [] =>
      exact .ok trivial
  | first :: second :: rest =>
      exact (truth_among context _).bind fun _ _ => .ok trivial

theorem mapM_argument_among
    {groups : List (List Token)}
    (areParts : ∀ group ∈ groups, group <:+: tokens) :
    FaultAmong tokens (groups.mapM (argument context)) := by
  induction groups with
  | nil =>
      exact .ok trivial
  | cons group groups inductionHypothesis =>
      obtain ⟨isPart, arePartsBehind⟩ := List.forall_mem_cons.mp areParts
      rw [List.mapM_cons]
      refine ((argument_among context group).ofPart isPart).bind fun value _ => ?_
      exact (inductionHypothesis arePartsBehind).bind fun values _ => .ok trivial

theorem arguments_among (tokens : List Token) :
    FaultAmong tokens (arguments context tokens) := by
  unfold arguments
  split
  · exact .ok trivial
  · exact mapM_argument_among context (Text.isInfix_of_mem_splitOnP _ _).2

/-!
## Faults of the parts of an instruction
-/

/-- Whether a fault is found among tokens or at an offset behind them. -/
def FoundUpTo
    (stop : Nat)
    (tokens : List Token)
    (fault : Fault) : Prop :=
  fault.FoundAmong tokens ∨ fault.span = ⟨stop, stop⟩

theorem FoundUpTo.ofPart
    {stop : Nat}
    {part : List Token}
    {fault : Fault}
    (found : FoundUpTo stop part fault)
    (isPart : part <:+: tokens) :
    FoundUpTo stop tokens fault :=
  found.imp_left fun among => among.ofPart isPart

/-- Whether what is taken from the front of tokens leaves the rest of them, or is a fault
among them or behind them. -/
def Takes
    {α : Type}
    (stop : Nat)
    (tokens : List Token)
    (outcome : Except Fault (α × List Token)) : Prop :=
  Yields (FoundUpTo stop tokens) (fun taken => taken.2 <:+ tokens) outcome

/-- What is done with the rest of the tokens goes wrong where the tokens are. -/
theorem Takes.bind
    {α β : Type}
    {stop : Nat}
    {outcome : Except Fault (α × List Token)}
    {next : α × List Token → Except Fault β}
    {results : β → Prop}
    (takes : Takes stop tokens outcome)
    (goesOn :
      ∀ taken, taken.2 <:+ tokens → Yields (FoundUpTo stop taken.2) results (next taken)) :
    Yields (FoundUpTo stop tokens) results (outcome >>= next) :=
  Yields.bind takes fun taken isRest =>
    (goesOn taken isRest).weaken fun _ found => found.ofPart isRest.isInfix

theorem takeNegation_among
    (stop : Nat)
    (tokens : List Token) :
    Takes stop tokens (takeNegation tokens) := by
  cases tokens with
  | nil =>
      exact .ok List.suffix_rfl
  | cons token rest =>
      cases token with
      | operator text span =>
          simp only [takeNegation]
          cases negations.lookup text with
          | none =>
              exact .error (.inl (.token List.mem_cons_self rfl))
          | some count =>
              exact .ok (List.suffix_cons _ rest)
      | name _ _ | quotation _ _ _ | number _ _ | block _ _ _ | separator _ =>
          exact .ok List.suffix_rfl

theorem subject_among
    (member : token ∈ tokens) :
    FaultAmong tokens (token.subject context) := by
  have values := value_among context member
  cases token with
  | name path span =>
      exact .ok trivial
  | quotation _ _ _ | number _ _ | operator _ _ | block _ _ _ | separator _ =>
      simp only [subject]
      exact values.bind fun _ _ => .ok trivial

/-- What is made of the first tokens leaves the others. -/
theorem takes_of_among
    {α β : Type}
    {outcome : Except Fault α}
    {make : α → β}
    (stop : Nat)
    (first rest : List Token)
    (found : FaultAmong (first ++ rest) outcome) :
    Takes stop (first ++ rest) (outcome >>= fun value => .ok (make value, rest)) :=
  (found.weaken fun _ among => .inl among).bind fun _ _ => .ok (List.suffix_append first rest)

theorem takeSubject_among
    (stop : Nat)
    (tokens : List Token) :
    Takes stop tokens (takeSubject context stop tokens) := by
  match tokens with
  | [] =>
      exact .error (.inr rfl)
  | [token] =>
      exact takes_of_among stop [token] [] (subject_among context List.mem_cons_self)
  | [token, second] =>
      exact takes_of_among stop [token] [second] (subject_among context List.mem_cons_self)
  | left :: comparison :: right :: rest =>
      simp only [takeSubject]
      split
      · have compares :
            FaultAmong ([left, comparison, right] ++ rest)
              (compare context left comparison right) :=
          compareWith_among context (value_among context List.mem_cons_self) (by simp) (by simp)
        exact takes_of_among stop [left, comparison, right] rest compares
      · exact takes_of_among stop [left] (comparison :: right :: rest)
          (subject_among context List.mem_cons_self)

theorem takeAction_among
    (stop : Nat)
    (tokens : List Token) :
    Takes stop tokens (takeAction stop tokens) := by
  cases tokens with
  | nil =>
      exact .error (.inr rfl)
  | cons token rest =>
      have atToken :
          ∀ fault : Fault, fault.span = token.span → FoundUpTo stop (token :: rest) fault :=
        fun _ same => .inl (.token List.mem_cons_self same)
      simp only [takeAction]
      cases token.actionWord? with
      | none =>
          exact .error (atToken _ rfl)
      | some word =>
          dsimp only
          cases Action.resolve? word with
          | none =>
              exact .error (atToken _ rfl)
          | some named =>
              exact .ok (List.suffix_cons token rest)

theorem takeParameter_suffix
    (embedded : Option String)
    (tokens : List Token) :
    (takeParameter embedded tokens).2 <:+ tokens := by
  cases tokens with
  | nil =>
      exact List.suffix_rfl
  | cons token rest =>
      cases embedded with
      | some parameter =>
          exact List.suffix_rfl
      | none =>
          simp only [takeParameter]
          cases token.parameterText? with
          | none =>
              exact List.suffix_rfl
          | some parameter =>
              exact List.suffix_cons token rest

theorem takeArguments_among
    (stop : Nat)
    (action : Action)
    (tokens : List Token) :
    Takes stop tokens (takeArguments context action tokens) := by
  unfold takeArguments
  split
  · rename_i inside span rest
    split
    · have evaluates :
          FaultAmong ([.block .round inside span] ++ rest) (arguments context inside) :=
        (arguments_among context inside).outside List.mem_cons_self
      exact takes_of_among stop [.block .round inside span] rest evaluates
    · exact .error (.inl (.token List.mem_cons_self rfl))
  · exact .ok List.suffix_rfl

theorem takeCondition_among (tokens : List Token) :
    FaultAmong tokens (takeCondition context tokens) := by
  unfold takeCondition
  split
  · exact .ok trivial
  · rename_i inside span rest
    refine ((truth_among context inside).outside List.mem_cons_self).bind fun truth _ => ?_
    cases rest with
    | nil =>
        exact .ok trivial
    | cons token rest =>
        exact .error (.token (by simp) rfl)
  · exact .error (.token List.mem_cons_self rfl)

/-- The fault of an instruction is found among its tokens or at its end. -/
theorem command_among
    (stop : Nat)
    (tokens : List Token) :
    Yields (FoundUpTo stop tokens) (fun _ => True) (command context stop tokens) := by
  unfold command
  refine (takeNegation_among stop tokens).bind fun ⟨count, afterNegation⟩ _ => ?_
  refine (takeSubject_among context stop afterNegation).bind fun ⟨subject, afterSubject⟩ _ => ?_
  refine (takeAction_among stop afterSubject).bind fun ⟨⟨action, embedded⟩, afterAction⟩ _ => ?_
  have afterParameter := (takeParameter_suffix embedded afterAction).isInfix
  refine Yields.weaken ?_ fun _ found => FoundUpTo.ofPart found afterParameter
  refine (takeArguments_among context stop action _).bind fun ⟨values, afterArguments⟩ _ => ?_
  refine (takeNegation_among stop afterArguments).bind fun ⟨count, afterNegation⟩ _ => ?_
  exact ((takeCondition_among context afterNegation).weaken fun _ among => .inl among).bind
    fun _ _ => .ok trivial

end Evaluation

end Token

/-!
## Faults lie in their instruction
-/

/-- Whether a fault is found between two offsets. -/
def Fault.Within
    (start stop : Nat)
    (fault : Fault) : Prop :=
  fault.span.Within start stop

/-- Among tokens in their places a fault is found where these are. -/
theorem Fault.FoundAmong.within
    {start stop : Nat}
    {tokens : List Token}
    {fault : Fault}
    (found : fault.FoundAmong tokens)
    (placed : Token.Placed start stop tokens) :
    fault.Within start stop := by
  unfold Fault.Within
  induction found generalizing start stop with
  | token member same =>
      rw [same]
      exact placed.within_of_mem member
  | behind member same =>
      have within := placed.within_of_mem member
      rw [same]
      exact ⟨Nat.le_trans within.begins within.ordered, Nat.le_refl _, within.ends⟩
  | @comparison tokens left operator right three same =>
      have placedThree := placed.sublist three.sublist
      have leftWithin := placedThree.head_within
      obtain ⟨_, leftNonempty, _, operatorNonempty, behind, rightNonempty, ends⟩ :=
        placedThree.inOrder
      rw [same]
      exact ⟨leftWithin.begins, by simp only at *; omega, ends⟩
  | opening member same =>
      have within := placed.within_of_mem member
      have room := (placed.inside member).le
      rw [same]
      exact ⟨within.begins, Nat.le_succ _, Nat.le_trans room within.ends⟩
  | closing member _ same =>
      have within := placed.within_of_mem member
      have room := (placed.inside member).le
      rw [same]
      exact ⟨Nat.le_trans within.begins (Nat.le_sub_one_of_lt room), Nat.sub_le _ _, within.ends⟩
  | inside member _ inductionHypothesis =>
      have within := placed.within_of_mem member
      exact (inductionHypothesis (placed.inside member)).weaken
        (Nat.le_succ_of_le within.begins) within.ends

/-- The fault of an instruction is found where its tokens are, or at its end. -/
theorem Token.command_within
    (context : Context)
    {start stop : Nat}
    {tokens : List Token}
    (placed : Placed start stop tokens) :
    Yields (Fault.Within start stop) (fun _ => True) (command context stop tokens) := by
  refine (command_among context stop tokens).weaken fun fault found => ?_
  rcases found with among | atEnd
  · exact among.within placed
  · rw [Fault.Within, atEnd]
    exact ⟨placed.le, Nat.le_refl stop, Nat.le_refl stop⟩

/-- The error of an instruction is the fault of its tokens and quotes its text. -/
theorem Instruction.command_eq_error
    {context : Context}
    {instruction : Instruction}
    {error : ParseError}
    (fails : instruction.command context = .error error) :
    Token.command context instruction.span.stop instruction.tokens = .error error.fault ∧
      error.instruction = instruction.source := by
  unfold Instruction.command at fails
  cases outcome : Token.command context instruction.span.stop instruction.tokens with
  | ok command =>
      rw [outcome] at fails
      cases fails
  | error fault =>
      rw [outcome] at fails
      cases fails
      exact ⟨rfl, rfl⟩

/--
Every error is located inside its instruction.  Whatever the source and the context,
the place of an error neither begins in front of the instruction nor ends behind it,
the instruction ends within the source, and the text that the error quotes is the text
of the source between the two ends of the instruction.
-/
theorem error_withinInstruction
    {source : String}
    {instruction : Instruction}
    (member : instruction ∈ instructions source)
    (context : Context)
    {error : ParseError}
    (fails : instruction.command context = .error error) :
    (instruction.span.start ≤ error.fault.span.start ∧
        error.fault.span.start ≤ error.fault.span.stop ∧
        error.fault.span.stop ≤ instruction.span.stop ∧
        instruction.span.stop ≤ source.utf8ByteSize) ∧
      error.instruction = instruction.source ∧
      instruction.source = Text.slice source instruction.span := by
  have lies := liesIn_of_mem_instructions member
  obtain ⟨outcome, quoted⟩ := Instruction.command_eq_error fails
  obtain ⟨begins, ordered, ends⟩ :=
    (Token.command_within context lies.placed).of_eq_error outcome
  exact ⟨⟨begins, ordered, ends, lies.ends⟩, quoted, lies.text⟩

/-- Of two blocks that the source leaves open the inner one has no operand at its end.
The parenthesis that closes it is found in the last byte of the source. -/
theorem error_withinInstruction_openBlocks :
    ∃ instruction ∈ instructions "a ., é . \x7b(b &&",
      ∃ error,
        instruction.command (.ofData .null) = .error error ∧
          instruction.span = ⟨5, 16⟩ ∧ error.fault.span = ⟨15, 16⟩ ∧
          (instruction.span.start ≤ error.fault.span.start ∧
            error.fault.span.start ≤ error.fault.span.stop ∧
            error.fault.span.stop ≤ instruction.span.stop ∧
            instruction.span.stop ≤ "a ., é . \x7b(b &&".utf8ByteSize) ∧
          error.instruction = instruction.source ∧
          instruction.source = Text.slice "a ., é . \x7b(b &&" instruction.span := by
  let inner : Token := .block .round [.name "b" ⟨12, 13⟩, .operator "&&" ⟨14, 16⟩] ⟨11, 16⟩
  let instruction : Instruction :=
    ⟨"é . \x7b(b &&", ⟨5, 16⟩,
      [.name "é" ⟨5, 7⟩, .name "." ⟨8, 9⟩, .block .brace [inner] ⟨10, 16⟩]⟩
  let error : ParseError :=
    ⟨.expression ⟨some .closing, .operand, ⟨15, 16⟩⟩, "é . \x7b(b &&"⟩
  have isLast : (instructions "a ., é . \x7b(b &&").getLast? = some instruction := by
    rfl
  have fails : instruction.command (.ofData .null) = .error error := by
    rfl
  have member := List.mem_of_getLast? isLast
  exact ⟨instruction, member, error, fails, rfl, rfl,
    error_withinInstruction member (.ofData .null) fails⟩

end DataBinding
