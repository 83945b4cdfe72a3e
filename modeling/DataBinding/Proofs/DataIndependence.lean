import DataBinding.Instruction.Prepare
import DataBinding.Proofs.BlockReading
import Mathlib.Data.List.Forall2

namespace DataBinding

/-!
# Validity does not depend on the data

An instruction is read in two contexts at once.  The two readings go through the same
steps: whatever is looked up, only truth values differ in the symbols of a formula,
and the machine that reads formulas never looks at a truth value to see what fits.
So both readings succeed, or both fail with the same fault in the same place.
-/

/-- Symbols that are the same but for the truth value of an operand. -/
inductive Symbol.Alike : Symbol → Symbol → Prop where
  | same
      (symbol : Symbol) :
      Alike symbol symbol
  | operands
      (value value' : Bool) :
      Alike (.operand value) (.operand value')

/-- Located symbols that stand in one place and are the same but for a truth value. -/
structure Symbol.AlikeInPlace (located located' : Located Symbol) : Prop where
  value :
    located.value.Alike located'.value
  span :
    located.span = located'.span

/-- Misfits that are the same but for the truth value of the operand found. -/
structure Formula.Misfit.Alike (misfit misfit' : Formula.Misfit) : Prop where
  found :
    Option.Rel Symbol.Alike misfit.found misfit'.found
  expected :
    misfit.expected = misfit'.expected
  span :
    misfit.span = misfit'.span

/-- Faults that are the same but for the truth value of an operand found in a
formula. -/
inductive Fault.Alike : Fault → Fault → Prop where
  | same
      (fault : Fault) :
      Alike fault fault
  | expressions
      {misfit misfit' : Formula.Misfit} :
      misfit.Alike misfit' →
      Alike (.expression misfit) (.expression misfit')

/-- Commands that are the same but for what was evaluated in them. -/
structure Command.Alike (command command' : Command) : Prop where
  action :
    command.action = command'.action
  negations :
    command.negations = command'.negations
  path? :
    command.path? = command'.path?
  parameter? :
    command.parameter? = command'.parameter?
  arguments :
    command.arguments.length = command'.arguments.length

namespace Fault.Alike

theorem kindName
    {fault fault' : Fault}
    (alike : Alike fault fault') :
    fault.cause.kindName = fault'.cause.kindName := by
  cases alike with
  | same =>
      rfl
  | expressions _ =>
      rfl

theorem span
    {fault fault' : Fault}
    (alike : Alike fault fault') :
    fault.span = fault'.span := by
  cases alike with
  | same =>
      rfl
  | expressions misfits =>
      exact misfits.span

end Fault.Alike

/--
Outcomes of two readings: both have values, which are related, or both have errors,
which are related too.
-/
inductive Both
    {ε ε' α α' : Type}
    (errors : ε → ε' → Prop)
    (values : α → α' → Prop) :
    Except ε α → Except ε' α' → Prop where
  | ok
      {value : α}
      {value' : α'} :
      values value value' →
      Both errors values (.ok value) (.ok value')
  | error
      {error : ε}
      {error' : ε'} :
      errors error error' →
      Both errors values (.error error) (.error error')

namespace Both

variable
    {ε ε' δ δ' α α' β β' : Type}
    {errors : ε → ε' → Prop}
    {errors' : δ → δ' → Prop}
    {values : α → α' → Prop}
    {results : β → β' → Prop}

theorem bind
    {first : Except ε α}
    {first' : Except ε' α'}
    {next : α → Except ε β}
    {next' : α' → Except ε' β'}
    (firstBoth : Both errors values first first')
    (nextBoth :
      ∀ value value', values value value' → Both errors results (next value) (next' value')) :
    Both errors results (first >>= next) (first' >>= next') := by
  cases firstBoth with
  | ok related =>
      exact nextBoth _ _ related
  | error related =>
      exact .error related

theorem mapError
    {first : Except ε α}
    {first' : Except ε' α'}
    {wording : ε → δ}
    {wording' : ε' → δ'}
    (firstBoth : Both errors values first first')
    (worded :
      ∀ error error', errors error error' → errors' (wording error) (wording' error')) :
    Both errors' values (first.mapError wording) (first'.mapError wording') := by
  cases firstBoth with
  | ok related =>
      exact .ok related
  | error related =>
      exact .error (worded _ _ related)

theorem refl
    {errors : ε → ε → Prop}
    {values : α → α → Prop}
    (sameErrors : ∀ error, errors error error)
    (sameValues : ∀ value, values value value)
    (outcome : Except ε α) :
    Both errors values outcome outcome := by
  cases outcome with
  | ok value =>
      exact .ok (sameValues value)
  | error error =>
      exact .error (sameErrors error)

end Both

/-- Two values of which nothing is said. -/
def anyTwo
    {α α' : Type}
    (_ : α)
    (_ : α') : Prop :=
  True

namespace Formula

/-- Machines of which one is inside as many parentheses as the other and wants the
same. -/
structure Reader.InStep (reader reader' : Reader) : Prop where
  wantsOperand :
    reader.wantsOperand = reader'.wantsOperand
  depth :
    reader.outer.length = reader'.outer.length

namespace Reader.InStep

theorem expected
    {reader reader' : Reader}
    (inStep : InStep reader reader') :
    reader.expected = reader'.expected := by
  obtain ⟨frame, outer, wantsOperand⟩ := reader
  obtain ⟨frame', outer', wantsOperand'⟩ := reader'
  obtain ⟨rfl, depth⟩ := inStep
  cases outer <;> cases outer' <;> simp_all [Reader.expected]

/-- Machines in step read symbols of one kind together, and stay in step. -/
theorem read?
    {reader reader' : Reader}
    {symbol symbol' : Symbol}
    (inStep : InStep reader reader')
    (alike : symbol.Alike symbol') :
    Option.Rel InStep (reader.read? symbol) (reader'.read? symbol') := by
  obtain ⟨frame, outer, wantsOperand⟩ := reader
  obtain ⟨frame', outer', wantsOperand'⟩ := reader'
  obtain ⟨rfl, depth⟩ := inStep
  cases alike with
  | operands value value' =>
      cases wantsOperand with
      | true =>
          exact .some ⟨rfl, depth⟩
      | false =>
          exact .none
  | same =>
      cases wantsOperand with
      | true =>
          cases symbol with
          | operand _ | negation | opening =>
              exact .some ⟨rfl, by simpa using depth⟩
          | conjunction | disjunction | closing =>
              exact .none
      | false =>
          cases symbol with
          | conjunction | disjunction =>
              exact .some ⟨rfl, depth⟩
          | operand _ | negation | opening =>
              exact .none
          | closing =>
              match outer, outer' with
              | [], [] =>
                  exact .none
              | _ :: _, _ :: _ =>
                  exact .some ⟨rfl, by simpa using depth⟩

/-- Machines in step read formulas of one shape to the same end. -/
theorem readAll
    {symbols symbols' : List (Located Symbol)}
    (alike : List.Forall₂ Symbol.AlikeInPlace symbols symbols')
    (start stop : Nat)
    {reader reader' : Reader}
    (inStep : InStep reader reader') :
    Both Misfit.Alike anyTwo (reader.readAll start stop symbols)
      (reader'.readAll start stop symbols') := by
  induction alike generalizing stop reader reader' with
  | nil =>
      simp only [Reader.readAll, inStep.expected]
      split
      · exact .ok trivial
      · exact .error ⟨.none, rfl, rfl⟩
  | @cons located located' rest rest' alike _ inductionHypothesis =>
      obtain ⟨symbol, span⟩ := located
      obtain ⟨symbol', span'⟩ := located'
      obtain ⟨sameKind, sameSpan⟩ := alike
      obtain rfl : span = span' := sameSpan
      simp only [Reader.readAll]
      have readBoth := inStep.read? sameKind
      cases read : reader.read? symbol <;> cases read' : reader'.read? symbol' <;>
        rw [read, read'] at readBoth <;> cases readBoth
      · exact .error ⟨.some sameKind, inStep.expected, rfl⟩
      · exact inductionHypothesis span.stop ‹_›

end Reader.InStep

/-- Formulas of one shape have values together, and otherwise go wrong in one place. -/
theorem both_evaluate
    {symbols symbols' : List (Located Symbol)}
    (alike : List.Forall₂ Symbol.AlikeInPlace symbols symbols')
    (stop : Nat) :
    Both Misfit.Alike anyTwo (evaluate symbols stop) (evaluate symbols' stop) :=
  Reader.InStep.readAll alike stop stop ⟨rfl, rfl⟩

end Formula

namespace Token

/-!
## Evaluating in two contexts
-/

/-- Lists of symbols that stand in the same places and are the same but for truth
values. -/
def AlikeSymbols (symbols symbols' : List (Located Symbol)) : Prop :=
  List.Forall₂ Symbol.AlikeInPlace symbols symbols'

theorem both_refl
    {α : Type}
    {values : α → α → Prop}
    (sameValues : ∀ value, values value value)
    (outcome : Except Fault α) :
    Both Fault.Alike values outcome outcome :=
  .refl .same sameValues outcome

theorem both_conclude
    (tokens : List Token)
    {symbols symbols' : List (Located Symbol)}
    (alike : AlikeSymbols symbols symbols') :
    Both Fault.Alike anyTwo (conclude tokens symbols) (conclude tokens symbols') := by
  unfold conclude
  cases alike with
  | nil =>
      exact .ok trivial
  | cons first rest =>
      simp only [reduceCtorEq, ↓reduceIte]
      exact (Formula.both_evaluate (.cons first rest) _).mapError
        fun _ _ misfits => .expressions misfits

theorem alikeInPlace_refl
    (located : Located Symbol) :
    Symbol.AlikeInPlace located located :=
  ⟨.same _, rfl⟩

theorem AlikeSymbols.append
    {first first' second second' : List (Located Symbol)}
    (firstAlike : AlikeSymbols first first')
    (secondAlike : AlikeSymbols second second') :
    AlikeSymbols (first ++ second) (first' ++ second') :=
  List.rel_append firstAlike secondAlike

theorem AlikeSymbols.parenthesized
    (span : Span)
    {inner inner' : List (Located Symbol)}
    (alike : AlikeSymbols inner inner') :
    AlikeSymbols (Token.parenthesized span inner) (Token.parenthesized span inner') := by
  cases alike with
  | nil =>
      exact List.forall₂_same.mpr fun located _ => alikeInPlace_refl located
  | cons first rest =>
      have closing :
          AlikeSymbols [⟨.closing, ⟨span.stop - 1, span.stop⟩⟩]
            [⟨.closing, ⟨span.stop - 1, span.stop⟩⟩] :=
        .cons (alikeInPlace_refl _) .nil
      exact .cons (alikeInPlace_refl _) (AlikeSymbols.append (.cons first rest) closing)

theorem rel_plainValue?
    (context context' : Context)
    (token : Token) :
    Option.Rel anyTwo (token.plainValue? context) (token.plainValue? context') := by
  cases token with
  | name _ _ | quotation _ _ _ | number _ _ =>
      exact .some trivial
  | operator _ _ | block _ _ _ | separator _ =>
      exact .none

theorem both_compareWith
    (context context' : Context)
    {left left' : Except Fault Value}
    (leftBoth : Both Fault.Alike anyTwo left left')
    (comparison right : Token) :
    Both Fault.Alike anyTwo (compareWith context left comparison right)
      (compareWith context' left' comparison right) := by
  unfold compareWith
  have rightRel := rel_plainValue? context context' right
  generalize right.plainValue? context = found at rightRel ⊢
  generalize right.plainValue? context' = found' at rightRel ⊢
  cases rightRel with
  | none =>
      exact .error (.same _)
  | some _ =>
      refine leftBoth.bind fun _ _ _ => ?_
      cases comparison.relation? with
      | none =>
          exact .error (.same _)
      | some relation =>
          exact .ok trivial

/-- Tokens whose symbols are alike in two contexts. -/
def AlikeIn
    (context context' : Context)
    (tokens : List Token) : Prop :=
  Both Fault.Alike AlikeSymbols (symbols context tokens) (symbols context' tokens)

namespace AlikeIn

variable
    {context context' : Context}
    {tokens : List Token}

theorem truth
    (alikeIn : AlikeIn context context' tokens) :
    Both Fault.Alike anyTwo (Token.truth context tokens) (Token.truth context' tokens) :=
  Both.bind alikeIn fun _ _ alike => both_conclude tokens alike

theorem value_block
    (alikeIn : AlikeIn context context' tokens)
    (bracket : Bracket)
    (span : Span) :
    Both Fault.Alike anyTwo (value context (.block bracket tokens span))
      (value context' (.block bracket tokens span)) := by
  rw [value_block_eq_truth, value_block_eq_truth]
  exact alikeIn.truth.bind fun _ _ _ => .ok trivial

end AlikeIn

/-- The values of an operand are found together, if the tokens inside it are alike. -/
theorem both_value_of_inside
    {context context' : Context}
    {token : Token}
    (insideAlike :
      ∀ bracket tokens span,
        token = .block bracket tokens span → AlikeIn context context' tokens) :
    Both Fault.Alike anyTwo (token.value context) (token.value context') := by
  cases token with
  | block bracket tokens span =>
      exact (insideAlike bracket tokens span rfl).value_block bracket span
  | name _ _ | quotation _ _ _ | number _ _ =>
      simp only [value, plainValue?]
      exact .ok trivial
  | operator _ _ | separator _ =>
      simp only [value, plainValue?]
      exact .error (.same _)

/-- A single token is reduced to symbols that are alike, if the tokens inside it are. -/
theorem both_symbolsOf
    {context context' : Context}
    {token : Token}
    (insideAlike :
      ∀ bracket tokens span,
        token = .block bracket tokens span → AlikeIn context context' tokens) :
    Both Fault.Alike AlikeSymbols (symbolsOf context token) (symbolsOf context' token) := by
  cases token with
  | block bracket tokens span =>
      simp only [symbolsOf]
      exact Both.bind (insideAlike bracket tokens span rfl)
        fun _ _ alike => .ok (alike.parenthesized span)
  | operator text span =>
      simp only [symbolsOf]
      exact both_refl (fun _ => List.forall₂_same.mpr fun located _ => alikeInPlace_refl located) _
  | name _ _ | quotation _ _ _ | number _ _ =>
      simp only [symbolsOf, plainValue?]
      exact .ok (.cons ⟨.operands _ _, rfl⟩ .nil)
  | separator span =>
      simp only [symbolsOf, plainValue?]
      exact .error (.same _)

/-- All tokens are reduced to symbols that are alike, however deeply blocks are
nested. -/
theorem alikeIn
    (context context' : Context)
    (tokens : List Token) :
    AlikeIn context context' tokens := by
  induction tokens using units_induction with
  | nil =>
      rw [AlikeIn, symbols, symbols]
      exact .ok .nil
  | comparison left operator right rest starts insideAlike restAlike =>
      rw [AlikeIn, symbols_of_startsComparison context starts,
        symbols_of_startsComparison context' starts]
      refine (both_compareWith context context'
        (both_value_of_inside insideAlike) operator right).bind fun _ _ _ => ?_
      exact Both.bind restAlike fun _ _ others => .ok (.cons ⟨.operands _ _, rfl⟩ others)
  | single token rest startsNot insideAlike restAlike =>
      rw [AlikeIn, symbols_of_not_startsComparison context startsNot,
        symbols_of_not_startsComparison context' startsNot]
      refine (both_symbolsOf insideAlike).bind fun _ _ first => ?_
      exact Both.bind restAlike fun _ _ others => .ok (first.append others)

section Command

variable (context context' : Context)

theorem both_truth
    (tokens : List Token) :
    Both Fault.Alike anyTwo (truth context tokens) (truth context' tokens) :=
  (alikeIn context context' tokens).truth

theorem both_value
    (token : Token) :
    Both Fault.Alike anyTwo (token.value context) (token.value context') :=
  both_value_of_inside fun _ tokens _ _ => alikeIn context context' tokens

theorem both_argument
    (tokens : List Token) :
    Both Fault.Alike anyTwo (argument context tokens) (argument context' tokens) := by
  unfold argument
  split
  · exact both_value context context' _
  · exact (both_truth context context' _).bind fun _ _ _ => .ok trivial

theorem both_arguments
    (tokens : List Token) :
    Both Fault.Alike (fun values values' => values.length = values'.length)
      (arguments context tokens) (arguments context' tokens) := by
  unfold arguments
  split
  · exact .ok rfl
  · generalize tokens.splitOnP isSeparator = groups
    induction groups with
    | nil =>
        exact .ok rfl
    | cons group groups inductionHypothesis =>
        simp only [List.mapM_cons]
        refine (both_argument context context' group).bind fun _ _ _ => ?_
        exact inductionHypothesis.bind fun _ _ sameLength => .ok (by simp [sameLength])

theorem both_subject
    (token : Token) :
    Both Fault.Alike (fun subject subject' => subject.path? = subject'.path?)
      (token.subject context) (token.subject context') := by
  cases token with
  | name path span =>
      exact .ok rfl
  | quotation _ _ _ | number _ _ | operator _ _ | block _ _ _ | separator _ =>
      simp only [subject]
      exact (both_value context context' _).bind fun _ _ _ => .ok rfl

/-- Subjects come from one path and leave the same tokens. -/
theorem both_takeSubject
    (stop : Nat)
    (tokens : List Token) :
    Both Fault.Alike
      (fun taken taken' => taken.1.path? = taken'.1.path? ∧ taken.2 = taken'.2)
      (takeSubject context stop tokens) (takeSubject context' stop tokens) := by
  unfold takeSubject
  split
  · exact .error (.same _)
  · split
    · refine (both_compareWith context context' (both_value context context' _) _ _).bind ?_
      exact fun _ _ _ => .ok ⟨rfl, rfl⟩
    · exact (both_subject context context' _).bind fun _ _ samePath => .ok ⟨samePath, rfl⟩
  · exact (both_subject context context' _).bind fun _ _ samePath => .ok ⟨samePath, rfl⟩

/-- Argument lists have one length and leave the same tokens. -/
theorem both_takeArguments
    (action : Action)
    (tokens : List Token) :
    Both Fault.Alike
      (fun taken taken' => taken.1.length = taken'.1.length ∧ taken.2 = taken'.2)
      (takeArguments context action tokens) (takeArguments context' action tokens) := by
  unfold takeArguments
  split
  · split
    · exact (both_arguments context context' _).bind
        fun _ _ sameLength => .ok ⟨sameLength, rfl⟩
    · exact .error (.same _)
  · exact .ok ⟨rfl, rfl⟩

theorem both_takeCondition
    (tokens : List Token) :
    Both Fault.Alike anyTwo (takeCondition context tokens) (takeCondition context' tokens) := by
  unfold takeCondition
  split
  · exact .ok trivial
  · refine (both_truth context context' _).bind fun _ _ _ => ?_
    split
    · exact .ok trivial
    · exact .error (.same _)
  · exact .error (.same _)

/-- Commands are read together, step by step. -/
theorem both_command
    (stop : Nat)
    (tokens : List Token) :
    Both Fault.Alike Command.Alike (Token.command context stop tokens)
      (Token.command context' stop tokens) := by
  unfold Token.command
  refine (both_refl (fun _ => rfl) (takeNegation tokens)).bind ?_
  rintro ⟨count, afterNegation⟩ _ rfl
  refine (both_takeSubject context context' stop afterNegation).bind ?_
  rintro ⟨subject, afterSubject⟩ ⟨subject', _⟩ ⟨samePath, rfl⟩
  refine (both_refl (fun _ => rfl) (takeAction stop afterSubject)).bind ?_
  rintro ⟨⟨action, embedded⟩, afterAction⟩ _ rfl
  refine (both_takeArguments context context' action _).bind ?_
  rintro ⟨values, afterArguments⟩ ⟨values', _⟩ ⟨sameLength, rfl⟩
  refine (both_refl (fun _ => rfl) (takeNegation afterArguments)).bind ?_
  rintro ⟨conditionCount, afterConditionNegation⟩ _ rfl
  refine (both_takeCondition context context' afterConditionNegation).bind ?_
  rintro truth truth' _
  exact .ok ⟨rfl, rfl, samePath, rfl, sameLength⟩

end Command

end Token

/--
Whatever the data, reading an instruction succeeds or fails in the same way.  Commands
have the same action, parameter, path and negations and as many arguments.  Errors have
one kind, place and instruction, and are the same but for the truth value of an operand
that does not fit in a formula.
-/
theorem command_independentOfData
    (context context' : Context)
    (instruction : Instruction) :
    Both
      (fun error error' =>
        error.fault.cause.kindName = error'.fault.cause.kindName ∧
          error.fault.span = error'.fault.span ∧
          error.fault.Alike error'.fault ∧
          error.instruction = error'.instruction)
      Command.Alike (instruction.command context) (instruction.command context') := by
  refine (Token.both_command context context' instruction.span.stop instruction.tokens).mapError
    fun fault fault' alike => ?_
  exact ⟨alike.kindName, alike.span, alike, rfl⟩

end DataBinding
