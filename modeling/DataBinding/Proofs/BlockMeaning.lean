import DataBinding.Instruction.Evaluation
import DataBinding.Proofs.FormulaGrammar

namespace DataBinding

/-!
# The meaning of a block

A block is read as units from left to right.  An operand, a comparison operator
and a third token are one unit, every other operand is a unit by itself, and what
remains are the operators of formulas.  A nested block is an operand like any
other: its value is the meaning of its own tokens, so that its operators never
meet those around it.
-/

theorem bind_eq_ok_iff
    {ε α β : Type}
    {computation : Except ε α}
    {continuation : α → Except ε β}
    {result : β} :
    (computation >>= continuation) = .ok result ↔
      ∃ value, computation = .ok value ∧ continuation value = .ok result := by
  cases computation with
  | error fault =>
      simp [bind, Except.bind]
  | ok value =>
      simp [bind, Except.bind]

theorem mapError_eq_ok_iff
    {ε ε' α : Type}
    {computation : Except ε α}
    {wording : ε → ε'}
    {result : α} :
    computation.mapError wording = .ok result ↔ computation = .ok result := by
  cases computation with
  | error fault =>
      constructor <;> intro same <;> cases same
  | ok value =>
      constructor <;> intro same <;> cases same <;> rfl

/-!
## What operators stand for
-/

namespace Relation

/-- What the operators of comparisons stand for. -/
inductive StandsFor : String → Relation → Prop where
  | equal :
      StandsFor "==" .equal
  | different :
      StandsFor "!=" .different
  | less :
      StandsFor "<" .less
  | atMost :
      StandsFor "<=" .atMost
  | greater :
      StandsFor ">" .greater
  | atLeast :
      StandsFor ">=" .atLeast

theorem operator_of_ofOperator?
    {text : String}
    {relation : Relation}
    (found : ofOperator? text = some relation) :
    relation.operator = text := by
  simpa using List.find?_some found

/-- These six operators are found, and no others. -/
theorem ofOperator?_eq_some_iff
    {text : String}
    {relation : Relation} :
    ofOperator? text = some relation ↔ StandsFor text relation := by
  constructor
  · intro found
    rw [← operator_of_ofOperator? found]
    cases relation with
    | equal => exact .equal
    | different => exact .different
    | less => exact .less
    | atMost => exact .atMost
    | greater => exact .greater
    | atLeast => exact .atLeast
  · intro stands
    cases stands <;> rfl

end Relation

namespace Symbol

/-- What the operators of formulas stand for. -/
inductive StandsFor : String → Symbol → Prop where
  | negation :
      StandsFor "!" .negation
  | conjunction :
      StandsFor "&&" .conjunction
  | disjunction :
      StandsFor "||" .disjunction

/-- These three operators are found, and no others. -/
theorem ofOperator?_eq_some_iff
    {text : String}
    {symbol : Symbol} :
    ofOperator? text = some symbol ↔ StandsFor text symbol := by
  constructor
  · intro found
    have member := List.mem_of_find?_eq_some found
    have sameText : symbol.text = text := by
      simpa using List.find?_some found
    simp only [List.mem_cons, List.not_mem_nil, or_false] at member
    subst sameText
    rcases member with rfl | rfl | rfl
    · exact .negation
    · exact .conjunction
    · exact .disjunction
  · intro stands
    cases stands <;> rfl

end Symbol

namespace Token

theorem relation?_operator
    {text : String}
    {relation : Relation}
    (stands : Relation.StandsFor text relation)
    (span : Span) :
    (operator text span).relation? = some relation :=
  Relation.ofOperator?_eq_some_iff.mpr stands

/-- Only operators ask for relations. -/
theorem exists_operator_of_relation?
    {token : Token}
    {relation : Relation}
    (asks : token.relation? = some relation) :
    ∃ text span, token = .operator text span ∧ Relation.StandsFor text relation := by
  cases token with
  | operator text span =>
      exact ⟨text, span, rfl, Relation.ofOperator?_eq_some_iff.mp asks⟩
  | name _ _ | quotation _ _ _ | number _ _ | block _ _ _ | separator _ =>
      cases asks

/-!
## What tokens mean
-/

/-- Whether tokens begin with an operand, a comparison operator and a further
token. -/
def startsComparison : List Token → Bool
  | left :: comparison :: _ :: _ => left.isOperand && comparison.isComparison
  | _ => false

/-- Induction along the units of tokens.  Besides those of the rest, what is inside the
first token may be used if it is a block. -/
@[elab_as_elim]
theorem units_induction
    {motive : List Token → Prop}
    (nil : motive [])
    (comparison :
      ∀ left operator right rest,
        startsComparison (left :: operator :: right :: rest) = true →
        (∀ bracket inside span, left = .block bracket inside span → motive inside) →
        motive rest →
        motive (left :: operator :: right :: rest))
    (single :
      ∀ token rest,
        startsComparison (token :: rest) = false →
        (∀ bracket inside span, token = .block bracket inside span → motive inside) →
        motive rest →
        motive (token :: rest))
    (tokens : List Token) :
    motive tokens := by
  match tokens with
  | [] =>
      exact nil
  | token :: rest =>
      have insideFirst :
          ∀ bracket inside span,
            token = .block bracket inside span → motive inside :=
        fun _ inside _ _ => units_induction nil comparison single inside
      cases starts : startsComparison (token :: rest) with
      | false =>
          exact single token rest starts insideFirst
            (units_induction nil comparison single rest)
      | true =>
          match rest with
          | [] | [_] =>
              cases starts
          | second :: right :: rest =>
              exact comparison token second right rest starts insideFirst
                (units_induction nil comparison single rest)
  termination_by sizeOf tokens

mutual

/-- The value of an operand. -/
inductive OperandMeans (context : Context) : Token → Value → Prop where
  | plain
      {token : Token}
      {value : Value} :
      token.plainValue? context = some value →
      OperandMeans context token value
  | block
      {bracket : Bracket}
      {tokens : List Token}
      {span : Span}
      {truth : Bool} :
      BlockMeans context tokens truth →
      OperandMeans context (.block bracket tokens span) (.bool truth)

/-- The units that tokens are read as: truth values and operators. -/
inductive UnitsMean (context : Context) : List Token → List Symbol → Prop where
  | nil :
      UnitsMean context [] []
  | comparison
      {left right : Token}
      {text : String}
      {span : Span}
      {rest : List Token}
      {relation : Relation}
      {leftValue rightValue : Value}
      {units : List Symbol} :
      OperandMeans context left leftValue →
      Relation.StandsFor text relation →
      right.plainValue? context = some rightValue →
      UnitsMean context rest units →
      UnitsMean context (left :: .operator text span :: right :: rest)
        (.operand (relation.holds leftValue.toScalar rightValue.toScalar) :: units)
  | operand
      {token : Token}
      {rest : List Token}
      {value : Value}
      {units : List Symbol} :
      startsComparison (token :: rest) = false →
      OperandMeans context token value →
      UnitsMean context rest units →
      UnitsMean context (token :: rest) (.operand value.isTruthy :: units)
  | operator
      {text : String}
      {span : Span}
      {rest : List Token}
      {symbol : Symbol}
      {units : List Symbol} :
      Symbol.StandsFor text symbol →
      UnitsMean context rest units →
      UnitsMean context (.operator text span :: rest) (symbol :: units)

/-- The truth value of the tokens inside a block. -/
inductive BlockMeans (context : Context) : List Token → Bool → Prop where
  | empty :
      BlockMeans context [] false
  | formula
      {tokens : List Token}
      {units : List Symbol}
      {truth : Bool} :
      UnitsMean context tokens units →
      Formula.Means units truth →
      BlockMeans context tokens truth

end

end Token

/-!
## Units hold no parentheses
-/

namespace Symbol

/-- Whether a symbol is no parenthesis. -/
def isFlat : Symbol → Bool
  | opening => false
  | closing => false
  | _ => true

theorem StandsFor.isFlat
    {text : String}
    {symbol : Symbol}
    (stands : StandsFor text symbol) :
    symbol.isFlat = true := by
  cases stands <;> rfl

end Symbol

namespace Formula.Reader

/-- Symbols without parentheses are read in the same way inside any others. -/
theorem run?_flat
    {symbols : List Symbol}
    (flat : ∀ symbol ∈ symbols, symbol.isFlat = true)
    (frame : Frame)
    (outer : List Frame)
    (wantsOperand : Bool) :
    run? ⟨frame, outer, wantsOperand⟩ symbols =
      (run? ⟨frame, [], wantsOperand⟩ symbols).map fun final =>
        ⟨final.frame, outer, final.wantsOperand⟩ := by
  induction symbols generalizing frame wantsOperand with
  | nil =>
      rfl
  | cons symbol rest inductionHypothesis =>
      have flatRest : ∀ other ∈ rest, other.isFlat = true :=
        fun other member => flat other (List.mem_cons_of_mem _ member)
      have flatSymbol : symbol.isFlat = true := flat symbol (by simp)
      cases symbol <;> cases wantsOperand <;>
        simp_all [run?_cons, read?, Symbol.isFlat]

theorem outer_run?_flat
    {symbols : List Symbol}
    (flat : ∀ symbol ∈ symbols, symbol.isFlat = true)
    {reader final : Reader}
    (run : reader.run? symbols = some final) :
    final.outer = reader.outer := by
  obtain ⟨frame, outer, wantsOperand⟩ := reader
  rw [run?_flat flat, Option.map_eq_some_iff] at run
  obtain ⟨_, _, rfl⟩ := run
  rfl

theorem run?_operand_iff
    {reader final : Reader}
    {truth : Bool} :
    reader.run? [.operand truth] = some final ↔
      reader.wantsOperand = true ∧
        final = ⟨reader.frame.take truth, reader.outer, false⟩ := by
  obtain ⟨frame, outer, wantsOperand⟩ := reader
  cases wantsOperand with
  | true =>
      simp [run?_cons, read?, eq_comm]
  | false =>
      simp [run?_cons, read?]

/-- Parentheses are read where an operand is wanted, by a frame of their own. -/
theorem run?_parentheses_iff
    {reader final : Reader}
    {inside : List Symbol} :
    reader.run? (.opening :: (inside ++ [.closing])) = some final ↔
      reader.wantsOperand = true ∧
        ∃ inner,
          run? ⟨.empty, reader.frame :: reader.outer, true⟩ inside = some inner ∧
            inner.read? .closing = some final := by
  obtain ⟨frame, outer, wantsOperand⟩ := reader
  cases wantsOperand with
  | true =>
      simp [run?_cons, run?_append, read?, Option.bind_eq_some_iff]
  | false =>
      simp [run?_cons, read?]

/-- Parentheses around symbols without any are an operand with the value of the
formula between them. -/
theorem run?_parentheses_flat_iff
    {reader final : Reader}
    {inside : List Symbol}
    (flat : ∀ symbol ∈ inside, symbol.isFlat = true) :
    reader.run? (.opening :: (inside ++ [.closing])) = some final ↔
      ∃ truth, Means inside truth ∧ reader.run? [.operand truth] = some final := by
  simp only [run?_parentheses_iff, run?_operand_iff, ← run?_start_iff]
  rw [run?_flat flat]
  constructor
  · intro reading
    rcases reading with ⟨wantsOperand, inner, run, closed⟩
    obtain ⟨complete, runAlone, rfl⟩ := Option.map_eq_some_iff.mp run
    have outermost := outer_run?_flat flat runAlone
    obtain ⟨frame, outer, wantsMore⟩ := complete
    cases wantsMore with
    | true =>
        simp [read?] at closed
    | false =>
        cases closed
        exact ⟨frame.value, ⟨⟨frame, outer, false⟩, runAlone, ⟨rfl, outermost⟩, rfl⟩,
          wantsOperand, rfl⟩
  · intro reading
    rcases reading with ⟨truth, ⟨complete, runAlone, ⟨hasOperand, outermost⟩, rfl⟩,
      wantsOperand, rfl⟩
    have runAgain : run? ⟨.empty, [], true⟩ inside = some complete := runAlone
    refine ⟨wantsOperand, _, Option.map_eq_some_iff.mpr ⟨complete, runAgain, rfl⟩, ?_⟩
    rw [hasOperand]
    rfl

end Formula.Reader

namespace Token

theorem UnitsMean.isFlat
    {context : Context} :
    ∀ {tokens : List Token} {units : List Symbol},
      UnitsMean context tokens units →
      ∀ symbol ∈ units, symbol.isFlat = true
  | _, _, .nil => by
      simp
  | _, _, .comparison _ _ _ restMean => by
      simpa [Symbol.isFlat] using restMean.isFlat
  | _, _, .operand _ _ restMean => by
      simpa [Symbol.isFlat] using restMean.isFlat
  | _, _, .operator stands restMean => by
      simpa [stands.isFlat] using restMean.isFlat

theorem not_means_nil
    (truth : Bool) :
    ¬Formula.Means [] truth := by
  intro reading
  rcases reading with ⟨expression, written, _⟩
  obtain ⟨frame, run, _⟩ := written.readAs []
  simp [Formula.Reader.run?] at run

theorem BlockMeans.nil_iff
    {context : Context}
    {truth : Bool} :
    BlockMeans context [] truth ↔ truth = false := by
  constructor
  · intro mean
    cases mean with
    | empty =>
        rfl
    | formula unitsMean means =>
        cases unitsMean
        exact (not_means_nil truth means).elim
  · rintro rfl
    exact .empty

/-- A block that is not empty means what its units mean as a formula. -/
theorem BlockMeans.iff_of_ne_nil
    {context : Context}
    {tokens : List Token}
    (nonempty : tokens ≠ [])
    {truth : Bool} :
    BlockMeans context tokens truth ↔
      ∃ units, UnitsMean context tokens units ∧ Formula.Means units truth := by
  constructor
  · intro mean
    cases mean with
    | empty =>
        exact (nonempty rfl).elim
    | formula unitsMean means =>
        exact ⟨_, unitsMean, means⟩
  · intro reading
    rcases reading with ⟨units, unitsMean, means⟩
    exact .formula unitsMean means

theorem OperandMeans.isOperand
    {context : Context}
    {token : Token}
    {value : Value}
    (means : OperandMeans context token value) :
    token.isOperand = true := by
  cases means with
  | plain found =>
      cases token with
      | name _ _ | quotation _ _ _ | number _ _ | block _ _ _ =>
          rfl
      | operator _ _ | separator _ =>
          simp [plainValue?] at found
  | block _ =>
      rfl

/-- The unit that a token is by itself. -/
inductive UnitMeans (context : Context) : Token → Symbol → Prop where
  | operand
      {token : Token}
      {value : Value} :
      OperandMeans context token value →
      UnitMeans context token (.operand value.isTruthy)
  | operator
      {text : String}
      {span : Span}
      {symbol : Symbol} :
      Symbol.StandsFor text symbol →
      UnitMeans context (.operator text span) symbol

/-- A token that begins no comparison is a unit in front of the others. -/
theorem UnitsMean.cons_iff
    {context : Context}
    {token : Token}
    {rest : List Token}
    (startsNot : startsComparison (token :: rest) = false)
    {units : List Symbol} :
    UnitsMean context (token :: rest) units ↔
      ∃ symbol others,
        UnitMeans context token symbol ∧
          UnitsMean context rest others ∧ units = symbol :: others := by
  constructor
  · intro mean
    cases mean with
    | comparison leftMeans stands _ _ =>
        simp [startsComparison, leftMeans.isOperand, isComparison,
          relation?_operator stands] at startsNot
    | operand _ tokenMeans restMean =>
        exact ⟨_, _, .operand tokenMeans, restMean, rfl⟩
    | operator stands restMean =>
        exact ⟨_, _, .operator stands, restMean, rfl⟩
  · intro reading
    rcases reading with ⟨symbol, others, tokenMeans, restMean, rfl⟩
    cases tokenMeans with
    | operand means =>
        exact .operand startsNot means restMean
    | operator stands =>
        exact .operator stands restMean

/-- An operand, a comparison operator and a third token are a unit in front of
the others. -/
theorem UnitsMean.comparison_iff
    {context : Context}
    {left comparison right : Token}
    {rest : List Token}
    (starts : startsComparison (left :: comparison :: right :: rest) = true)
    {units : List Symbol} :
    UnitsMean context (left :: comparison :: right :: rest) units ↔
      ∃ relation leftValue rightValue others,
        OperandMeans context left leftValue ∧
          comparison.relation? = some relation ∧
          right.plainValue? context = some rightValue ∧
          UnitsMean context rest others ∧
          units =
            .operand (relation.holds leftValue.toScalar rightValue.toScalar) ::
              others := by
  constructor
  · intro mean
    cases mean with
    | comparison leftMeans stands rightMeans restMean =>
        exact ⟨_, _, _, _, leftMeans, relation?_operator stands _, rightMeans, restMean, rfl⟩
    | operand startsNot _ _ =>
        rw [starts] at startsNot
        cases startsNot
    | operator _ _ =>
        simp [startsComparison, isOperand] at starts
  · intro reading
    rcases reading with
      ⟨relation, leftValue, rightValue, others, leftMeans, asks, rightMeans,
      restMean, rfl⟩
    obtain ⟨text, span, rfl, stands⟩ := exists_operator_of_relation? asks
    exact .comparison leftMeans stands rightMeans restMean

end Token

end DataBinding
