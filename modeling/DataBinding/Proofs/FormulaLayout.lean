import DataBinding.Proofs.FormulaGrammar

namespace DataBinding

namespace Formula

/-!
# Formulas with spare parentheses

A layout is an expression with, at each of its parts, a number of pairs of parentheses
that nothing asks for.  Written out it has these pairs and those that precedence asks
for: negation binds tighter than conjunction and conjunction tighter than disjunction,
and the right side of either is not of its own kind.  The layouts of an expression are
all its writings, so a formula has a value exactly when it is a layout written out.
-/

/-- A way of writing an expression: for each part of it, the pairs of parentheses around
it that precedence does not ask for. -/
inductive Layout where
  | truth (spare : Nat) (value : Bool)
  | negation (spare : Nat) (operand : Layout)
  | conjunction (spare : Nat) (left right : Layout)
  | disjunction (spare : Nat) (left right : Layout)
  deriving Repr, DecidableEq

/-- The pairs of parentheses that something with one binding needs in a place that asks
for another. -/
def Binding.needed : Binding → Binding → Nat
  | .unary, _ => 0
  | .conjunctive, .unary => 1
  | .conjunctive, _ => 0
  | .disjunctive, .disjunctive => 0
  | .disjunctive, _ => 1

/-- Symbols inside a number of pairs of parentheses. -/
def enclosed :
    Nat → List Symbol → List Symbol
  | 0, symbols => symbols
  | pairs + 1, symbols => .opening :: enclosed pairs symbols ++ [.closing]

namespace Layout

/-- The expression that is written. -/
def expression : Layout → Expression
  | truth _ value => .truth value
  | negation _ operand => .negation operand.expression
  | conjunction _ left right => .conjunction left.expression right.expression
  | disjunction _ left right => .disjunction left.expression right.expression

/-- How tightly a layout holds together without the parentheses around it. -/
def binding : Layout → Binding
  | truth _ _ => .unary
  | negation _ _ => .unary
  | conjunction _ _ _ => .conjunctive
  | disjunction _ _ _ => .disjunctive

/-- The pairs of parentheses around a layout that precedence does not ask for. -/
def spare : Layout → Nat
  | truth spare _ => spare
  | negation spare _ => spare
  | conjunction spare _ _ => spare
  | disjunction spare _ _ => spare

/-- All pairs of parentheses around a layout in a place. -/
def pairs
    (layout : Layout)
    (place : Binding) : Nat :=
  layout.binding.needed place + layout.spare

/-- The symbols of a layout without the parentheses around it. -/
def bare : Layout → List Symbol
  | truth _ value => [.operand value]
  | negation _ operand => .negation :: enclosed (operand.pairs .unary) operand.bare
  | conjunction _ left right =>
      enclosed (left.pairs .conjunctive) left.bare ++
        .conjunction :: enclosed (right.pairs .unary) right.bare
  | disjunction _ left right =>
      enclosed (left.pairs .disjunctive) left.bare ++
        .disjunction :: enclosed (right.pairs .conjunctive) right.bare

/-- The symbols of a layout in a place. -/
def symbols
    (layout : Layout)
    (place : Binding) : List Symbol :=
  enclosed (layout.pairs place) layout.bare

/-- A layout with another number of spare parentheses around it. -/
def respaced
    (spare : Nat) :
    Layout → Layout
  | truth _ value => truth spare value
  | negation _ operand => negation spare operand
  | conjunction _ left right => conjunction spare left right
  | disjunction _ left right => disjunction spare left right

section Respaced

variable
  (spare : Nat)
  (layout : Layout)

theorem expression_respaced :
    (layout.respaced spare).expression = layout.expression := by
  cases layout <;> rfl

theorem symbols_respaced
    (place : Binding) :
    (layout.respaced spare).symbols place =
      enclosed (layout.binding.needed place + spare) layout.bare := by
  cases layout <;> rfl

end Respaced

end Layout

/-!
## Layouts are writings
-/

theorem Written.weaken
    {own place : Binding}
    {expression : Expression}
    {symbols : List Symbol}
    (written : Written own expression symbols)
    (fits : own.needed place = 0) :
    Written place expression symbols := by
  cases own with
  | unary =>
      cases place with
      | unary =>
          exact written
      | conjunctive =>
          exact written.ofUnary
      | disjunctive =>
          exact written.ofUnary.ofConjunctive
  | conjunctive =>
      cases place with
      | unary =>
          cases fits
      | conjunctive =>
          exact written
      | disjunctive =>
          exact written.ofConjunctive
  | disjunctive =>
      cases place with
      | disjunctive =>
          exact written
      | unary | conjunctive =>
          cases fits

/-- In as many pairs of parentheses as a place needs, and in more, a writing fits the
place. -/
theorem Written.enclosed
    {own place : Binding}
    {expression : Expression}
    {symbols : List Symbol}
    (written : Written own expression symbols)
    {pairs : Nat}
    (enough : own.needed place ≤ pairs) :
    Written place expression (enclosed pairs symbols) := by
  induction pairs generalizing place with
  | zero =>
      exact written.weaken (Nat.le_zero.mp enough)
  | succ pairs inductionHypothesis =>
      have anyFits : own.needed .disjunctive ≤ pairs := by
        cases own <;> exact Nat.zero_le pairs
      exact (inductionHypothesis anyFits).parentheses.weaken rfl

namespace Layout

theorem needed_le_pairs
    (layout : Layout)
    (place : Binding) :
    layout.binding.needed place ≤ layout.pairs place :=
  Nat.le_add_right _ _

/-- Without the parentheses around it a layout writes its expression. -/
theorem written_bare
    (layout : Layout) :
    Written layout.binding layout.expression layout.bare := by
  induction layout with
  | truth spare value =>
      exact .truth value
  | negation spare operand inductionHypothesis =>
      exact (inductionHypothesis.enclosed (operand.needed_le_pairs .unary)).negation
  | conjunction spare left right leftHypothesis rightHypothesis =>
      exact (leftHypothesis.enclosed (left.needed_le_pairs .conjunctive)).conjunction
        (rightHypothesis.enclosed (right.needed_le_pairs .unary))
  | disjunction spare left right leftHypothesis rightHypothesis =>
      exact (leftHypothesis.enclosed (left.needed_le_pairs .disjunctive)).disjunction
        (rightHypothesis.enclosed (right.needed_le_pairs .conjunctive))

theorem written
    (layout : Layout)
    (place : Binding) :
    Written place layout.expression (layout.symbols place) :=
  layout.written_bare.enclosed (layout.needed_le_pairs place)

/-- A layout can have any number of pairs of parentheses that its place allows. -/
theorem exists_enclosed
    (layout : Layout)
    {place : Binding}
    {pairs : Nat}
    (enough : layout.binding.needed place ≤ pairs) :
    ∃ other : Layout,
      other.expression = layout.expression ∧
        other.symbols place = enclosed pairs layout.bare := by
  refine ⟨layout.respaced (pairs - layout.binding.needed place),
    layout.expression_respaced _, ?_⟩
  rw [symbols_respaced, Nat.add_sub_cancel' enough]

/-- What is written in a place that binds tighter has a layout in one that binds less. -/
theorem exists_looser
    (layout : Layout)
    {tight loose : Binding}
    (looser : layout.binding.needed loose ≤ layout.binding.needed tight) :
    ∃ other : Layout,
      other.expression = layout.expression ∧ other.symbols loose = layout.symbols tight :=
  layout.exists_enclosed (Nat.le_trans looser (layout.needed_le_pairs tight))

/-- A layout in parentheses is a layout of the same expression. -/
theorem exists_parenthesized
    (layout : Layout) :
    ∃ other : Layout,
      other.expression = layout.expression ∧
        other.symbols .unary = .opening :: layout.symbols .disjunctive ++ [.closing] := by
  have enough : layout.binding.needed .unary ≤ layout.pairs .disjunctive + 1 := by
    have atMostOne : layout.binding.needed .unary ≤ 1 := by
      cases layout.binding <;> decide
    omega
  exact layout.exists_enclosed enough

end Layout

/-- Every writing of an expression is a layout of it written out. -/
theorem Written.exists_layout
    {place : Binding}
    {expression : Expression}
    {symbols : List Symbol}
    (written : Written place expression symbols) :
    ∃ layout : Layout, layout.expression = expression ∧ layout.symbols place = symbols := by
  induction written with
  | truth value =>
      exact ⟨.truth 0 value, rfl, rfl⟩
  | parentheses _ inductionHypothesis =>
      obtain ⟨inner, rfl, rfl⟩ := inductionHypothesis
      exact inner.exists_parenthesized
  | negation _ inductionHypothesis =>
      obtain ⟨operand, rfl, rfl⟩ := inductionHypothesis
      exact ⟨.negation 0 operand, rfl, rfl⟩
  | ofUnary _ inductionHypothesis =>
      obtain ⟨layout, rfl, rfl⟩ := inductionHypothesis
      exact layout.exists_looser (by cases layout.binding <;> decide)
  | conjunction _ _ leftHypothesis rightHypothesis =>
      obtain ⟨left, rfl, rfl⟩ := leftHypothesis
      obtain ⟨right, rfl, rfl⟩ := rightHypothesis
      exact ⟨.conjunction 0 left right, rfl, rfl⟩
  | ofConjunctive _ inductionHypothesis =>
      obtain ⟨layout, rfl, rfl⟩ := inductionHypothesis
      exact layout.exists_looser (by cases layout.binding <;> decide)
  | disjunction _ _ leftHypothesis rightHypothesis =>
      obtain ⟨left, rfl, rfl⟩ := leftHypothesis
      obtain ⟨right, rfl, rfl⟩ := rightHypothesis
      exact ⟨.disjunction 0 left right, rfl, rfl⟩

/--
Formulas are read with the standard precedence.  A layout of an expression, with all the
parentheses that precedence asks for and any others, has the truth value of the
expression, and symbols that are no layout of any expression are an error.
-/
theorem evaluate_readsLayouts
    (symbols : List (Located Symbol))
    (stop : Nat) :
    (∀ layout : Layout,
        layout.symbols .disjunctive = symbols.map Located.value →
        evaluate symbols stop = .ok layout.expression.value) ∧
      ((∀ layout : Layout, layout.symbols .disjunctive ≠ symbols.map Located.value) →
        ∃ misfit, evaluate symbols stop = .error misfit) := by
  refine ⟨fun layout writes => ?_, fun writesNone => ?_⟩
  · rw [evaluate_eq_ok_iff, ← writes]
    exact ⟨layout.expression, layout.written .disjunctive, rfl⟩
  · cases outcome : evaluate symbols stop with
    | error misfit =>
        exact ⟨misfit, rfl⟩
    | ok value =>
        obtain ⟨expression, written, _⟩ := (evaluate_eq_ok_iff symbols stop value).mp outcome
        obtain ⟨layout, _, writes⟩ := written.exists_layout
        exact absurd writes (writesNone layout)

/-- The negation of a disjunction needs its parentheses, an operand may have two pairs of
them, and two operands side by side are no layout. -/
theorem evaluate_readsLayouts_spare :
    let layout : Layout :=
      .conjunction 0 (.negation 0 (.disjunction 0 (.truth 0 true) (.truth 0 false)))
        (.truth 2 true)
    let symbols : List Symbol :=
      [.negation, .opening, .operand true, .disjunction, .operand false, .closing, .conjunction,
        .opening, .opening, .operand true, .closing, .closing]
    let unmarked : List Symbol → List (Located Symbol) := List.map (⟨·, ⟨0, 0⟩⟩)
    layout.symbols .disjunctive = (unmarked symbols).map Located.value ∧
      evaluate (unmarked symbols) 0 = .ok layout.expression.value ∧
      (∀ other : Layout,
        other.symbols .disjunctive ≠
          (unmarked [.operand true, .operand false]).map Located.value) ∧
      ∃ misfit, evaluate (unmarked [.operand true, .operand false]) 0 = .error misfit := by
  intro layout symbols unmarked
  have writes : layout.symbols .disjunctive = (unmarked symbols).map Located.value := by
    decide
  have juxtaposed := evaluate_readsLayouts (unmarked [.operand true, .operand false]) 0
  have writesNone :
      ∀ other : Layout,
        other.symbols .disjunctive ≠
          (unmarked [.operand true, .operand false]).map Located.value := by
    intro other writesOther
    cases juxtaposed.1 other writesOther
  exact ⟨writes, (evaluate_readsLayouts (unmarked symbols) 0).1 layout writes, writesNone,
    juxtaposed.2 writesNone⟩

end Formula

end DataBinding
