import DataBinding.Proofs.CommandGrammar

namespace DataBinding

/-!
# The order of comparisons

Equality and order are decided apart from each other: one by going through two values,
the other by their places on a line, where they have any.  Where two values have an
order at all, it decides whether they are equal.  From this the six comparisons of
scalars fit together.
-/

/-!
## Numbers
-/

namespace Number

theorem compare?_eq_some_iff
    {left right : Number}
    {order : Ordering} :
    left.compare? right = some order ↔
      ∃ place place',
        left.position? = some place ∧ right.position? = some place' ∧
          compare place place' = order := by
  unfold compare?
  cases left.position? <;> cases right.position? <;> simp

theorem compare?_eq_none_iff
    {left right : Number} :
    left.compare? right = none ↔ left.position? = none ∨ right.position? = none := by
  unfold compare?
  cases left.position? <;> cases right.position? <;> simp

theorem compare?_swap
    (left right : Number) :
    right.compare? left = (left.compare? right).map Ordering.swap := by
  unfold compare?
  cases left.position? with
  | none =>
      cases right.position? <;> rfl
  | some place =>
      cases right.position? with
      | none =>
          rfl
      | some place' =>
          exact congrArg some Std.OrientedOrd.eq_swap

theorem compare?_lt_trans
    {first second third : Number}
    (before : first.compare? second = some .lt)
    (behind : second.compare? third = some .lt) :
    first.compare? third = some .lt := by
  obtain ⟨place, middle, atPlace, atMiddle, isBefore⟩ := compare?_eq_some_iff.mp before
  obtain ⟨_, place', atMiddle', atPlace', isBehind⟩ := compare?_eq_some_iff.mp behind
  obtain rfl : middle = _ := Option.some.inj (atMiddle.symm.trans atMiddle')
  exact compare?_eq_some_iff.mpr
    ⟨place, place', atPlace, atPlace', Std.TransCmp.lt_trans isBefore isBehind⟩

/-- Numbers are equal when their order says so, and unordered numbers never are. -/
theorem equal_eq_compare?
    (left right : Number) :
    left.equal right = (left.compare? right == some .eq) := by
  unfold equal compare?
  cases left.position? with
  | none =>
      cases right.position? <;> rfl
  | some place =>
      cases right.position? with
      | none =>
          rfl
      | some place' =>
          rw [Bool.eq_iff_iff, beq_iff_eq, beq_iff_eq, Option.some.injEq]
          exact Std.LawfulEqCmp.compare_eq_iff_eq.symm

theorem isSome_position?
    {number : Number}
    (notNan : number ≠ .nan) :
    number.position?.isSome = true := by
  rcases number with _ | (_ | _) | _
  · exact (notNan rfl).elim
  · rfl
  · rfl
  · rfl

/-- All numbers but NaN are ordered. -/
theorem isSome_compare?
    {left right : Number}
    (leftNotNan : left ≠ .nan)
    (rightNotNan : right ≠ .nan) :
    (left.compare? right).isSome = true := by
  rw [Option.isSome_iff_ne_none, ne_eq, compare?_eq_none_iff, not_or,
    ← ne_eq, ← ne_eq, ← Option.isSome_iff_ne_none, ← Option.isSome_iff_ne_none]
  exact ⟨isSome_position? leftNotNan, isSome_position? rightNotNan⟩

end Number

/-!
## Values
-/

namespace Value

/-- The values that have an order: numbers other than NaN, strings and truth values
among themselves. -/
inductive Ordered : Value → Value → Prop where
  | numbers
      {left right : Number} :
      left ≠ .nan →
      right ≠ .nan →
      Ordered (.number left) (.number right)
  | strings
      (left right : String) :
      Ordered (.string left) (.string right)
  | bools
      (left right : Bool) :
      Ordered (.bool left) (.bool right)

theorem compare?_swap
    (left right : Value) :
    right.compare? left = (left.compare? right).map Ordering.swap := by
  cases left <;> cases right <;> try rfl
  · exact congrArg some Std.OrientedOrd.eq_swap
  · exact Number.compare?_swap _ _
  · exact congrArg some Std.OrientedOrd.eq_swap

/-- What the order of two values comes from. -/
inductive Compared (order : Ordering) : Value → Value → Prop where
  | numbers
      {left right : Number} :
      left.compare? right = some order →
      Compared order (.number left) (.number right)
  | strings
      {left right : String} :
      compare left right = order →
      Compared order (.string left) (.string right)
  | bools
      {left right : Bool} :
      compare left right = order →
      Compared order (.bool left) (.bool right)

theorem compare?_eq_some_iff
    {left right : Value}
    {order : Ordering} :
    left.compare? right = some order ↔ Compared order left right := by
  constructor
  · intro compared
    unfold compare? at compared
    split at compared
    · exact .numbers compared
    · exact .strings (Option.some.inj compared)
    · exact .bools (Option.some.inj compared)
    · cases compared
  · intro compared
    cases compared with
    | numbers compared =>
        exact compared
    | strings compared | bools compared =>
        exact congrArg some compared

theorem compare?_lt_trans
    {first second third : Value}
    (before : first.compare? second = some .lt)
    (behind : second.compare? third = some .lt) :
    first.compare? third = some .lt := by
  rw [compare?_eq_some_iff] at *
  cases before with
  | numbers before =>
      cases behind with
      | numbers behind =>
          exact .numbers (Number.compare?_lt_trans before behind)
  | strings before =>
      cases behind with
      | strings behind =>
          exact .strings (Std.TransCmp.lt_trans before behind)
  | bools before =>
      cases behind with
      | bools behind =>
          exact .bools (Std.TransCmp.lt_trans before behind)

/-- Where values have an order, it decides whether they are equal. -/
theorem equal_of_compare?
    {left right : Value}
    {order : Ordering}
    (compared : left.compare? right = some order) :
    left.equal right = (order == .eq) := by
  cases compare?_eq_some_iff.mp compared with
  | numbers decided =>
      rw [equal, Number.equal_eq_compare?, decided]
      rfl
  | strings decided | bools decided =>
      rw [equal, Bool.eq_iff_iff, beq_iff_eq, beq_iff_eq, ← decided]
      exact Std.LawfulEqCmp.compare_eq_iff_eq.symm

theorem eq_null_of_isNull
    {value : Value}
    (isNull : value.isNull = true) :
    value = .null := by
  cases value <;> first | rfl | cases isNull

/-- Whether a value is no collection. -/
def isScalar : Value → Bool
  | array _ => false
  | object _ => false
  | _ => true

theorem isScalar_toScalar (value : Value) :
    value.toScalar.isScalar = true := by
  cases value with
  | string text =>
      cases read : Number.parse? text <;> simp [toScalar, read, isScalar]
  | null | bool _ | number _ | array _ | object _ =>
      rfl

/-- Values of different kinds are neither equal nor ordered. -/
theorem apart_of_kindName_ne
    {left right : Value}
    (different : left.kindName ≠ right.kindName) :
    left.equal right = false ∧ left.compare? right = none := by
  cases left <;> cases right <;> first | exact (different rfl).elim | exact ⟨by simp [equal], rfl⟩

/-- Scalars are equal when their order says so, and besides when both are null. -/
theorem equal_eq_compare?
    {left right : Value}
    (leftScalar : left.isScalar = true)
    (rightScalar : right.isScalar = true)
    (notNull : ¬ (left.isNull = true ∧ right.isNull = true)) :
    left.equal right = (left.compare? right == some .eq) := by
  by_cases sameKind : left.kindName = right.kindName
  · cases left <;> cases right <;> simp [kindName] at sameKind
    case null => exact (notNull ⟨rfl, rfl⟩).elim
    case bool => exact equal_of_compare? rfl
    case string => exact equal_of_compare? rfl
    case number => rw [equal, Number.equal_eq_compare?]; rfl
    case array => cases leftScalar
    case object => cases leftScalar
  · obtain ⟨notEqual, unordered⟩ := apart_of_kindName_ne sameKind
    rw [notEqual, unordered]
    rfl

theorem Ordered.isSome_compare?
    {left right : Value}
    (ordered : Ordered left right) :
    (left.compare? right).isSome = true := by
  cases ordered with
  | numbers leftNotNan rightNotNan =>
      exact Number.isSome_compare? leftNotNan rightNotNan
  | strings | bools =>
      rfl

end Value

/-!
## Relations
-/

namespace Relation

theorem holds_greater
    (left right : Value) :
    greater.holds left right = less.holds right left := by
  rw [holds, holds, Value.compare?_swap left right]
  rcases left.compare? right with _ | _ | _ | _ <;> rfl

theorem holds_atLeast
    (left right : Value) :
    atLeast.holds left right = atMost.holds right left := by
  rw [holds, holds, Value.compare?_swap left right]
  rcases left.compare? right with _ | _ | _ | _ <;> rfl

/-- What is before itself would be behind itself too. -/
theorem holds_less_self (value : Value) :
    less.holds value value = false := by
  have swapped := Value.compare?_swap value value
  rw [holds]
  cases compared : value.compare? value with
  | none =>
      rfl
  | some order =>
      rw [compared] at swapped
      cases order with
      | lt =>
          cases swapped
      | eq | gt =>
          rfl

/--
How the six relations fit together.  Things are compared by what scalars they have,
and `stands` tells whether two of them stand in a relation.
-/
structure FitTogether
    {α : Type}
    (scalar : α → Value)
    (stands : Relation → α → α → Bool) : Prop where
  different :
    ∀ left right, stands .different left right = !stands .equal left right
  greater :
    ∀ left right, stands .greater left right = stands .less right left
  atLeast :
    ∀ left right, stands .atLeast left right = stands .atMost right left
  atMost :
    ∀ left right,
      ¬ ((scalar left).isNull = true ∧ (scalar right).isNull = true) →
      stands .atMost left right = (stands .less left right || stands .equal left right)
  nulls :
    ∀ left right,
      (scalar left).isNull = true →
      (scalar right).isNull = true →
      stands .equal left right = true ∧ stands .atMost left right = false
  irreflexive :
    ∀ thing, stands .less thing thing = false
  transitive :
    ∀ first second third,
      stands .less first second = true →
      stands .less second third = true →
      stands .less first third = true
  exclusive :
    ∀ left right,
      stands .less left right = true →
      stands .less right left = false ∧ stands .equal left right = false
  trichotomous :
    ∀ left right,
      (scalar left).Ordered (scalar right) →
      [stands .less left right, stands .equal left right, stands .greater left right].count true = 1
  apart :
    ∀ left right,
      (scalar left).kindName ≠ (scalar right).kindName →
      ∀ relation, stands relation left right = decide (relation = .different)

/-- The relations of any scalars fit together. -/
theorem fitTogether_holds
    {α : Type}
    {scalar : α → Value}
    (isScalar : ∀ thing, (scalar thing).isScalar = true) :
    FitTogether scalar fun relation left right =>
      relation.holds (scalar left) (scalar right) where
  different _ _ := rfl
  greater left right := holds_greater (scalar left) (scalar right)
  atLeast left right := holds_atLeast (scalar left) (scalar right)
  atMost left right notNull := by
    simp only [holds, Value.equal_eq_compare? (isScalar left) (isScalar right) notNull]
  nulls left right leftNull rightNull := by
    simp only [holds, Value.eq_null_of_isNull leftNull, Value.eq_null_of_isNull rightNull]
    exact ⟨by rw [Value.equal], rfl⟩
  irreflexive thing := holds_less_self (scalar thing)
  transitive first second third before behind := by
    simp only [holds, beq_iff_eq] at *
    exact Value.compare?_lt_trans before behind
  exclusive left right before := by
    simp only [holds, beq_iff_eq] at before
    simp only [holds, Value.compare?_swap (scalar left) (scalar right), before,
      Value.equal_of_compare? before]
    exact ⟨rfl, rfl⟩
  trichotomous left right ordered := by
    obtain ⟨order, compared⟩ := Option.isSome_iff_exists.mp ordered.isSome_compare?
    simp only [holds, compared, Value.equal_of_compare? compared]
    cases order <;> rfl
  apart left right different relation := by
    obtain ⟨notEqual, unordered⟩ := Value.apart_of_kindName_ne different
    cases relation <;> simp [holds, notEqual, unordered]

theorem ofOperator?_operator (relation : Relation) :
    ofOperator? relation.operator = some relation := by
  cases relation <;> rfl

end Relation

/-!
## Comparisons of tokens
-/

/-- A token that may stand on either side of a comparison as a value of its own: a name
or a text. -/
structure Comparand where
  token : Token
  isPlain : token.isPlain = true

namespace Comparand

/-- The scalar that a name or a text is compared as. -/
def scalar
    (context : Context)
    (comparand : Comparand) : Value :=
  ((comparand.token.plainValue? context).getD .null).toScalar

/-- Whether the scalars of two names or texts stand in a relation. -/
def stands
    (context : Context)
    (relation : Relation)
    (left right : Comparand) : Bool :=
  relation.holds (left.scalar context) (right.scalar context)

theorem exists_plainValue?
    (context : Context)
    (comparand : Comparand) :
    ∃ value,
      comparand.token.plainValue? context = some value ∧
        comparand.token.value context = .ok value ∧
        comparand.scalar context = value.toScalar := by
  have isSome := (Token.isSome_plainValue? context comparand.token).trans comparand.isPlain
  obtain ⟨value, found⟩ := Option.isSome_iff_exists.mp isSome
  refine ⟨value, found, ?_, by rw [scalar, found]; rfl⟩
  exact (Token.value_eq_ok_iff (fun _ inside _ _ => Token.readAsUnits context inside) value).mpr
    (.plain found)

end Comparand

/--
The comparisons of names and texts are those of their scalars, and fit together.  What
is different is not equal, and the relations with the greater one in front are those
with the smaller one in front turned round.  Less is a strict partial order, which
leaves out what is equal; at most is less or equal, but for two nulls.  Numbers other
than NaN, strings and truth values are all ordered among themselves, and across kinds
everything is different and nothing else.
-/
theorem comparisons_fitTogether (context : Context) :
    (∀ comparand : Comparand,
        comparand.token.scalar context 0 = .ok (comparand.scalar context)) ∧
      (∀ (relation : Relation) (span : Span) (left right : Comparand),
        Token.compare context left.token (.operator relation.operator span) right.token =
          .ok (Comparand.stands context relation left right)) ∧
      Relation.FitTogether (Comparand.scalar context) (Comparand.stands context) := by
  refine ⟨fun comparand => ?_, fun relation span left right => ?_, ?_⟩
  · obtain ⟨value, -, evaluated, isScalar⟩ := comparand.exists_plainValue? context
    rw [Token.scalar, evaluated, isScalar]
    rfl
  · obtain ⟨leftValue, -, leftHas, leftScalar⟩ := left.exists_plainValue? context
    obtain ⟨rightValue, rightHas, -, rightScalar⟩ := right.exists_plainValue? context
    refine Token.compareWith_eq_ok_iff.mpr
      ⟨relation, leftValue, rightValue, leftHas, relation.ofOperator?_operator, rightHas, ?_⟩
    rw [Comparand.stands, leftScalar, rightScalar]
  · exact Relation.fitTogether_holds fun comparand => Value.isScalar_toScalar _

end DataBinding
