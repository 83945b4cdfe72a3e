import DataBinding.Proofs.BlockSubject
import DataBinding.Proofs.NumeralValue
import Mathlib.Logic.Function.Iterate

namespace DataBinding

/-!
# Truth of values and scalars

The truth of a value is asked for in two ways.  A condition asks the value itself.  A
command asks a scalar made of it, and that after some negations.  Scalars keep the
truth of the values that they are made of, so both agree, except that null stays null
under negation.
-/

/-!
## Sizes and numerals
-/

namespace Number

theorem isZero_ofUnits
    (negative : Bool)
    (units : Nat) :
    (ofUnits negative units).isZero = (units == 0) := by
  unfold ofUnits Magnitude.ofUnits?
  by_cases representable : Representable units
  · rw [dif_pos representable]
    rfl
  · have notZero : units ≠ 0 := by
      rintro rfl
      exact representable Magnitude.zero.representable
    rw [dif_neg representable]
    exact (beq_false_of_ne notZero).symm

/-- A count is rounded to zero only if it is zero. -/
theorem isZero_ofNat (count : Nat) :
    (ofNat count).isZero = (count == 0) := by
  rw [ofNat, ofRatio, isZero_ofUnits]
  cases count with
  | zero =>
      rw [Nat.zero_mul, roundedUnits_of_small Nat.zero_lt_one]
  | succ count =>
      have positive : 0 < (count + 1) * unitsPerOne / 1 := by
        rw [Nat.div_one]
        exact Nat.mul_pos (Nat.succ_pos count) unitsPerOne_pos
      have notZero : roundedUnits ((count + 1) * unitsPerOne) 1 ≠ 0 :=
        Nat.ne_of_gt
          (Nat.lt_of_lt_of_le (Nat.two_pow_pos _) (two_pow_log2_le_roundedUnits positive))
      rw [beq_false_of_ne notZero, beq_false_of_ne (Nat.succ_ne_zero count)]

theorem ofUnits_ne_nan
    (negative : Bool)
    (units : Nat) :
    ofUnits negative units ≠ .nan := by
  unfold ofUnits
  cases Magnitude.ofUnits? units <;> exact Number.noConfusion

theorem ofNat_ne_nan (count : Nat) :
    ofNat count ≠ .nan := by
  rw [ofNat, ofRatio]
  exact ofUnits_ne_nan false _

theorem isFinite_of_parse?
    {text : String}
    {number : Number}
    (read : parse? text = some number) :
    number.isFinite = true :=
  (Option.filter_eq_some_iff.mp read).2

end Number

/-!
## Scalars of values
-/

/-- Negations undo each other in pairs. -/
theorem iterate_not
    (count : Nat)
    (truth : Bool) :
    not^[count] truth = (truth ^^ decide (count % 2 = 1)) := by
  induction count generalizing truth with
  | zero =>
      simp
  | succ count inductionHypothesis =>
      rw [Function.iterate_succ_apply, inductionHypothesis]
      rcases Nat.mod_two_eq_zero_or_one count with even | odd
      · simp [even, Nat.add_mod]
      · simp [odd, Nat.add_mod]

namespace Value

theorem isTruthy_size (count : Nat) :
    (size count).isTruthy = (count != 0) := by
  have notNan : (Number.ofNat count != .nan) = true :=
    bne_iff_ne.mpr (Number.ofNat_ne_nan count)
  rw [size, isTruthy, Number.isZero_ofNat, notNan, Bool.and_true]
  rfl

/-- A scalar is as true as the value that it is made of. -/
theorem isTruthy_toScalar (value : Value) :
    value.toScalar.isTruthy = value.isTruthy := by
  cases value with
  | null | bool _ | number _ =>
      rfl
  | array items =>
      rw [toScalar, isTruthy_size]
      cases items <;> rfl
  | object fields =>
      rw [toScalar, isTruthy_size]
      cases fields <;> rfl
  | string text =>
      cases read : Number.parse? text with
      | none =>
          simp [toScalar, read]
      | some number =>
          -- a numeral is neither empty nor the name of NaN
          have notEmpty : text.isEmpty = false := by
            rw [Bool.eq_false_iff, ne_eq, String.isEmpty_iff]
            rintro rfl
            cases read
          have notNan : (number != .nan) = true := by
            refine bne_iff_ne.mpr ?_
            rintro rfl
            cases Number.isFinite_of_parse? read
          simp [toScalar, isTruthy, isTruthyText, read, notEmpty, notNan]

theorem toScalar_toScalar (value : Value) :
    value.toScalar.toScalar = value.toScalar := by
  cases value with
  | string text =>
      cases read : Number.parse? text <;> simp [toScalar, read]
  | null | bool _ | number _ | array _ | object _ =>
      rfl

theorem isNull_toScalar (value : Value) :
    value.toScalar.isNull = value.isNull := by
  cases value with
  | string text =>
      cases read : Number.parse? text <;> simp [toScalar, read, isNull]
  | null | bool _ | number _ | array _ | object _ =>
      rfl

/-- Negations turn round the truth of any value but null. -/
theorem isTruthy_negate
    (count : Nat)
    (value : Value) :
    (value.negate count).isTruthy = (!value.isNull && not^[count] value.isTruthy) := by
  unfold negate
  cases isNull : value.isNull with
  | true =>
      cases value <;> cases isNull
      simp [isTruthy]
  | false =>
      by_cases none : count = 0
      · simp [none]
      · simp [none, isTruthy, iterate_not]

end Value

/-!
## The truth of operands
-/

namespace Token

/-- A block with nothing but an operand inside is as true as the value of the
operand. -/
theorem truth_singleton
    {context : Context}
    {token : Token}
    {held : Value}
    (evaluated : token.value context = .ok held) :
    truth context [token] = .ok held.isTruthy := by
  have means : OperandMeans context token held :=
    (value_eq_ok_iff (fun _ inside _ _ => readAsUnits context inside) held).mp evaluated
  refine ((readAsUnits context [token]).truth_eq_ok_iff _).mpr
    (.formula (.operand rfl means .nil) ?_)
  exact ⟨.truth held.isTruthy, .ofConjunctive (.ofUnary (.truth _)), rfl⟩

theorem value_of_gives
    {context : Context}
    {token : Token}
    {given : Subject}
    (gives : (SubjectPart.single token).Gives context given) :
    token.value context = .ok given.value := by
  cases gives with
  | name path span =>
      simp [value, plainValue?]
  | unnamed _ evaluated =>
      exact evaluated

/-- An operand behind a negation is the subject if no comparison goes on behind it. -/
theorem exists_asks_single
    {context : Context}
    {stop : Nat}
    {negation? : Option (Located Negation)}
    {token : Token}
    {rest : List Token}
    {command : Command}
    (isOperand : token.isOperand = true)
    (noComparison : ∀ next ∈ rest.head?, next.isComparison = false)
    (taken :
      Token.command context stop (Negation.tokens negation? ++ token :: rest) = .ok command) :
    ∃ held,
      token.value context = .ok held ∧
        command.value = held.toScalar.negate (Negation.countOf negation?) := by
  obtain ⟨parts, ⟨written, grammatical⟩, asks⟩ := exists_splits_of_command taken
  obtain ⟨held, gives, shape⟩ := asks.subject
  rw [asks.negations] at shape
  have fits : (SubjectPart.single token).Fits rest := by
    refine ⟨isOperand, startsComparison_cons_eq_false ?_ token⟩
    rintro second third others rfl
    exact noComparison second rfl
  obtain ⟨sameNegation, sameTokens⟩ :=
    Negation.tokens_append_inj (CommandParts.operator?_first_subject grammatical)
      (fits.operator?_first rest) written
  obtain ⟨sameSubject, -⟩ :=
    SubjectPart.tokens_append_inj grammatical.subject fits sameTokens
  rw [sameSubject] at gives
  rw [sameNegation] at shape
  exact ⟨held, value_of_gives gives, shape⟩

end Token

/--
There is one notion of truth.  A scalar is as true as the value that it is made of, and
no other scalar can be made of it.  Negations turn its truth round each time, but null
stays false.  So a command whose subject is a single operand is as true as a block
around the operand, turned round by a single negation, unless the operand is null.
-/
theorem truth_isOneNotion :
    (∀ (value : Value) (count : Nat),
        value.toScalar.isTruthy = value.isTruthy ∧
          value.toScalar.toScalar = value.toScalar ∧
          (value.toScalar.negate count).isTruthy =
            (!value.isNull && not^[count] value.isTruthy)) ∧
      ∀ (context : Context) (instruction : Instruction)
          (negation? : Option (Located Negation)) (token : Token) (rest : List Token)
          (command : Command),
        instruction.tokens = Negation.tokens negation? ++ token :: rest →
        token.isOperand = true →
        (∀ next ∈ rest.head?, next.isComparison = false) →
        instruction.command context = .ok command →
        ∃ value truth,
          token.value context = .ok value ∧
            Token.truth context [token] = .ok truth ∧
            command.isTruthy =
              (!value.isNull && (truth ^^ decide (Negation.countOf negation? = 1))) := by
  have negated (value : Value) (count : Nat) :
      (value.toScalar.negate count).isTruthy =
        (!value.isNull && not^[count] value.isTruthy) := by
    rw [Value.isTruthy_negate, Value.isNull_toScalar, Value.isTruthy_toScalar]
  constructor
  · intro value count
    exact ⟨value.isTruthy_toScalar, value.toScalar_toScalar, negated value count⟩
  · intro context instruction negation? token rest command written isOperand noComparison taken
    have takenTokens := mapError_eq_ok_iff.mp taken
    rw [written] at takenTokens
    obtain ⟨value, evaluated, shape⟩ :=
      Token.exists_asks_single isOperand noComparison takenTokens
    refine ⟨value, value.isTruthy, evaluated, Token.truth_singleton evaluated, ?_⟩
    rw [Command.isTruthy, shape, negated]
    rcases negation? with _ | ⟨_ | _, _⟩ <;>
      simp [Negation.countOf, Negation.count]

/-- A text with blanks around a negative zero is false, so that its negation is true. -/
theorem truth_isOneNotion_signedZero :
    let context : Context := .ofData (.object [("total", .string " -0.0 ")])
    let total : Token := .name "total" ⟨1, 6⟩
    let instruction : Instruction :=
      ⟨"!total ?", ⟨0, 8⟩, [.operator "!" ⟨0, 1⟩, total, .name "?" ⟨7, 8⟩]⟩
    instructions "!total ?" = [instruction] ∧
      Token.truth context [total] = .ok false ∧
      ∃ command, instruction.command context = .ok command ∧ command.isTruthy = true := by
  intro context total instruction
  have taken :
      instruction.command context = .ok ⟨.toggle, .bool true, 1, some "total", none, [], true⟩ :=
    rfl
  obtain ⟨value, truth, evaluated, held, agrees⟩ :=
    truth_isOneNotion.2 context instruction (some ⟨.once, ⟨0, 1⟩⟩) total [.name "?" ⟨7, 8⟩] _
      rfl rfl (by simp [Token.isComparison, Token.relation?, Token.operator?]) taken
  obtain rfl : .string " -0.0 " = value := Except.ok.inj evaluated
  obtain rfl : truth = false := by
    simpa [Command.isTruthy, Value.isTruthy, Value.isNull, Negation.countOf, Negation.count]
      using agrees
  exact ⟨rfl, held, _, taken, rfl⟩

end DataBinding
