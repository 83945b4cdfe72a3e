import DataBinding.Proofs.BlockMeaning

namespace DataBinding.Token

/-!
# Evaluation finds the meaning of a block

Evaluation writes all nested blocks into one formula, each between parentheses.
Whatever machine reads that formula, it goes on behind the symbols of some tokens
exactly as it does behind their units.  From this the value of a block is the one
that it means, and a fault stands where it means nothing.
-/

/-!
## Symbols of tokens
-/

/-- The value of a block is the truth value of what is inside. -/
theorem value_block_eq_truth
    (context : Context)
    (bracket : Bracket)
    (inside : List Token)
    (span : Span) :
    value context (.block bracket inside span) =
      (truth context inside >>= fun truth => .ok (.bool truth)) := by
  rw [value, truth]
  cases symbols context inside <;> rfl

theorem symbols_of_startsComparison
    (context : Context)
    {left comparison right : Token}
    {rest : List Token}
    (starts : startsComparison (left :: comparison :: right :: rest) = true) :
    symbols context (left :: comparison :: right :: rest) =
      (compareWith context (value context left) comparison right >>= fun holds =>
        symbols context rest >>= fun others =>
          .ok (⟨.operand holds, ⟨left.span.start, right.span.stop⟩⟩ :: others)) := by
  rw [startsComparison] at starts
  rw [symbols, if_pos starts]

theorem symbols_of_not_startsComparison
    (context : Context)
    {token : Token}
    {rest : List Token}
    (startsNot : startsComparison (token :: rest) = false) :
    symbols context (token :: rest) =
      (symbolsOf context token >>= fun first =>
        symbols context rest >>= fun others => .ok (first ++ others)) := by
  match rest with
  | [] =>
      rw [symbols, symbols, symbols]
      rintro _ _ _ ⟨⟩
  | [second] =>
      rw [symbols]
      rintro _ _ _ ⟨⟩
  | second :: third :: rest =>
      rw [startsComparison] at startsNot
      rw [symbols, if_neg (by simp [startsNot])]

/-- A comparison has a result when its right side is a name or a text, its left
side has a value, and its operator asks for a relation. -/
theorem compareWith_eq_ok_iff
    {context : Context}
    {left : Except Fault Value}
    {operator right : Token}
    {holds : Bool} :
    compareWith context left operator right = .ok holds ↔
      ∃ relation leftValue rightValue,
        left = .ok leftValue ∧ operator.relation? = some relation ∧
          right.plainValue? context = some rightValue ∧
          relation.holds leftValue.toScalar rightValue.toScalar = holds := by
  unfold compareWith
  cases right.plainValue? context with
  | none =>
      simp
  | some rightValue =>
      simp only [bind_eq_ok_iff]
      cases operator.relation? with
      | none =>
          simp
      | some relation =>
          constructor
          · intro reading
            rcases reading with ⟨leftValue, leftHas, result⟩
            exact ⟨relation, leftValue, rightValue, leftHas, rfl, rfl, by
              simpa using result⟩
          · intro reading
            rcases reading with ⟨_, leftValue, _, leftHas, ⟨⟩, ⟨⟩, rfl⟩
            exact ⟨leftValue, leftHas, rfl⟩

theorem symbolsOf_of_plainValue?
    {context : Context}
    {token : Token}
    {result : Value}
    (found : token.plainValue? context = some result) :
    symbolsOf context token = .ok [⟨.operand result.isTruthy, token.span⟩] := by
  cases token with
  | name _ _ | quotation _ _ _ | number _ _ =>
      simp [symbolsOf, found]
  | operator _ _ | block _ _ _ | separator _ =>
      simp [plainValue?] at found

/-- A single token is reduced to no symbols at all only by a fault. -/
theorem symbolsOf_ne_nil
    {context : Context}
    {token : Token}
    {located : List (Located Symbol)}
    (reduced : symbolsOf context token = .ok located) :
    located ≠ [] := by
  rintro rfl
  cases token with
  | name text span =>
      simp [symbolsOf, plainValue?] at reduced
  | quotation quote text span =>
      simp [symbolsOf, plainValue?] at reduced
  | number value span =>
      simp [symbolsOf, plainValue?] at reduced
  | operator text span =>
      rw [symbolsOf] at reduced
      split at reduced <;> simp at reduced
  | block bracket tokens span =>
      rw [symbolsOf, bind_eq_ok_iff] at reduced
      obtain ⟨inner, _, written⟩ := reduced
      simp [parenthesized] at written
  | separator span =>
      simp [symbolsOf, plainValue?] at reduced

/--
Tokens written into the formula around them are read, by whatever machine they
meet, in the way in which their units are.
-/
def ReadAsUnits
    (context : Context)
    (tokens : List Token) : Prop :=
  ∀ (reader final : Formula.Reader),
    (∃ located,
        symbols context tokens = .ok located ∧
          reader.run? (located.map Located.value) = some final) ↔
      ∃ units, UnitsMean context tokens units ∧ reader.run? units = some final

theorem eq_nil_of_symbols_eq_nil
    {context : Context}
    {tokens : List Token}
    (reduced : symbols context tokens = .ok []) :
    tokens = [] := by
  match tokens with
  | [] =>
      rfl
  | token :: rest =>
      cases starts : startsComparison (token :: rest) with
      | true =>
          match rest with
          | [] =>
              simp [startsComparison] at starts
          | [second] =>
              simp [startsComparison] at starts
          | comparison :: right :: rest =>
              rw [symbols_of_startsComparison context starts] at reduced
              simp [bind_eq_ok_iff] at reduced
      | false =>
          rw [symbols_of_not_startsComparison context starts] at reduced
          simp only [bind_eq_ok_iff, Except.ok.injEq, List.append_eq_nil_iff] at reduced
          obtain ⟨first, firstReduced, _, _, firstEmpty, _⟩ := reduced
          exact (symbolsOf_ne_nil firstReduced firstEmpty).elim

namespace ReadAsUnits

theorem parentheses_iff
    {context : Context}
    {tokens : List Token}
    (readAsUnits : ReadAsUnits context tokens)
    (reader final : Formula.Reader) :
    (∃ located,
        symbols context tokens = .ok located ∧
          reader.run? (.opening :: (located.map Located.value ++ [.closing])) =
            some final) ↔
      ∃ units,
        UnitsMean context tokens units ∧
          reader.run? (.opening :: (units ++ [.closing])) = some final := by
  simp only [Formula.Reader.run?_parentheses_iff]
  constructor
  · intro reading
    rcases reading with ⟨located, reduced, wantsOperand, inner, run, closed⟩
    obtain ⟨units, unitsMean, runUnits⟩ :=
      (readAsUnits _ inner).mp ⟨located, reduced, run⟩
    exact ⟨units, unitsMean, wantsOperand, inner, runUnits, closed⟩
  · intro reading
    rcases reading with ⟨units, unitsMean, wantsOperand, inner, run, closed⟩
    obtain ⟨located, reduced, runLocated⟩ :=
      (readAsUnits _ inner).mpr ⟨units, unitsMean, run⟩
    exact ⟨located, reduced, wantsOperand, inner, runLocated, closed⟩

/-- A block is read as an operand with the truth value that it means. -/
theorem parenthesized_iff
    {context : Context}
    {tokens : List Token}
    (readAsUnits : ReadAsUnits context tokens)
    (span : Span)
    (reader final : Formula.Reader) :
    (∃ located,
        symbols context tokens = .ok located ∧
          reader.run? ((parenthesized span located).map Located.value) =
            some final) ↔
      ∃ truth,
        BlockMeans context tokens truth ∧
          reader.run? [.operand truth] = some final := by
  by_cases empty : tokens = []
  · subst empty
    have falsehood :
        reader.run? [.opening, .operand false, .closing] =
          reader.run? [.operand false] := by
      obtain ⟨frame, outer, wantsOperand⟩ := reader
      cases wantsOperand <;> rfl
    simp [symbols, parenthesized, BlockMeans.nil_iff, falsehood]
  · have written :
        (∃ located,
            symbols context tokens = .ok located ∧
              reader.run? ((parenthesized span located).map Located.value) =
                some final) ↔
          ∃ located,
            symbols context tokens = .ok located ∧
              reader.run? (.opening :: (located.map Located.value ++ [.closing])) =
                some final := by
      refine exists_congr fun located => and_congr_right fun reduced => ?_
      have nonempty : located ≠ [] := by
        rintro rfl
        exact empty (eq_nil_of_symbols_eq_nil reduced)
      simp [parenthesized, nonempty]
    rw [written, readAsUnits.parentheses_iff]
    simp only [BlockMeans.iff_of_ne_nil empty]
    constructor
    · intro reading
      rcases reading with ⟨units, unitsMean, run⟩
      obtain ⟨truth, means, runTruth⟩ :=
        (Formula.Reader.run?_parentheses_flat_iff unitsMean.isFlat).mp run
      exact ⟨truth, ⟨units, unitsMean, means⟩, runTruth⟩
    · intro reading
      rcases reading with ⟨truth, ⟨units, unitsMean, means⟩, runTruth⟩
      exact ⟨units, unitsMean,
        (Formula.Reader.run?_parentheses_flat_iff unitsMean.isFlat).mpr
          ⟨truth, means, runTruth⟩⟩

/-- The truth value of tokens is the one that they mean. -/
theorem truth_eq_ok_iff
    {context : Context}
    {tokens : List Token}
    (readAsUnits : ReadAsUnits context tokens)
    (result : Bool) :
    truth context tokens = .ok result ↔ BlockMeans context tokens result := by
  by_cases empty : tokens = []
  · subst empty
    simp [truth, symbols, conclude, bind, Except.bind, BlockMeans.nil_iff, eq_comm]
  · have concluded :
        truth context tokens = .ok result ↔
          ∃ located,
            symbols context tokens = .ok located ∧
              Formula.Means (located.map Located.value) result := by
      simp only [truth, bind_eq_ok_iff]
      refine exists_congr fun located => and_congr_right fun reduced => ?_
      have nonempty : located ≠ [] := by
        rintro rfl
        exact empty (eq_nil_of_symbols_eq_nil reduced)
      rw [conclude, if_neg nonempty, mapError_eq_ok_iff, Formula.evaluate_eq_ok_iff]
    rw [concluded, BlockMeans.iff_of_ne_nil empty]
    simp only [← Formula.run?_start_iff]
    constructor
    · intro reading
      rcases reading with ⟨located, reduced, final, run, complete⟩
      obtain ⟨units, unitsMean, runUnits⟩ :=
        (readAsUnits _ final).mp ⟨located, reduced, run⟩
      exact ⟨units, unitsMean, final, runUnits, complete⟩
    · intro reading
      rcases reading with ⟨units, unitsMean, final, run, complete⟩
      obtain ⟨located, reduced, runLocated⟩ :=
        (readAsUnits _ final).mpr ⟨units, unitsMean, run⟩
      exact ⟨located, reduced, final, runLocated, complete⟩

theorem value_block_eq_ok_iff
    {context : Context}
    {tokens : List Token}
    (readAsUnits : ReadAsUnits context tokens)
    (bracket : Bracket)
    (span : Span)
    (result : Value) :
    value context (.block bracket tokens span) = .ok result ↔
      OperandMeans context (.block bracket tokens span) result := by
  rw [value_block_eq_truth, bind_eq_ok_iff]
  simp only [readAsUnits.truth_eq_ok_iff, Except.ok.injEq]
  constructor
  · intro reading
    rcases reading with ⟨held, means, rfl⟩
    exact .block means
  · intro means
    cases means with
    | plain found =>
        simp [plainValue?] at found
    | block means =>
        exact ⟨_, means, rfl⟩

theorem nil (context : Context) :
    ReadAsUnits context [] := by
  intro reader final
  constructor
  · intro reading
    rcases reading with ⟨located, reduced, run⟩
    rw [symbols] at reduced
    cases reduced
    exact ⟨[], .nil, run⟩
  · intro reading
    rcases reading with ⟨units, unitsMean, run⟩
    cases unitsMean
    exact ⟨[], by rw [symbols], run⟩

/-- A token that is read as a unit, and others behind it that are read as units. -/
theorem cons
    {context : Context}
    {token : Token}
    {rest : List Token}
    (startsNot : startsComparison (token :: rest) = false)
    (tokenRead :
      ∀ (reader final : Formula.Reader),
        (∃ located,
            symbolsOf context token = .ok located ∧
              reader.run? (located.map Located.value) = some final) ↔
          ∃ symbol,
            UnitMeans context token symbol ∧ reader.run? [symbol] = some final)
    (restRead : ReadAsUnits context rest) :
    ReadAsUnits context (token :: rest) := by
  intro reader final
  simp only [symbols_of_not_startsComparison context startsNot, bind_eq_ok_iff,
    UnitsMean.cons_iff startsNot]
  constructor
  · intro reading
    rcases reading with ⟨_, ⟨first, firstReduced, others, othersReduced, ⟨⟩⟩, run⟩
    rw [List.map_append, Formula.Reader.run?_append, Option.bind_eq_some_iff] at run
    obtain ⟨next, runFirst, runOthers⟩ := run
    obtain ⟨symbol, tokenMeans, runSymbol⟩ :=
      (tokenRead reader next).mp ⟨first, firstReduced, runFirst⟩
    obtain ⟨units, unitsMean, runUnits⟩ :=
      (restRead next final).mp ⟨others, othersReduced, runOthers⟩
    refine ⟨symbol :: units, ⟨symbol, units, tokenMeans, unitsMean, rfl⟩, ?_⟩
    rw [← List.singleton_append, Formula.Reader.run?_append, runSymbol]
    exact runUnits
  · intro reading
    rcases reading with ⟨_, ⟨symbol, units, tokenMeans, unitsMean, rfl⟩, run⟩
    rw [← List.singleton_append, Formula.Reader.run?_append,
      Option.bind_eq_some_iff] at run
    obtain ⟨next, runSymbol, runUnits⟩ := run
    obtain ⟨first, firstReduced, runFirst⟩ :=
      (tokenRead reader next).mpr ⟨symbol, tokenMeans, runSymbol⟩
    obtain ⟨others, othersReduced, runOthers⟩ :=
      (restRead next final).mpr ⟨units, unitsMean, runUnits⟩
    refine ⟨first ++ others, ⟨first, firstReduced, others, othersReduced, rfl⟩, ?_⟩
    rw [List.map_append, Formula.Reader.run?_append, runFirst]
    exact runOthers

/-- A comparison whose left side has the value that it means, and others behind it
that are read as units. -/
theorem comparison
    {context : Context}
    {left comparison right : Token}
    {rest : List Token}
    (starts : startsComparison (left :: comparison :: right :: rest) = true)
    (leftValued :
      ∀ result, value context left = .ok result ↔ OperandMeans context left result)
    (restRead : ReadAsUnits context rest) :
    ReadAsUnits context (left :: comparison :: right :: rest) := by
  intro reader final
  simp only [symbols_of_startsComparison context starts, bind_eq_ok_iff,
    UnitsMean.comparison_iff starts, compareWith_eq_ok_iff, leftValued]
  constructor
  · intro reading
    rcases reading with
      ⟨_, ⟨_, ⟨relation, leftValue, rightValue, leftMeans, asks, rightMeans, rfl⟩,
      others, othersReduced, ⟨⟩⟩, run⟩
    rw [List.map_cons, Formula.Reader.run?_cons, Option.bind_eq_some_iff] at run
    obtain ⟨next, read, runOthers⟩ := run
    obtain ⟨units, unitsMean, runUnits⟩ :=
      (restRead next final).mp ⟨others, othersReduced, runOthers⟩
    refine ⟨_, ⟨relation, leftValue, rightValue, units, leftMeans, asks, rightMeans,
      unitsMean, rfl⟩, ?_⟩
    rw [Formula.Reader.run?_cons, read]
    exact runUnits
  · intro reading
    rcases reading with
      ⟨_, ⟨relation, leftValue, rightValue, units, leftMeans, asks, rightMeans,
      unitsMean, rfl⟩, run⟩
    rw [Formula.Reader.run?_cons, Option.bind_eq_some_iff] at run
    obtain ⟨next, read, runUnits⟩ := run
    obtain ⟨others, othersReduced, runOthers⟩ :=
      (restRead next final).mpr ⟨units, unitsMean, runUnits⟩
    refine ⟨_, ⟨_, ⟨relation, leftValue, rightValue, leftMeans, asks, rightMeans, rfl⟩,
      others, othersReduced, rfl⟩, ?_⟩
    rw [List.map_cons, Formula.Reader.run?_cons, read]
    exact runOthers

end ReadAsUnits

/-- The value of an operand is the one that it means, if the tokens inside it are
read as units. -/
theorem value_eq_ok_iff
    {context : Context}
    {token : Token}
    (insideRead :
      ∀ bracket tokens span,
        token = .block bracket tokens span → ReadAsUnits context tokens)
    (result : Value) :
    value context token = .ok result ↔ OperandMeans context token result := by
  cases token with
  | block bracket tokens span =>
      exact (insideRead bracket tokens span rfl).value_block_eq_ok_iff
        bracket span result
  | name _ _ | quotation _ _ _ | number _ _ =>
      constructor
      · intro evaluated
        simp only [value, plainValue?, Except.ok.injEq] at evaluated
        exact .plain (by simp [plainValue?, evaluated])
      · intro means
        cases means with
        | plain found =>
            simpa [value, plainValue?] using found
  | operator _ _ | separator _ =>
      constructor
      · intro evaluated
        simp [value, plainValue?] at evaluated
      · intro means
        cases means with
        | plain found =>
            simp [plainValue?] at found

/-- A single token is read as the unit that it is, if the tokens inside it are
read as units. -/
theorem symbolsOf_read_iff
    {context : Context}
    {token : Token}
    (insideRead :
      ∀ bracket tokens span,
        token = .block bracket tokens span → ReadAsUnits context tokens)
    (reader final : Formula.Reader) :
    (∃ located,
        symbolsOf context token = .ok located ∧
          reader.run? (located.map Located.value) = some final) ↔
      ∃ symbol,
        UnitMeans context token symbol ∧ reader.run? [symbol] = some final := by
  cases token with
  | block bracket tokens span =>
      have parenthesized :=
        (insideRead bracket tokens span rfl).parenthesized_iff span reader final
      constructor
      · intro reading
        rcases reading with ⟨located, reduced, run⟩
        rw [symbolsOf, bind_eq_ok_iff] at reduced
        obtain ⟨inner, innerReduced, ⟨⟩⟩ := reduced
        obtain ⟨truth, means, runTruth⟩ := parenthesized.mp ⟨inner, innerReduced, run⟩
        exact ⟨.operand truth, .operand (.block means), runTruth⟩
      · intro reading
        rcases reading with ⟨symbol, unitMeans, run⟩
        cases unitMeans with
        | operand operandMeans =>
            cases operandMeans with
            | plain found =>
                simp [plainValue?] at found
            | block means =>
                obtain ⟨inner, innerReduced, runInner⟩ :=
                  parenthesized.mpr ⟨_, means, run⟩
                refine ⟨_, ?_, runInner⟩
                rw [symbolsOf, bind_eq_ok_iff]
                exact ⟨inner, innerReduced, rfl⟩
  | operator text span =>
      constructor
      · intro reading
        rcases reading with ⟨located, reduced, run⟩
        rw [symbolsOf] at reduced
        cases found : Symbol.ofOperator? text with
        | none =>
            simp [found] at reduced
        | some symbol =>
            simp only [found, Except.ok.injEq] at reduced
            subst reduced
            exact ⟨symbol, .operator (Symbol.ofOperator?_eq_some_iff.mp found), run⟩
      · intro reading
        rcases reading with ⟨symbol, unitMeans, run⟩
        cases unitMeans with
        | operand operandMeans =>
            cases operandMeans.isOperand
        | operator stands =>
            have found := Symbol.ofOperator?_eq_some_iff.mpr stands
            exact ⟨[⟨symbol, span⟩], by simp [symbolsOf, found], run⟩
  | separator span =>
      constructor
      · intro reading
        rcases reading with ⟨located, reduced, _⟩
        simp [symbolsOf, plainValue?] at reduced
      · intro reading
        rcases reading with ⟨symbol, unitMeans, _⟩
        cases unitMeans with
        | operand operandMeans =>
            cases operandMeans.isOperand
  | name _ _ | quotation _ _ _ | number _ _ =>
      constructor
      · intro reading
        rcases reading with ⟨located, reduced, run⟩
        simp only [symbolsOf, plainValue?, Except.ok.injEq] at reduced
        subst reduced
        exact ⟨_, .operand (.plain rfl), run⟩
      · intro reading
        rcases reading with ⟨symbol, unitMeans, run⟩
        cases unitMeans with
        | operand operandMeans =>
            cases operandMeans with
            | plain found =>
                exact ⟨_, symbolsOf_of_plainValue? found, run⟩

/-- All tokens are read as their units, however deeply blocks are nested. -/
theorem readAsUnits
    (context : Context)
    (tokens : List Token) :
    ReadAsUnits context tokens := by
  induction tokens using units_induction with
  | nil =>
      exact .nil context
  | comparison left operator right rest starts insideRead restRead =>
      exact .comparison starts (value_eq_ok_iff insideRead) restRead
  | single token rest startsNot insideRead restRead =>
      exact .cons startsNot (symbolsOf_read_iff insideRead) restRead

/-!
## Nested blocks keep to themselves
-/

section Replacement

variable
    {context : Context}
    {bracket bracket' : Bracket}
    {inside inside' : List Token}
    {span span' : Span}

/-- Whether tokens begin with a comparison does not depend on what a block among
them holds. -/
theorem startsComparison_replace_block
    (before after : List Token) :
    startsComparison (before ++ .block bracket' inside' span' :: after) =
      startsComparison (before ++ .block bracket inside span :: after) := by
  match before with
  | [] =>
      match after with
      | [] | [_] | _ :: _ :: _ =>
          rfl
  | [_] =>
      cases after <;> rfl
  | [_, _] | _ :: _ :: _ :: _ =>
      rfl

theorem OperandMeans.replace_block
    (same : ∀ truth, BlockMeans context inside truth → BlockMeans context inside' truth)
    {value : Value}
    (means : OperandMeans context (.block bracket inside span) value) :
    OperandMeans context (.block bracket' inside' span') value := by
  cases means with
  | plain found =>
      simp [plainValue?] at found
  | block means =>
      exact .block (same _ means)

/-- A block in front of tokens is replaced by one that means the same. -/
theorem UnitsMean.replace_first_block
    (same : ∀ truth, BlockMeans context inside truth → BlockMeans context inside' truth)
    (after : List Token)
    {units : List Symbol}
    (mean : UnitsMean context (.block bracket inside span :: after) units) :
    UnitsMean context (.block bracket' inside' span' :: after) units := by
  have startsSame :
      startsComparison (.block bracket' inside' span' :: after) =
        startsComparison (.block bracket inside span :: after) :=
    startsComparison_replace_block [] after
  cases starts : startsComparison (.block bracket inside span :: after) with
  | false =>
      obtain ⟨symbol, others, blockMeans, afterMean, rfl⟩ :=
        (UnitsMean.cons_iff starts).mp mean
      cases blockMeans with
      | operand means =>
          exact .operand (startsSame.trans starts) (means.replace_block same) afterMean
  | true =>
      rcases after with _ | ⟨middle, _ | ⟨right, rest⟩⟩
      · cases starts
      · cases starts
      · obtain ⟨relation, leftValue, rightValue, others, leftMeans, asks,
          rightMeans, restMean, rfl⟩ := (UnitsMean.comparison_iff starts).mp mean
        exact (UnitsMean.comparison_iff (startsSame.trans starts)).mpr
          ⟨relation, leftValue, rightValue, others, leftMeans.replace_block same, asks,
            rightMeans, restMean, rfl⟩

/-- Tokens are read as the same units when a block among them is replaced by one
that means the same. -/
theorem UnitsMean.replace_block
    (same : ∀ truth, BlockMeans context inside truth → BlockMeans context inside' truth)
    (before after : List Token)
    {units : List Symbol}
    (mean : UnitsMean context (before ++ .block bracket inside span :: after) units) :
    UnitsMean context (before ++ .block bracket' inside' span' :: after) units := by
  -- a comparison takes three tokens at once, so the induction is on the length
  induction size : before.length using Nat.strongRecOn generalizing before units with
  | ind length inductionHypothesis =>
      cases before with
      | nil =>
          exact mean.replace_first_block same
      | cons token before =>
          rw [List.length_cons] at size
          have startsSame :
              startsComparison (token :: (before ++ .block bracket' inside' span' :: after)) =
                startsComparison (token :: (before ++ .block bracket inside span :: after)) :=
            startsComparison_replace_block (token :: before) after
          rw [List.cons_append] at mean ⊢
          cases starts :
              startsComparison (token :: (before ++ .block bracket inside span :: after)) with
          | false =>
              obtain ⟨symbol, others, tokenMeans, restMean, rfl⟩ :=
                (UnitsMean.cons_iff starts).mp mean
              have restSame := inductionHypothesis before.length (by omega) before restMean rfl
              exact (UnitsMean.cons_iff (startsSame.trans starts)).mpr
                ⟨symbol, others, tokenMeans, restSame, rfl⟩
          | true =>
              rcases before with _ | ⟨middle, _ | ⟨right, before⟩⟩
              · -- a block is no comparison operator
                cases after <;>
                  simp [startsComparison, isComparison, relation?, operator?] at starts
              · -- nothing but a name or a text stands on the right of a comparison
                obtain ⟨_, _, _, _, _, _, rightMeans, _⟩ :=
                  (UnitsMean.comparison_iff starts).mp mean
                simp [plainValue?] at rightMeans
              · obtain ⟨relation, leftValue, rightValue, others, leftMeans, asks,
                  rightMeans, restMean, rfl⟩ := (UnitsMean.comparison_iff starts).mp mean
                rw [List.length_cons, List.length_cons] at size
                have restSame :=
                  inductionHypothesis before.length (by omega) before restMean rfl
                exact (UnitsMean.comparison_iff (startsSame.trans starts)).mpr
                  ⟨relation, leftValue, rightValue, others, leftMeans, asks, rightMeans,
                    restSame, rfl⟩

/-- Tokens mean the same when a block among them is replaced by one that means the
same. -/
theorem BlockMeans.replace_block
    (same : ∀ truth, BlockMeans context inside truth → BlockMeans context inside' truth)
    (before after : List Token)
    {truth : Bool}
    (mean : BlockMeans context (before ++ .block bracket inside span :: after) truth) :
    BlockMeans context (before ++ .block bracket' inside' span' :: after) truth := by
  rw [BlockMeans.iff_of_ne_nil (by simp)] at mean ⊢
  obtain ⟨units, unitsMean, means⟩ := mean
  exact ⟨units, unitsMean.replace_block same before after, means⟩

end Replacement

/--
Evaluating a block gives exactly the truth value that its tokens mean, and a
fault when they mean none.  An empty block is false, and all that the tokens
around a nested block learn of it is its own truth value.
-/
theorem truth_isMeaning
    (context : Context)
    (tokens : List Token) :
    (∀ result, truth context tokens = .ok result ↔ BlockMeans context tokens result) ∧
      ((∀ result, ¬BlockMeans context tokens result) →
        ∃ fault, truth context tokens = .error fault) ∧
      truth context [] = .ok false ∧
      ∀ before after bracket bracket' inside inside' span span' held,
        truth context inside = .ok held →
        truth context inside' = .ok held →
        ∀ result,
          truth context (before ++ .block bracket inside span :: after) = .ok result ↔
            truth context (before ++ .block bracket' inside' span' :: after) =
              .ok result := by
  have meaning :
      ∀ tokens result,
        truth context tokens = .ok result ↔ BlockMeans context tokens result :=
    fun tokens result => (readAsUnits context tokens).truth_eq_ok_iff result
  refine ⟨meaning tokens, ?_, (meaning [] false).mpr .empty, ?_⟩
  · intro meansNone
    cases evaluated : truth context tokens with
    | error fault =>
        exact ⟨fault, rfl⟩
    | ok result =>
        exact (meansNone result ((meaning tokens result).mp evaluated)).elim
  · intro before after bracket bracket' inside inside' span span' held insideHeld
      insideHeld' result
    -- each of the two blocks means what is held, and nothing else
    have meansHeld :
        ∀ tokens truth,
          Token.truth context tokens = .ok held →
          BlockMeans context tokens truth → truth = held := by
      intro tokens truth tokensHeld means
      rw [(meaning tokens truth).mpr means] at tokensHeld
      cases tokensHeld
      rfl
    rw [meaning, meaning]
    constructor
    · refine BlockMeans.replace_block (fun truth means => ?_) before after
      rw [meansHeld inside truth insideHeld means]
      exact (meaning inside' held).mp insideHeld'
    · refine BlockMeans.replace_block (fun truth means => ?_) before after
      rw [meansHeld inside' truth insideHeld' means]
      exact (meaning inside held).mp insideHeld

end DataBinding.Token
