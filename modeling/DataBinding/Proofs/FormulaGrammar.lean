import DataBinding.Instruction.Formula

namespace DataBinding

/-!
# The grammar of formulas

Expressions are trees, and a formula is a way of writing one: parentheses stand
at least where precedence asks for them, and may stand around anything else.
The machine that reads formulas accepts exactly these writings, and what it makes
of one is the value of the tree.
-/

namespace Formula

/-- An expression over truth values. -/
inductive Expression where
  | truth (value : Bool)
  | negation (operand : Expression)
  | conjunction (left right : Expression)
  | disjunction (left right : Expression)
  deriving Repr, DecidableEq

/-- The truth value of an expression. -/
def Expression.value : Expression → Bool
  | truth value => value
  | negation operand => !operand.value
  | conjunction left right => left.value && right.value
  | disjunction left right => left.value || right.value

/-- How tightly a writing holds together. -/
inductive Binding where
  | unary
  | conjunctive
  | disjunctive
  deriving Repr, DecidableEq

/--
The writings of an expression.  Negation binds tighter than conjunction and
conjunction tighter than disjunction, and both of these group to the left.
-/
inductive Written : Binding → Expression → List Symbol → Prop where
  | truth
      (value : Bool) :
      Written .unary (.truth value) [.operand value]
  | parentheses
      {expression : Expression}
      {symbols : List Symbol} :
      Written .disjunctive expression symbols →
      Written .unary expression (.opening :: symbols ++ [.closing])
  | negation
      {expression : Expression}
      {symbols : List Symbol} :
      Written .unary expression symbols →
      Written .unary (.negation expression) (.negation :: symbols)
  | ofUnary
      {expression : Expression}
      {symbols : List Symbol} :
      Written .unary expression symbols →
      Written .conjunctive expression symbols
  | conjunction
      {left right : Expression}
      {leftSymbols rightSymbols : List Symbol} :
      Written .conjunctive left leftSymbols →
      Written .unary right rightSymbols →
      Written .conjunctive (.conjunction left right)
        (leftSymbols ++ .conjunction :: rightSymbols)
  | ofConjunctive
      {expression : Expression}
      {symbols : List Symbol} :
      Written .conjunctive expression symbols →
      Written .disjunctive expression symbols
  | disjunction
      {left right : Expression}
      {leftSymbols rightSymbols : List Symbol} :
      Written .disjunctive left leftSymbols →
      Written .conjunctive right rightSymbols →
      Written .disjunctive (.disjunction left right)
        (leftSymbols ++ .disjunction :: rightSymbols)

/-- Whether symbols write some expression with a value. -/
def Means
    (symbols : List Symbol)
    (value : Bool) : Prop :=
  ∃ expression, Written .disjunctive expression symbols ∧ expression.value = value

namespace Reader

/-- Reads symbols as long as they fit. -/
def run?
    (reader : Reader) :
    List Symbol → Option Reader
  | [] => some reader
  | symbol :: rest => (reader.read? symbol).bind fun next => next.run? rest

@[simp]
theorem run?_nil (reader : Reader) :
    reader.run? [] = some reader :=
  rfl

theorem run?_cons
    (reader : Reader)
    (symbol : Symbol)
    (rest : List Symbol) :
    reader.run? (symbol :: rest) =
      (reader.read? symbol).bind fun next => next.run? rest :=
  rfl

theorem run?_append
    (reader : Reader)
    (first second : List Symbol) :
    reader.run? (first ++ second) =
      (reader.run? first).bind fun next => next.run? second := by
  induction first generalizing reader with
  | nil =>
      rfl
  | cons symbol rest inductionHypothesis =>
      simp only [List.cons_append, run?_cons, Option.bind_assoc]
      congr
      funext next
      exact inductionHypothesis next

/-- Whether a formula may end here. -/
def IsComplete (reader : Reader) : Prop :=
  reader.wantsOperand = false ∧ reader.outer = []

theorem expected_eq_operatorOrEnd_iff
    (reader : Reader) :
    reader.expected = .operatorOrEnd ↔ reader.IsComplete := by
  obtain ⟨frame, outer, wantsOperand⟩ := reader
  cases wantsOperand <;> cases outer <;> simp [expected, IsComplete]

/-- A formula has a value when all its symbols fit and it may end behind them. -/
theorem readAll_eq_ok_iff
    (start stop : Nat)
    (reader : Reader)
    (symbols : List (Located Symbol))
    (value : Bool) :
    reader.readAll start stop symbols = .ok value ↔
      ∃ final,
        reader.run? (symbols.map Located.value) = some final ∧
          final.IsComplete ∧ final.frame.value = value := by
  induction symbols generalizing reader stop with
  | nil =>
      simp only [List.map_nil, run?_nil, Option.some.injEq, exists_eq_left']
      by_cases complete : reader.IsComplete
      · rw [readAll, if_pos (reader.expected_eq_operatorOrEnd_iff.mpr complete)]
        simp [complete]
      · rw [readAll, if_neg (mt reader.expected_eq_operatorOrEnd_iff.mp complete)]
        simp [complete]
  | cons located rest inductionHypothesis =>
      obtain ⟨symbol, span⟩ := located
      simp only [readAll, List.map_cons, run?_cons]
      cases read : reader.read? symbol with
      | none =>
          simp
      | some next =>
          simpa using inductionHypothesis span.stop next

end Reader

/-!
## Every writing is read
-/

namespace Frame

/-- Operands taken one after the other are a conjunction. -/
theorem take_take
    {frame : Frame}
    (plain : frame.negated = false)
    (left right : Bool) :
    (frame.take left).take right = frame.take (left && right) := by
  simp [take, plain, Bool.and_assoc]

theorem take_negate
    (frame : Frame)
    (operand : Bool) :
    frame.negate.take operand = frame.take !operand := by
  cases operand <;> cases negated : frame.negated <;> simp [take, negate, negated]

end Frame

/--
What reading a writing comes to: one that holds together as a conjunction is
taken like an operand, and any other gives its value to a frame of its own.
-/
def ReadAs :
    Binding → Expression → List Symbol → Prop
  | .unary, expression, symbols =>
      ∀ frame outer,
        Reader.run? ⟨frame, outer, true⟩ symbols =
          some ⟨frame.take expression.value, outer, false⟩
  | .conjunctive, expression, symbols =>
      ∀ frame outer,
        frame.negated = false →
        Reader.run? ⟨frame, outer, true⟩ symbols =
          some ⟨frame.take expression.value, outer, false⟩
  | .disjunctive, expression, symbols =>
      ∀ outer,
        ∃ frame,
          Reader.run? ⟨.empty, outer, true⟩ symbols = some ⟨frame, outer, false⟩ ∧
            frame.value = expression.value

/-- The machine reads every writing and finds the value of its expression. -/
theorem Written.readAs
    {binding : Binding}
    {expression : Expression}
    {symbols : List Symbol}
    (written : Written binding expression symbols) :
    ReadAs binding expression symbols := by
  induction written with
  | truth value =>
      intro frame outer
      rfl
  | @parentheses expression symbols _ inductionHypothesis =>
      intro frame outer
      obtain ⟨inner, innerRead, innerValue⟩ := inductionHypothesis (frame :: outer)
      have opened :
          Reader.read? ⟨frame, outer, true⟩ .opening =
            some ⟨.empty, frame :: outer, true⟩ :=
        rfl
      simp only [List.cons_append, Reader.run?_cons, opened, Option.bind_some,
        Reader.run?_append, innerRead]
      simp [Reader.read?, innerValue]
  | @negation expression symbols _ inductionHypothesis =>
      intro frame outer
      have negated :
          Reader.read? ⟨frame, outer, true⟩ .negation =
            some ⟨frame.negate, outer, true⟩ :=
        rfl
      rw [Reader.run?_cons, negated, Option.bind_some,
        inductionHypothesis frame.negate outer, Frame.take_negate]
      rfl
  | ofUnary _ inductionHypothesis =>
      intro frame outer _
      exact inductionHypothesis frame outer
  | @conjunction left right _ _ _ _ leftHypothesis rightHypothesis =>
      intro frame outer plain
      have joined :
          Reader.read? ⟨frame.take left.value, outer, false⟩ .conjunction =
            some ⟨frame.take left.value, outer, true⟩ :=
        rfl
      rw [Reader.run?_append, leftHypothesis frame outer plain, Option.bind_some,
        Reader.run?_cons, joined, Option.bind_some,
        rightHypothesis (frame.take left.value) outer, Frame.take_take plain]
      rfl
  | @ofConjunctive expression symbols _ inductionHypothesis =>
      intro outer
      refine ⟨Frame.empty.take expression.value,
        inductionHypothesis .empty outer rfl, ?_⟩
      simp [Frame.take, Frame.empty, Frame.value]
  | @disjunction left right _ _ _ _ leftHypothesis rightHypothesis =>
      intro outer
      obtain ⟨before, beforeRead, beforeValue⟩ := leftHypothesis outer
      have disjoined :
          Reader.read? ⟨before, outer, false⟩ .disjunction =
            some ⟨before.disjoin, outer, true⟩ :=
        rfl
      refine ⟨before.disjoin.take right.value, ?_, ?_⟩
      · rw [Reader.run?_append, beforeRead, Option.bind_some, Reader.run?_cons,
          disjoined, Option.bind_some, rightHypothesis before.disjoin outer rfl]
      · simp [Frame.take, Frame.disjoin, Frame.empty, Frame.value, ← beforeValue,
          Expression.value]

/-!
## Whatever is read is a writing
-/

/-- The disjuncts in front of the one at hand, and their value. -/
inductive DisjunctsBefore : Bool → List Symbol → Prop where
  | none :
      DisjunctsBefore false []
  | some
      {expression : Expression}
      {symbols : List Symbol} :
      Written .disjunctive expression symbols →
      DisjunctsBefore expression.value (symbols ++ [.disjunction])

/-- The conjuncts in front of the operand to come, and their value. -/
inductive ConjunctsBefore : Bool → List Symbol → Prop where
  | none :
      ConjunctsBefore true []
  | some
      {expression : Expression}
      {symbols : List Symbol} :
      Written .conjunctive expression symbols →
      ConjunctsBefore expression.value (symbols ++ [.conjunction])

/-- The negations in front of the operand to come, and whether they negate it. -/
inductive NegationsBefore : Bool → List Symbol → Prop where
  | none :
      NegationsBefore false []
  | more
      {negated : Bool}
      {symbols : List Symbol} :
      NegationsBefore negated symbols →
      NegationsBefore (!negated) (symbols ++ [.negation])

/-- What a frame that wants an operand has read. -/
structure Frame.Awaits
    (frame : Frame)
    (symbols : List Symbol) : Prop where
  parts :
    ∃ disjuncts conjuncts negations,
      symbols = disjuncts ++ conjuncts ++ negations ∧
        DisjunctsBefore frame.anyBefore disjuncts ∧
        ConjunctsBefore frame.allBefore conjuncts ∧
        NegationsBefore frame.negated negations

/-- What a frame that has taken an operand has read. -/
structure Frame.HasTaken
    (frame : Frame)
    (symbols : List Symbol) : Prop where
  plain :
    frame.negated = false
  parts :
    ∃ disjuncts conjunct expression,
      symbols = disjuncts ++ conjunct ∧
        DisjunctsBefore frame.anyBefore disjuncts ∧
        Written .conjunctive expression conjunct ∧
        expression.value = frame.allBefore

theorem NegationsBefore.written
    {negated : Bool}
    {negations operand : List Symbol}
    {expression : Expression}
    (before : NegationsBefore negated negations)
    (written : Written .unary expression operand) :
    ∃ whole,
      Written .unary whole (negations ++ operand) ∧
        whole.value = (expression.value ^^ negated) := by
  induction before generalizing operand expression with
  | none =>
      exact ⟨expression, written, by simp⟩
  | @more negated symbols _ inductionHypothesis =>
      obtain ⟨whole, wholeWritten, wholeValue⟩ := inductionHypothesis written.negation
      refine ⟨whole, by simpa using wholeWritten, ?_⟩
      rw [wholeValue]
      cases negated <;> simp [Expression.value]

theorem ConjunctsBefore.written
    {value : Bool}
    {conjuncts operand : List Symbol}
    {expression : Expression}
    (before : ConjunctsBefore value conjuncts)
    (written : Written .unary expression operand) :
    ∃ whole,
      Written .conjunctive whole (conjuncts ++ operand) ∧
        whole.value = (value && expression.value) := by
  cases before with
  | none =>
      exact ⟨expression, written.ofUnary, by simp⟩
  | @some left symbols leftWritten =>
      exact ⟨.conjunction left expression,
        by simpa using leftWritten.conjunction written, rfl⟩

namespace Frame

/-- What a frame that awaits an operand has read, and an operand behind it. -/
theorem Awaits.take
    {frame : Frame}
    {symbols operand : List Symbol}
    {expression : Expression}
    (awaits : frame.Awaits symbols)
    (written : Written .unary expression operand) :
    (frame.take expression.value).HasTaken (symbols ++ operand) := by
  obtain ⟨disjuncts, conjuncts, negations, rfl, disjunctsBefore, conjunctsBefore,
    negationsBefore⟩ := awaits.parts
  obtain ⟨negated, negatedWritten, negatedValue⟩ := negationsBefore.written written
  obtain ⟨conjoined, conjoinedWritten, conjoinedValue⟩ :=
    conjunctsBefore.written negatedWritten
  refine ⟨rfl, disjuncts, conjuncts ++ (negations ++ operand), conjoined, by simp,
    disjunctsBefore, conjoinedWritten, ?_⟩
  rw [conjoinedValue, negatedValue]
  rfl

/-- What a frame has read once it has taken an operand writes an expression. -/
theorem HasTaken.written
    {frame : Frame}
    {symbols : List Symbol}
    (taken : frame.HasTaken symbols) :
    ∃ expression,
      Written .disjunctive expression symbols ∧ expression.value = frame.value := by
  obtain ⟨disjuncts, conjunct, expression, rfl, disjunctsBefore, written, value⟩ :=
    taken.parts
  rw [Frame.value, ← value]
  generalize frame.anyBefore = before at disjunctsBefore
  cases disjunctsBefore with
  | none =>
      exact ⟨expression, written.ofConjunctive, by simp⟩
  | @some left leftSymbols leftWritten =>
      exact ⟨.disjunction left expression,
        by simpa using leftWritten.disjunction written, rfl⟩

theorem awaits_empty :
    Frame.empty.Awaits [] :=
  ⟨[], [], [], rfl, .none, .none, .none⟩

theorem Awaits.negate
    {frame : Frame}
    {symbols : List Symbol}
    (awaits : frame.Awaits symbols) :
    frame.negate.Awaits (symbols ++ [.negation]) := by
  obtain ⟨disjuncts, conjuncts, negations, rfl, disjunctsBefore, conjunctsBefore,
    negationsBefore⟩ := awaits.parts
  exact ⟨disjuncts, conjuncts, negations ++ [Symbol.negation], by simp, disjunctsBefore,
    conjunctsBefore, negationsBefore.more⟩

theorem HasTaken.conjoin
    {frame : Frame}
    {symbols : List Symbol}
    (taken : frame.HasTaken symbols) :
    frame.Awaits (symbols ++ [.conjunction]) := by
  obtain ⟨disjuncts, conjunct, expression, rfl, disjunctsBefore, written, value⟩ :=
    taken.parts
  refine ⟨disjuncts, conjunct ++ [Symbol.conjunction], [], by simp, disjunctsBefore, ?_, ?_⟩
  · rw [← value]
    exact .some written
  · rw [taken.plain]
    exact .none

theorem HasTaken.disjoin
    {frame : Frame}
    {symbols : List Symbol}
    (taken : frame.HasTaken symbols) :
    frame.disjoin.Awaits (symbols ++ [.disjunction]) := by
  obtain ⟨expression, written, value⟩ := taken.written
  refine ⟨symbols ++ [Symbol.disjunction], [], [], by simp, ?_, .none, .none⟩
  rw [Frame.disjoin, ← value]
  exact .some written

end Frame

/-- What has been read in front of the frame at hand: for each open parenthesis,
what its frame awaits an operand behind. -/
inductive Enclosed : List Frame → List Symbol → Prop where
  | nil :
      Enclosed [] []
  | cons
      {frame : Frame}
      {outer : List Frame}
      {before symbols : List Symbol} :
      Enclosed outer before →
      frame.Awaits symbols →
      Enclosed (frame :: outer) (before ++ symbols ++ [.opening])

/-- What a machine has read. -/
structure Reader.HasRead
    (reader : Reader)
    (symbols : List Symbol) : Prop where
  parts :
    ∃ before inside,
      symbols = before ++ inside ∧
        Enclosed reader.outer before ∧
        match reader.wantsOperand with
        | true => reader.frame.Awaits inside
        | false => reader.frame.HasTaken inside

namespace Reader.HasRead

/-- One symbol that fits is read behind what has been read. -/
theorem read?
    {reader next : Reader}
    {symbols : List Symbol}
    {symbol : Symbol}
    (hasRead : reader.HasRead symbols)
    (read : reader.read? symbol = some next) :
    next.HasRead (symbols ++ [symbol]) := by
  obtain ⟨before, inside, rfl, enclosed, atHand⟩ := hasRead.parts
  obtain ⟨frame, outer, wantsOperand⟩ := reader
  cases wantsOperand with
  | true =>
      cases symbol with
      | operand value =>
          cases read
          exact ⟨before, inside ++ [Symbol.operand value], by simp, enclosed,
            atHand.take (.truth value)⟩
      | negation =>
          cases read
          exact ⟨before, inside ++ [Symbol.negation], by simp, enclosed, atHand.negate⟩
      | opening =>
          cases read
          exact ⟨before ++ inside ++ [Symbol.opening], [], by simp, enclosed.cons atHand,
            Frame.awaits_empty⟩
      | conjunction =>
          cases read
      | disjunction =>
          cases read
      | closing =>
          cases read
  | false =>
      cases symbol with
      | conjunction =>
          cases read
          exact ⟨before, inside ++ [Symbol.conjunction], by simp, enclosed, atHand.conjoin⟩
      | disjunction =>
          cases read
          exact ⟨before, inside ++ [Symbol.disjunction], by simp, enclosed, atHand.disjoin⟩
      | closing =>
          cases enclosed with
          | nil =>
              cases read
          | @cons around outer before symbols enclosed awaits =>
              cases read
              obtain ⟨expression, written, value⟩ := atHand.written
              refine ⟨before, symbols ++ (Symbol.opening :: inside ++ [Symbol.closing]), by simp,
                enclosed, ?_⟩
              rw [← value]
              exact awaits.take written.parentheses
      | operand value =>
          cases read
      | negation =>
          cases read
      | opening =>
          cases read

theorem run?
    {reader final : Reader}
    {symbols rest : List Symbol}
    (hasRead : reader.HasRead symbols)
    (run : reader.run? rest = some final) :
    final.HasRead (symbols ++ rest) := by
  induction rest generalizing reader symbols with
  | nil =>
      obtain rfl : reader = final := by
        simpa using run
      simpa using hasRead
  | cons symbol rest inductionHypothesis =>
      rw [Reader.run?_cons, Option.bind_eq_some_iff] at run
      obtain ⟨next, read, runRest⟩ := run
      have hasReadRest := inductionHypothesis (hasRead.read? read) runRest
      simpa using hasReadRest

end Reader.HasRead

theorem Reader.hasRead_start :
    Reader.start.HasRead [] :=
  ⟨[], [], rfl, .nil, Frame.awaits_empty⟩

/-- The machine accepts exactly the writings of expressions. -/
theorem run?_start_iff
    (symbols : List Symbol)
    (value : Bool) :
    (∃ final,
        Reader.start.run? symbols = some final ∧
          final.IsComplete ∧ final.frame.value = value) ↔
      Means symbols value := by
  constructor
  · intro reading
    rcases reading with ⟨final, run, ⟨hasOperand, outermost⟩, finalValue⟩
    obtain ⟨before, inside, symbolsShape, enclosed, atHand⟩ :=
      (Reader.hasRead_start.run? run).parts
    rw [outermost] at enclosed
    cases enclosed
    rw [hasOperand] at atHand
    obtain ⟨expression, written, expressionValue⟩ := Frame.HasTaken.written atHand
    refine ⟨expression, ?_, expressionValue.trans finalValue⟩
    rw [List.nil_append, List.nil_append] at symbolsShape
    rw [symbolsShape]
    exact written
  · intro reading
    rcases reading with ⟨expression, written, rfl⟩
    obtain ⟨frame, run, frameValue⟩ := written.readAs []
    exact ⟨⟨frame, [], false⟩, run, ⟨rfl, rfl⟩, frameValue⟩

/-- A formula has a value exactly when it writes an expression with that value. -/
theorem evaluate_eq_ok_iff
    (symbols : List (Located Symbol))
    (stop : Nat)
    (value : Bool) :
    evaluate symbols stop = .ok value ↔ Means (symbols.map Located.value) value := by
  rw [evaluate, Reader.readAll_eq_ok_iff, run?_start_iff]

end Formula

end DataBinding
