import DataBinding.Proofs.FormulaGrammar

namespace DataBinding

namespace Formula

/-!
# Where a formula goes wrong

Whatever symbols the machine has read, some formula begins with them: it goes on with an
operand, if one is wanted, and a closing parenthesis for each one that is open.  So the
symbol that an error names is the first one that no formula has in its place, and an error
at the end says that a formula is cut short.
-/

/-- Whether symbols are a formula. -/
def IsAccepted (symbols : List (Located Symbol)) : Prop :=
  ∃ stop value, evaluate symbols stop = .ok value

/-- Whether some formula begins with symbols. -/
def IsViable (symbols : List (Located Symbol)) : Prop :=
  ∃ rest, IsAccepted (symbols ++ rest)

namespace Reader

/-- The symbols that make a formula of those read so far. -/
def completion (reader : Reader) : List Symbol :=
  (if reader.wantsOperand then [.operand true] else []) ++
    List.replicate reader.outer.length .closing

theorem run?_closings
    (frame : Frame)
    (outer : List Frame) :
    ∃ final,
      run? ⟨frame, outer, false⟩ (List.replicate outer.length .closing) = some final ∧
        final.IsComplete := by
  induction outer generalizing frame with
  | nil =>
      exact ⟨⟨frame, [], false⟩, rfl, rfl, rfl⟩
  | cons around outer inductionHypothesis =>
      exact inductionHypothesis (around.take frame.value)

/-- Every machine reads its completion and may end behind it. -/
theorem run?_completion
    (reader : Reader) :
    ∃ final, reader.run? reader.completion = some final ∧ final.IsComplete := by
  obtain ⟨frame, outer, wantsOperand⟩ := reader
  cases wantsOperand with
  | true =>
      exact run?_closings (frame.take true) outer
  | false =>
      exact run?_closings frame outer

/-- Where a machine stops: at the first symbol that it cannot read, or at an end where no
formula may end. -/
inductive StopsAt
    (start : Nat)
    (reader : Reader)
    (symbols : List (Located Symbol)) :
    Misfit → Prop where
  | symbol
      {before after : List (Located Symbol)}
      {located : Located Symbol}
      {reached : Reader} :
      symbols = before ++ located :: after →
      reader.run? (before.map Located.value) = some reached →
      reached.read? located.value = none →
      StopsAt start reader symbols ⟨some located.value, reached.expected, located.span⟩
  | atEnd
      {reached : Reader}
      {stop : Nat} :
      reader.run? (symbols.map Located.value) = some reached →
      ¬ reached.IsComplete →
      StopsAt start reader symbols ⟨none, reached.expected, ⟨start, stop⟩⟩

/-- A machine that has read a symbol stops where it stops behind this symbol. -/
theorem StopsAt.cons
    {start : Nat}
    {reader next : Reader}
    {located : Located Symbol}
    {rest : List (Located Symbol)}
    {misfit : Misfit}
    (read : reader.read? located.value = some next)
    (stops : next.StopsAt start rest misfit) :
    reader.StopsAt start (located :: rest) misfit := by
  have run (symbols : List (Located Symbol)) :
      reader.run? ((located :: symbols).map Located.value) =
        next.run? (symbols.map Located.value) := by
    rw [List.map_cons, run?_cons, read, Option.bind_some]
  cases stops with
  | @symbol before _ _ _ split runBefore stuck =>
      exact .symbol (congrArg (List.cons located) split) ((run before).trans runBefore) stuck
  | atEnd runAll incomplete =>
      exact .atEnd ((run rest).trans runAll) incomplete

theorem stopsAt_of_readAll
    {start stop : Nat}
    {reader : Reader}
    {symbols : List (Located Symbol)}
    {misfit : Misfit}
    (failed : reader.readAll start stop symbols = .error misfit) :
    reader.StopsAt start symbols misfit := by
  induction symbols generalizing reader stop with
  | nil =>
      by_cases complete : reader.expected = .operatorOrEnd
      · rw [readAll, if_pos complete] at failed
        cases failed
      · rw [readAll, if_neg complete] at failed
        cases failed
        exact .atEnd rfl (mt reader.expected_eq_operatorOrEnd_iff.mpr complete)
  | cons located rest inductionHypothesis =>
      obtain ⟨symbol, span⟩ := located
      simp only [readAll] at failed
      cases read : reader.read? symbol with
      | none =>
          rw [read] at failed
          cases failed
          have first : ⟨symbol, span⟩ :: rest = [] ++ (⟨symbol, span⟩ : Located Symbol) :: rest :=
            rfl
          exact .symbol first rfl read
      | some next =>
          rw [read] at failed
          exact .cons read (inductionHypothesis failed)

end Reader

theorem isAccepted_iff
    {symbols : List (Located Symbol)} :
    IsAccepted symbols ↔
      ∃ final,
        Reader.start.run? (symbols.map Located.value) = some final ∧ final.IsComplete := by
  constructor
  · rintro ⟨stop, value, accepted⟩
    obtain ⟨final, run, complete, _⟩ :=
      (Reader.start.readAll_eq_ok_iff stop stop symbols value).mp accepted
    exact ⟨final, run, complete⟩
  · rintro ⟨final, run, complete⟩
    exact ⟨0, final.frame.value,
      (Reader.start.readAll_eq_ok_iff 0 0 symbols _).mpr ⟨final, run, complete, rfl⟩⟩

/-- Some formula begins with symbols exactly when the machine reads all of them. -/
theorem isViable_iff
    {symbols : List (Located Symbol)} :
    IsViable symbols ↔
      ∃ reached, Reader.start.run? (symbols.map Located.value) = some reached := by
  constructor
  · rintro ⟨rest, accepted⟩
    obtain ⟨final, run, _⟩ := isAccepted_iff.mp accepted
    rw [List.map_append, Reader.run?_append, Option.bind_eq_some_iff] at run
    obtain ⟨reached, runFront, _⟩ := run
    exact ⟨reached, runFront⟩
  · rintro ⟨reached, run⟩
    obtain ⟨final, runBehind, complete⟩ := reached.run?_completion
    refine ⟨reached.completion.map (⟨·, ⟨0, 0⟩⟩), isAccepted_iff.mpr ⟨final, ?_, complete⟩⟩
    simpa [Reader.run?_append, run, Function.comp_def] using runBehind

/-- Whether an error marks the place from which on symbols can be no formula.  At a symbol
it has the place of the symbol, and at the end it begins where the formula is said to
end. -/
inductive Misfit.MarksFirst
    (symbols : List (Located Symbol))
    (stop : Nat) :
    Misfit → Prop where
  | symbol
      {before after : List (Located Symbol)}
      {located : Located Symbol}
      {expected : Expected} :
      symbols = before ++ located :: after →
      IsViable before →
      ¬ IsViable (before ++ [located]) →
      MarksFirst symbols stop ⟨some located.value, expected, located.span⟩
  | atEnd
      {expected : Expected}
      {behind : Nat} :
      ¬ IsAccepted symbols →
      IsViable symbols →
      MarksFirst symbols stop ⟨none, expected, ⟨stop, behind⟩⟩

/--
An error of a formula is at the first symbol that cannot stand.  Some formula begins with
the symbols in front of the one that it names, and none with these and that one.  Where it
names none, the symbols are no formula, but some formula begins with them.
-/
theorem evaluate_marksFirstMisfit
    {symbols : List (Located Symbol)}
    {stop : Nat}
    {misfit : Misfit}
    (failed : evaluate symbols stop = .error misfit) :
    misfit.MarksFirst symbols stop := by
  cases Reader.stopsAt_of_readAll failed with
  | symbol split run stuck =>
      refine .symbol split (isViable_iff.mpr ⟨_, run⟩) fun viable => ?_
      obtain ⟨_, runOn⟩ := isViable_iff.mp viable
      simp [Reader.run?_append, run, Reader.run?_cons, stuck] at runOn
  | atEnd run incomplete =>
      refine .atEnd (fun accepted => ?_) (isViable_iff.mpr ⟨_, run⟩)
      obtain ⟨final, runAll, complete⟩ := isAccepted_iff.mp accepted
      rw [run] at runAll
      cases runAll
      exact incomplete complete

/-- Of two operators side by side inside parentheses the second one cannot stand, and the
same formula cut off in front of it lacks an operand and the closing parenthesis. -/
theorem evaluate_marksFirstMisfit_openParenthesis :
    let cutOff : List (Located Symbol) :=
      [⟨.negation, ⟨0, 1⟩⟩, ⟨.opening, ⟨1, 2⟩⟩, ⟨.operand true, ⟨2, 3⟩⟩, ⟨.disjunction, ⟨4, 6⟩⟩]
    let doubled := cutOff ++ [⟨.conjunction, ⟨7, 9⟩⟩, ⟨.operand false, ⟨10, 11⟩⟩]
    evaluate doubled 11 = .error ⟨some .conjunction, .operand, ⟨7, 9⟩⟩ ∧
      Misfit.MarksFirst doubled 11 ⟨some .conjunction, .operand, ⟨7, 9⟩⟩ ∧
      evaluate cutOff 8 = .error ⟨none, .operand, ⟨8, 6⟩⟩ ∧
      Misfit.MarksFirst cutOff 8 ⟨none, .operand, ⟨8, 6⟩⟩ := by
  intro cutOff doubled
  have stuck : evaluate doubled 11 = .error ⟨some .conjunction, .operand, ⟨7, 9⟩⟩ := rfl
  have ended : evaluate cutOff 8 = .error ⟨none, .operand, ⟨8, 6⟩⟩ := rfl
  exact ⟨stuck, evaluate_marksFirstMisfit stuck, ended, evaluate_marksFirstMisfit ended⟩

end Formula

end DataBinding
