import DataBinding.Instruction.Evaluation
import DataBinding.Proofs.TokenPlaces

namespace DataBinding

/-!
# The places of symbols

Each of the symbols that tokens are reduced to stands for a token, for three that are
compared or for a bracket of a block, and the last of them ends where the last token does,
also when a block is left open at the end.  So a formula that goes wrong does so at one of
these places.  The bracket that closes a block fits behind all that ends in an operand, so
it is where a formula goes wrong only if the tokens of the block end in an operator.
-/

/-- Whether an outcome is a value of one kind, or an error of another. -/
inductive Yields
    {ε α : Type}
    (errors : ε → Prop)
    (values : α → Prop) :
    Except ε α → Prop where
  | ok
      {value : α} :
      values value →
      Yields errors values (.ok value)
  | error
      {error : ε} :
      errors error →
      Yields errors values (.error error)

namespace Yields

variable
  {ε α β : Type}
  {errors weaker : ε → Prop}
  {values others : α → Prop}
  {results : β → Prop}

theorem bind
    {first : Except ε α}
    {next : α → Except ε β}
    (yields : Yields errors values first)
    (goesOn : ∀ value, values value → Yields errors results (next value)) :
    Yields errors results (first >>= next) := by
  cases yields with
  | ok has =>
      exact goesOn _ has
  | error has =>
      exact .error has

theorem imp
    {outcome : Except ε α}
    (yields : Yields errors values outcome)
    (impErrors : ∀ error, errors error → weaker error)
    (impValues : ∀ value, values value → others value) :
    Yields weaker others outcome := by
  cases yields with
  | ok has =>
      exact .ok (impValues _ has)
  | error has =>
      exact .error (impErrors _ has)

theorem weaken
    {outcome : Except ε α}
    (yields : Yields errors values outcome)
    (impErrors : ∀ error, errors error → weaker error) :
    Yields weaker values outcome :=
  yields.imp impErrors fun _ has => has

theorem mapError
    {ε' : Type}
    {errors : ε' → Prop}
    {wrap : ε → ε'}
    {outcome : Except ε α}
    (yields : Yields (fun error => errors (wrap error)) values outcome) :
    Yields errors values (outcome.mapError wrap) := by
  cases yields with
  | ok has =>
      exact .ok has
  | error has =>
      exact .error has

/-- An error of the outcome is of its kind. -/
theorem of_eq_error
    {outcome : Except ε α}
    {error : ε}
    (yields : Yields errors values outcome)
    (fails : outcome = .error error) :
    errors error := by
  rw [fails] at yields
  cases yields with
  | error has =>
      exact has

end Yields

/-- Whether tokens end in an operator. -/
def Token.EndInOperator (tokens : List Token) : Prop :=
  ∃ text span, tokens.getLast? = some (.operator text span)

theorem Token.EndInOperator.append
    {tokens : List Token}
    (ends : EndInOperator tokens)
    (before : List Token) :
    EndInOperator (before ++ tokens) := by
  obtain ⟨text, span, isLast⟩ := ends
  exact ⟨text, span, by rw [List.getLast?_append, isLast, Option.some_or]⟩

/-- Whether a fault is found among tokens: at one of them or behind it, at three that are
compared, at a bracket of a block, or so inside a block. -/
inductive Fault.FoundAmong (fault : Fault) : List Token → Prop where
  | token
      {tokens : List Token}
      {token : Token} :
      token ∈ tokens →
      fault.span = token.span →
      FoundAmong fault tokens
  | behind
      {tokens : List Token}
      {token : Token} :
      token ∈ tokens →
      fault.span = ⟨token.span.stop, token.span.stop⟩ →
      FoundAmong fault tokens
  | comparison
      {tokens : List Token}
      {left operator right : Token} :
      [left, operator, right] <:+: tokens →
      fault.span = ⟨left.span.start, right.span.stop⟩ →
      FoundAmong fault tokens
  | opening
      {tokens inside : List Token}
      {bracket : Bracket}
      {span : Span} :
      .block bracket inside span ∈ tokens →
      fault.span = ⟨span.start, span.start + 1⟩ →
      FoundAmong fault tokens
  | closing
      {tokens inside : List Token}
      {bracket : Bracket}
      {span : Span} :
      .block bracket inside span ∈ tokens →
      Token.EndInOperator inside →
      fault = .expression ⟨some .closing, .operand, ⟨span.stop - 1, span.stop⟩⟩ →
      FoundAmong fault tokens
  | inside
      {tokens inside : List Token}
      {bracket : Bracket}
      {span : Span} :
      .block bracket inside span ∈ tokens →
      FoundAmong fault inside →
      FoundAmong fault tokens

theorem Fault.FoundAmong.ofPart
    {fault : Fault}
    {part tokens : List Token}
    (found : fault.FoundAmong part)
    (isPart : part <:+: tokens) :
    fault.FoundAmong tokens := by
  cases found with
  | token member same =>
      exact .token (isPart.subset member) same
  | behind member same =>
      exact .behind (isPart.subset member) same
  | comparison three same =>
      exact .comparison (three.trans isPart) same
  | opening member same =>
      exact .opening (isPart.subset member) same
  | closing member ends same =>
      exact .closing (isPart.subset member) ends same
  | inside member found =>
      exact .inside (isPart.subset member) found

/-!
## Where a formula goes wrong
-/

namespace Formula

/-- The end of symbols that follow an offset. -/
def endOf
    (stop : Nat)
    (symbols : List (Located Symbol)) : Nat :=
  (symbols.getLast?.map fun located => located.span.stop).getD stop

theorem endOf_cons
    (stop : Nat)
    (located : Located Symbol)
    (rest : List (Located Symbol)) :
    endOf stop (located :: rest) = endOf located.span.stop rest := by
  simp only [endOf, List.getLast?_cons, Option.map_some, Option.getD_some, Option.getD_map]

namespace Reader

/-- Reads symbols up to the first that does not fit. -/
def advance
    (reader : Reader) :
    List (Located Symbol) → Except Misfit Reader
  | [] => .ok reader
  | ⟨symbol, span⟩ :: rest =>
      match reader.read? symbol with
      | some next => next.advance rest
      | none => .error ⟨some symbol, reader.expected, span⟩

theorem advance_append
    (reader : Reader)
    (first second : List (Located Symbol)) :
    reader.advance (first ++ second) =
      (reader.advance first >>= fun reached => reached.advance second) := by
  induction first generalizing reader with
  | nil =>
      rfl
  | cons located rest inductionHypothesis =>
      simp only [List.cons_append, advance]
      cases reader.read? located.value with
      | none =>
          rfl
      | some next =>
          exact inductionHypothesis next

/-- A formula goes wrong at a symbol that does not fit or at its end. -/
theorem readAll_eq_advance
    (reader : Reader)
    (start stop : Nat)
    (symbols : List (Located Symbol)) :
    reader.readAll start stop symbols =
      (reader.advance symbols >>= fun reached =>
        if reached.expected = .operatorOrEnd then
          .ok reached.frame.value
        else
          .error ⟨none, reached.expected, ⟨start, endOf stop symbols⟩⟩) := by
  induction symbols generalizing reader stop with
  | nil =>
      rfl
  | cons located rest inductionHypothesis =>
      rw [endOf_cons, readAll, advance]
      cases reader.read? located.value with
      | none =>
          rfl
      | some next =>
          exact inductionHypothesis next located.span.stop

/-- What reading tokens does to the machine: the same parentheses are open as before, and
behind tokens an operand is wanted only if they end in an operator. -/
structure HasPassed
    (tokens : List Token)
    (reader reached : Reader) : Prop where
  sameOuter :
    reached.outer = reader.outer
  wanting :
    reached.wantsOperand = true →
      (tokens = [] ∧ reader.wantsOperand = true) ∨ Token.EndInOperator tokens

theorem HasPassed.nothing (reader : Reader) :
    HasPassed [] reader reader :=
  ⟨rfl, fun wants => .inl ⟨rfl, wants⟩⟩

theorem HasPassed.append
    {tokens others : List Token}
    {reader middle reached : Reader}
    (first : HasPassed tokens reader middle)
    (second : HasPassed others middle reached) :
    HasPassed (tokens ++ others) reader reached := by
  refine ⟨second.sameOuter.trans first.sameOuter, fun wants => ?_⟩
  rcases second.wanting wants with ⟨rfl, middleWants⟩ | ends
  · rw [List.append_nil]
    exact first.wanting middleWants
  · exact .inr (ends.append tokens)

end Reader

end Formula

namespace Token

open Formula (Frame Reader Misfit)

/-!
## Symbols stand where their tokens stand
-/

/-- Whether symbols end where tokens end, and can go wrong only among the tokens. -/
structure Reduced
    (tokens : List Token)
    (symbols : List (Located Symbol)) : Prop where
  sameEnd :
    (symbols.getLast?.map fun located => located.span.stop) =
      tokens.getLast?.map fun token => token.span.stop
  read :
    ∀ reader : Reader,
      Yields (fun misfit : Misfit => (Fault.expression misfit).FoundAmong tokens)
        (Reader.HasPassed tokens reader) (reader.advance symbols)

namespace Reduced

variable
  {tokens others : List Token}
  {symbols otherSymbols : List (Located Symbol)}

theorem eq_nil_of_tokens
    (reduced : Reduced tokens symbols)
    (empty : tokens = []) :
    symbols = [] := by
  have sameEnd := reduced.sameEnd
  rw [empty, List.getLast?_nil, Option.map_none] at sameEnd
  exact List.getLast?_eq_none_iff.mp (Option.map_eq_none_iff.mp sameEnd)

theorem nothing : Reduced [] [] :=
  ⟨rfl, fun reader => .ok (.nothing reader)⟩

/-- A symbol for a value goes wrong where it stands. -/
theorem operand
    {span : Span}
    (sameEnd : some span.stop = tokens.getLast?.map fun token => token.span.stop)
    (found : ∀ fault : Fault, fault.span = span → fault.FoundAmong tokens)
    (value : Bool) :
    Reduced tokens [⟨.operand value, span⟩] := by
  refine ⟨sameEnd, fun ⟨frame, outer, wants⟩ => ?_⟩
  cases wants with
  | false =>
      exact .error (found _ rfl)
  | true =>
      exact .ok ⟨rfl, fun wants => nomatch wants⟩

theorem operator
    {text : String}
    {symbol : Symbol}
    (isSymbol : Symbol.ofOperator? text = some symbol)
    (span : Span) :
    Reduced [.operator text span] [⟨symbol, span⟩] := by
  refine ⟨rfl, fun ⟨frame, outer, wants⟩ => ?_⟩
  have amongThree : symbol ∈ [Symbol.negation, .conjunction, .disjunction] :=
    List.mem_of_find?_eq_some isSymbol
  have misfits :
      ∀ misfit : Misfit, misfit.span = span →
        (Fault.expression misfit).FoundAmong [.operator text span] :=
    fun _ same => .token List.mem_cons_self same
  have reads : ∀ frame', Reader.HasPassed [.operator text span] ⟨frame, outer, wants⟩
      ⟨frame', outer, true⟩ := fun _ => ⟨rfl, fun _ => .inr ⟨text, span, rfl⟩⟩
  simp only [List.mem_cons, List.not_mem_nil, or_false] at amongThree
  rcases amongThree with rfl | rfl | rfl <;> cases wants
  · exact .error (misfits _ rfl)
  · exact .ok (reads _)
  · exact .ok (reads _)
  · exact .error (misfits _ rfl)
  · exact .ok (reads _)
  · exact .error (misfits _ rfl)

theorem append
    (first : Reduced tokens symbols)
    (second : Reduced others otherSymbols) :
    Reduced (tokens ++ others) (symbols ++ otherSymbols) := by
  refine ⟨?_, fun reader => ?_⟩
  · simp only [List.getLast?_append, Option.map_or, first.sameEnd, second.sameEnd]
  · rw [Reader.advance_append]
    refine ((first.read reader).weaken fun _ found =>
      found.ofPart (List.prefix_append _ _).isInfix).bind fun middle readFirst => ?_
    exact (second.read middle).imp (fun _ found => found.ofPart (List.suffix_append _ _).isInfix)
      fun _ readSecond => readFirst.append readSecond

/-- A comparison is reduced to a symbol from its left side to its right side. -/
theorem comparison
    (left operator right : Token)
    (holds : Bool) :
    Reduced [left, operator, right]
      [⟨.operand holds, ⟨left.span.start, right.span.stop⟩⟩] :=
  .operand rfl (fun _ same => .comparison (List.infix_refl _) same) holds

/-- A block is reduced to symbols from its opening to its closing bracket. -/
theorem parenthesized
    (bracket : Bracket)
    (span : Span)
    (inner : Reduced tokens symbols) :
    Reduced [.block bracket tokens span] (Token.parenthesized span symbols) := by
  refine ⟨?_, fun ⟨frame, outer, wants⟩ => ?_⟩
  · unfold Token.parenthesized
    dsimp only
    rw [List.getLast?_concat]
    rfl
  · have isToken : Token.block bracket tokens span ∈ [Token.block bracket tokens span] :=
      List.mem_cons_self
    cases wants with
    | false =>
        exact .error (.opening isToken rfl)
    | true =>
        have closes : ∀ inside : Frame,
            Reader.HasPassed [.block bracket tokens span] ⟨frame, outer, true⟩
              ⟨frame.take inside.value, outer, false⟩ :=
          fun _ => ⟨rfl, fun wants => nomatch wants⟩
        by_cases nothing : symbols = []
        · subst nothing
          exact .ok (closes _)
        · have notEmpty : tokens ≠ [] := fun empty => nothing (inner.eq_nil_of_tokens empty)
          have opened :
              Reader.advance ⟨frame, outer, true⟩ (Token.parenthesized span symbols) =
                (Reader.advance ⟨.empty, frame :: outer, true⟩ symbols >>= fun reached =>
                  reached.advance [⟨.closing, ⟨span.stop - 1, span.stop⟩⟩]) := by
            rw [← Reader.advance_append, Token.parenthesized, if_neg nothing]
            rfl
          rw [opened]
          refine ((inner.read _).weaken fun _ found => .inside isToken found).bind ?_
          rintro ⟨reached, around, wants⟩ ⟨rfl, wanting⟩
          cases wants with
          | false =>
              exact .ok (closes reached)
          | true =>
              have ends := (wanting rfl).resolve_left fun empty => notEmpty empty.1
              exact .error (.closing isToken ends rfl)

/-- What symbols come to is a truth value, or a misfit among the tokens. -/
theorem conclude
    (reduced : Reduced tokens symbols) :
    Yields (fun fault : Fault => fault.FoundAmong tokens) (fun _ => True)
      (conclude tokens symbols) := by
  unfold Token.conclude
  by_cases nothing : symbols = []
  · rw [if_pos nothing]
    exact .ok trivial
  · rw [if_neg nothing]
    obtain ⟨last, isLast⟩ := Option.isSome_iff_exists.mp (List.getLast?_isSome.mpr nothing)
    have sameEnd := reduced.sameEnd
    rw [isLast, Option.map_some] at sameEnd
    obtain ⟨token, isLastToken, sameStop⟩ := Option.map_eq_some_iff.mp sameEnd.symm
    have ends :
        Formula.endOf token.span.stop symbols = token.span.stop := by
      rw [Formula.endOf, isLast, sameStop]
      rfl
    simp only [isLastToken, Option.map_some, Option.getD_some]
    rw [Formula.evaluate, Reader.readAll_eq_advance, ends]
    refine Yields.mapError ((reduced.read .start).bind fun reached _ => ?_)
    split
    · exact .ok trivial
    · exact .error (.behind (List.mem_of_getLast? isLastToken) rfl)

end Reduced

end Token

end DataBinding
