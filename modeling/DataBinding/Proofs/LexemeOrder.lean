import DataBinding.Proofs.LexemeSteps

namespace DataBinding

/-!
# The places of lexemes

The lexemes of a source stand one behind the other: none is empty, and each begins
where the one before it ends or later.  What the lexer keeps for this is that the
lexeme under way begins behind the last complete one and would not be empty if it
ended here.
-/

namespace Span

/-- Whether a span lies between two offsets. -/
structure Within
    (start stop : Nat)
    (span : Span) : Prop where
  begins : start ≤ span.start
  ordered : span.start ≤ span.stop
  ends : span.stop ≤ stop

theorem Within.weaken
    {start stop earlier later : Nat}
    {span : Span}
    (within : span.Within start stop)
    (isEarlier : earlier ≤ start)
    (isLater : stop ≤ later) :
    span.Within earlier later :=
  ⟨Nat.le_trans isEarlier within.begins, within.ordered, Nat.le_trans within.ends isLater⟩

/-- Whether spans that are not empty follow one another between two offsets. -/
def InOrder
    (start stop : Nat) :
    List Span → Prop
  | [] => start ≤ stop
  | span :: rest =>
      start ≤ span.start ∧ span.start < span.stop ∧ InOrder span.stop stop rest

namespace InOrder

theorem le
    {start stop : Nat}
    {spans : List Span}
    (inOrder : InOrder start stop spans) :
    start ≤ stop := by
  induction spans generalizing start with
  | nil =>
      exact inOrder
  | cons span rest inductionHypothesis =>
      obtain ⟨begins, nonempty, goesOn⟩ := inOrder
      have ends := inductionHypothesis goesOn
      omega

theorem weaken
    {start stop earlier later : Nat}
    {spans : List Span}
    (inOrder : InOrder start stop spans)
    (isEarlier : earlier ≤ start)
    (isLater : stop ≤ later) :
    InOrder earlier later spans := by
  induction spans generalizing start earlier with
  | nil =>
      exact Nat.le_trans isEarlier (Nat.le_trans inOrder isLater)
  | cons span rest inductionHypothesis =>
      obtain ⟨begins, nonempty, goesOn⟩ := inOrder
      exact ⟨Nat.le_trans isEarlier begins, nonempty,
        inductionHypothesis goesOn (Nat.le_refl _)⟩

theorem append
    {start middle stop : Nat}
    {spans others : List Span}
    (first : InOrder start middle spans)
    (second : InOrder middle stop others) :
    InOrder start stop (spans ++ others) := by
  induction spans generalizing start with
  | nil =>
      exact second.weaken first (Nat.le_refl stop)
  | cons span rest inductionHypothesis =>
      obtain ⟨begins, nonempty, goesOn⟩ := first
      exact ⟨begins, nonempty, inductionHypothesis goesOn⟩

/-- Every span has its place between the two offsets. -/
theorem of_mem
    {start stop : Nat}
    {spans : List Span}
    (inOrder : InOrder start stop spans)
    {span : Span}
    (member : span ∈ spans) :
    start ≤ span.start ∧ span.start < span.stop ∧ span.stop ≤ stop := by
  induction spans generalizing start with
  | nil =>
      exact absurd member List.not_mem_nil
  | cons first rest inductionHypothesis =>
      obtain ⟨begins, nonempty, goesOn⟩ := inOrder
      rcases List.mem_cons.mp member with isFirst | inRest
      · subst isFirst
        exact ⟨begins, nonempty, goesOn.le⟩
      · obtain ⟨behind, nonemptyToo, ends⟩ := inductionHypothesis goesOn inRest
        exact ⟨by omega, nonemptyToo, ends⟩

section Parts

variable
  {start stop : Nat}
  {spans others : List Span}

theorem within_of_mem
    (inOrder : InOrder start stop spans)
    {span : Span}
    (member : span ∈ spans) :
    span.Within start stop := by
  obtain ⟨begins, nonempty, ends⟩ := inOrder.of_mem member
  exact ⟨begins, Nat.le_of_lt nonempty, ends⟩

/-- Spans that are left of spans in order are in order. -/
theorem sublist
    (inOrder : InOrder start stop spans)
    (left : others.Sublist spans) :
    InOrder start stop others := by
  induction left generalizing start with
  | slnil =>
      exact inOrder
  | cons span _ inductionHypothesis =>
      obtain ⟨begins, nonempty, goesOn⟩ := inOrder
      have skipped : start ≤ span.stop := Nat.le_trans begins (Nat.le_of_lt nonempty)
      exact (inductionHypothesis goesOn).weaken skipped (Nat.le_refl stop)
  | cons_cons span _ inductionHypothesis =>
      obtain ⟨begins, nonempty, goesOn⟩ := inOrder
      exact ⟨begins, nonempty, inductionHypothesis goesOn⟩

/-- Spans in order lie between the start of the first and the end of the last. -/
theorem between_ends
    (inOrder : InOrder start stop spans)
    {first last : Span}
    (isFirst : spans.head? = some first)
    (isLast : spans.getLast? = some last) :
    InOrder first.start last.stop spans := by
  induction spans generalizing start first with
  | nil =>
      cases isFirst
  | cons span rest inductionHypothesis =>
      cases isFirst
      obtain ⟨_, nonempty, goesOn⟩ := inOrder
      refine ⟨Nat.le_refl _, nonempty, ?_⟩
      cases rest with
      | nil =>
          cases isLast
          exact Nat.le_refl _
      | cons next rest =>
          rw [List.getLast?_cons_cons] at isLast
          exact (inductionHypothesis goesOn rfl isLast).weaken goesOn.1 (Nat.le_refl _)

end Parts

end InOrder

end Span

namespace Lexeme

namespace Mode

/-- Whether the lexeme under way at an offset begins behind another one, and has
something in it up to the last backslash that escapes nothing yet. -/
def Behind
    (last offset : Nat) :
    Mode → Prop
  | idle => last ≤ offset
  | operator start _ => last ≤ start ∧ start < offset
  | quotation _ start _ escaping =>
      last ≤ start ∧ start < if escaping then offset - 1 else offset
  | word start text escaping =>
      last ≤ start ∧ start < if escaping ∧ text ≠ "" then offset - 1 else offset

namespace Behind

theorem le
    {mode : Mode}
    {last offset : Nat}
    (behind : mode.Behind last offset) :
    last ≤ offset := by
  cases mode with
  | idle =>
      exact behind
  | operator start text =>
      exact Nat.le_trans behind.1 (Nat.le_of_lt behind.2)
  | quotation quote start text escaping =>
      obtain ⟨begins, nonempty⟩ := behind
      split at nonempty <;> omega
  | word start text escaping =>
      obtain ⟨begins, nonempty⟩ := behind
      split at nonempty <;> omega

/-- The lexeme under way ends in its place. -/
theorem ended
    {mode : Mode}
    {last offset : Nat}
    (behind : mode.Behind last offset) :
    Span.InOrder last offset ((mode.ended offset).map Located.span) := by
  cases mode with
  | idle =>
      exact behind
  | operator start text =>
      exact ⟨behind.1, behind.2, Nat.le_refl offset⟩
  | quotation quote start text escaping =>
      obtain ⟨begins, nonempty⟩ := behind
      refine ⟨begins, nonempty, ?_⟩
      change (if escaping then offset - 1 else offset) ≤ offset
      split <;> omega
  | word start text escaping =>
      have ends := behind.le
      obtain ⟨begins, nonempty⟩ := behind
      cases escaping with
      | false =>
          exact ⟨begins, nonempty, Nat.le_refl offset⟩
      | true =>
          by_cases nothing : text = ""
          · simpa [Mode.ended, nothing, Span.InOrder] using ends
          · simp only [nothing, ne_eq, not_false_eq_true, and_self, ↓reduceIte] at nonempty
            simpa [Mode.ended, nothing, Span.InOrder] using ⟨begins, nonempty⟩

end Behind

/-- Whether the lexemes that a step gives stand in order behind an offset, and the
one that it leaves under way behind these. -/
def ReadsOn
    (last offset : Nat)
    (step : List (Located Lexeme) × Mode) : Prop :=
  ∃ middle,
    Span.InOrder last middle (step.1.map Located.span) ∧ step.2.Behind middle offset

/-- A lexeme that is begun here stands behind everything before. -/
theorem begin_readsOn
    {last offset : Nat}
    (isBehind : last ≤ offset)
    (c : Char) :
    ReadsOn last (offset + c.utf8Size) (begin offset c) := by
  have positive := c.utf8Size_pos
  have nothing :
      ∀ mode : Mode, mode.Behind last (offset + c.utf8Size) →
        ReadsOn last (offset + c.utf8Size) ([], mode) :=
    fun _ behind => ⟨last, Nat.le_refl last, behind⟩
  have single :
      ∀ lexeme : Lexeme,
        ReadsOn last (offset + c.utf8Size)
          ([⟨lexeme, ⟨offset, offset + c.utf8Size⟩⟩], idle) :=
    fun _ => ⟨offset + c.utf8Size, ⟨isBehind, by simpa using positive, Nat.le_refl _⟩,
      Nat.le_refl _⟩
  have behindHere : last ≤ offset ∧ offset < offset + c.utf8Size := ⟨isBehind, by omega⟩
  have begun := begins_begin offset c
  generalize begin offset c = step at begun ⊢
  cases begun with
  | gap =>
      exact nothing _ (Nat.le_add_right_of_le isBehind)
  | operator =>
      exact nothing _ behindHere
  | comma | opening | closing =>
      exact single _
  | quotation | escape | word =>
      exact nothing _ (by simpa [Behind] using behindHere)

theorem restart_readsOn
    {mode : Mode}
    {last offset : Nat}
    (behind : mode.Behind last offset)
    (c : Char) :
    ReadsOn last (offset + c.utf8Size) (mode.restart offset c) := by
  obtain ⟨middle, inOrder, begun⟩ := begin_readsOn (Nat.le_refl offset) c
  refine ⟨middle, ?_, begun⟩
  simp only [restart, List.map_append]
  exact behind.ended.append inOrder

/-- One character keeps the lexemes in order. -/
theorem read_readsOn
    {mode : Mode}
    {last offset : Nat}
    (behind : mode.Behind last offset)
    (c : Char) :
    ReadsOn last (offset + c.utf8Size) (mode.read offset c) := by
  have positive := c.utf8Size_pos
  have prolonged :
      ∀ mode : Mode, mode.Behind last (offset + c.utf8Size) →
        ReadsOn last (offset + c.utf8Size) ([], mode) :=
    fun _ behind => ⟨last, Nat.le_refl last, behind⟩
  have step := mode.reads_read offset c
  generalize mode.read offset c = step' at step ⊢
  cases step with
  | restart =>
      exact restart_readsOn behind c
  | operator =>
      exact prolonged _ ⟨behind.1, Nat.lt_add_right _ behind.2⟩
  | quotation | word =>
      obtain ⟨begins, wasNonempty⟩ := behind
      refine prolonged _ ⟨begins, ?_⟩
      simp only [Bool.false_eq_true, false_and, ↓reduceIte]
      split at wasNonempty <;> omega
  | quotationEscape | wordEscape =>
      obtain ⟨begins, wasNonempty⟩ := behind
      simp only [Bool.false_eq_true, false_and, ↓reduceIte] at wasNonempty
      refine prolonged _ ⟨begins, ?_⟩
      split <;> omega
  | quotationEnd =>
      obtain ⟨begins, wasNonempty⟩ := behind
      simp only [Bool.false_eq_true, ↓reduceIte] at wasNonempty
      exact ⟨offset + c.utf8Size, ⟨begins, by simp; omega, Nat.le_refl _⟩, Nat.le_refl _⟩

/-- All that is read to the end of the source stands in order. -/
theorem inOrder_readAll
    {mode : Mode}
    {last offset : Nat}
    (behind : mode.Behind last offset)
    (chars : List Char) :
    Span.InOrder last (offset + Text.byteLength chars)
      ((mode.readAll offset chars).map Located.span) := by
  induction chars generalizing mode last offset with
  | nil =>
      exact behind.ended
  | cons c rest inductionHypothesis =>
      obtain ⟨middle, inOrder, goesOn⟩ := read_readsOn behind c
      have later := inductionHypothesis goesOn
      simp only [readAll, List.map_append, Text.byteLength, ← Nat.add_assoc]
      exact inOrder.append later

end Mode

end Lexeme

/-- The lexemes of a source stand in order in it. -/
theorem inOrder_lexemes
    (source : String) :
    Span.InOrder 0 (Text.byteLength source.toList)
      ((lexemes source).map Located.span) := by
  have atStart : Lexeme.Mode.idle.Behind 0 0 := Nat.le_refl 0
  have all := Lexeme.Mode.inOrder_readAll atStart source.toList
  rwa [Nat.zero_add] at all

end DataBinding
