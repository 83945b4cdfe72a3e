import DataBinding.Proofs.LexemePatterns

namespace DataBinding

/-!
# What the lexer leaves out

Every character of a source is in a lexeme, is a gap or is a backslash at the very end,
and two lexemes that touch are not two halves of one.  Both follow from the division of
the source into gaps and lexemes, the first from what the division consists of and the
second from where its lexemes end.
-/

namespace Lexeme

/-- Whether two lexemes would be one if they stood side by side: both are operators, or
both are words. -/
def Joins : Lexeme → Lexeme → Prop
  | operator _, operator _ => True
  | word _, word _ => True
  | _, _ => False

theorem isGap_iff
    {c : Char} :
    isGap c = true ↔ c = ' ' ∨ c = '\t' ∨ c = '\r' ∨ c = '\n' := by
  simp [isGap, or_assoc]

/-- Whether a character at an offset is in one of some lexemes. -/
def Covers
    (lexemes : List (Located Lexeme))
    (offset : Nat)
    (c : Char) : Prop :=
  ∃ located ∈ lexemes,
    Span.Within located.span.start located.span.stop ⟨offset, offset + c.utf8Size⟩

theorem Covers.behind
    {lexemes : List (Located Lexeme)}
    {offset : Nat}
    {c : Char}
    (covered : Covers lexemes offset c)
    (first : Located Lexeme) :
    Covers (first :: lexemes) offset c := by
  obtain ⟨located, member, within⟩ := covered
  exact ⟨located, List.mem_cons_of_mem first member, within⟩

section Spelled

variable
  {rest chars : List Char}
  {lexeme : Lexeme}

theorem SpelledBefore.ne_nil
    (spelled : SpelledBefore rest chars lexeme) :
    chars ≠ [] := by
  cases spelled with
  | operator form =>
      exact fun nothing => form.1 (String.toList_eq_nil_iff.mp nothing)
  | word nonempty =>
      exact nonempty
  | opening | closing | comma | quotation | openQuotation =>
      exact List.cons_ne_nil _ _

theorem SpelledBefore.byteLength_pos
    (spelled : SpelledBefore rest chars lexeme) :
    0 < Text.byteLength chars := by
  obtain ⟨c, behind, rfl⟩ := List.exists_cons_of_ne_nil spelled.ne_nil
  exact Nat.add_pos_left c.utf8Size_pos _

/-- No lexeme is left out at the end of a source. -/
theorem SpelledBefore.not_leftOut
    (spelled : SpelledBefore rest chars lexeme) :
    ¬LeftOut (chars ++ rest) := by
  intro leftOut
  have read := spelled.readAll 0
  rw [leftOut.readAll] at read
  cases read

theorem SpelledBefore.head_operator
    {text : String}
    (spelled : SpelledBefore rest chars (.operator text)) :
    ∀ c ∈ chars.head?, isOperatorChar c = true := by
  cases spelled with
  | operator form =>
      exact fun c isHead => form.isOperatorChar_of_mem c (List.mem_of_mem_head? isHead)

theorem SpelledBefore.head_word
    {text : String}
    (spelled : SpelledBefore rest chars (.word text)) :
    ∀ c ∈ chars.head?, IsWordPlain c ∨ c = '\\' := by
  cases spelled with
  | word _ escaped =>
      exact escaped.head_cases

/-- A lexeme ends in front of what would prolong it. -/
theorem SpelledBefore.not_joins
    {others : List Char}
    {other : Lexeme}
    (first : SpelledBefore (others ++ rest) chars lexeme)
    (second : SpelledBefore rest others other) :
    ¬lexeme.Joins other := by
  intro joins
  obtain ⟨c, behind, rfl⟩ := List.exists_cons_of_ne_nil second.ne_nil
  cases first with
  | operator _ ends =>
      cases other with
      | operator =>
          have isChar := second.head_operator c rfl
          exact Bool.false_ne_true ((ends c rfl).symm.trans isChar)
      | _ =>
          exact joins
  | word _ _ ends =>
      cases other with
      | word =>
          rcases ends with leftOut | ⟨c', isHead, special, noBackslash⟩
          · exact second.not_leftOut leftOut
          · cases isHead
            rcases second.head_word c rfl with plain | isBackslash
            · exact Bool.false_ne_true (plain.symm.trans special)
            · exact noBackslash isBackslash
      | _ =>
          exact joins
  | opening | closing | comma | quotation | openQuotation =>
      exact joins

end Spelled

namespace FallsInto

variable
  {offset : Nat}
  {chars : List Char}
  {lexemes : List (Located Lexeme)}

theorem inOrder
    (falls : FallsInto offset chars lexemes) :
    Span.InOrder offset (offset + Text.byteLength chars) (lexemes.map Located.span) := by
  have atStart : Mode.idle.Behind offset offset := Nat.le_refl offset
  rw [← falls.readAll]
  exact Mode.inOrder_readAll atStart chars

theorem span_of_mem
    (falls : FallsInto offset chars lexemes)
    {located : Located Lexeme}
    (member : located ∈ lexemes) :
    offset ≤ located.span.start ∧ located.span.start < located.span.stop ∧
      located.span.stop ≤ offset + Text.byteLength chars :=
  falls.inOrder.of_mem (List.mem_map_of_mem member)

/-- Every character is in a lexeme, is a gap or is a backslash at the end. -/
theorem covers
    (falls : FallsInto offset chars lexemes)
    {front behind : List Char}
    {c : Char}
    (split : chars = front ++ c :: behind) :
    Covers lexemes (offset + Text.byteLength front) c ∨
      isGap c = true ∨ (c = '\\' ∧ behind = []) := by
  induction falls generalizing front with
  | leftOut leftOut =>
      rcases leftOut with rfl | rfl
      · simp at split
      · cases front with
        | nil =>
            cases split
            exact Or.inr (Or.inr ⟨rfl, rfl⟩)
        | cons =>
            simp at split
  | @gap offset first rest _ isGap _ inductionHypothesis =>
      cases front with
      | nil =>
          cases split
          exact Or.inr (Or.inl isGap)
      | cons _ front =>
          cases split
          rw [Text.byteLength, ← Nat.add_assoc]
          exact inductionHypothesis rfl
  | @lexeme offset spelled rest value lexemes _ _ inductionHypothesis =>
      have inRest :
          ∀ {middle}, rest = middle ++ c :: behind → front = spelled ++ middle →
            Covers (⟨value, ⟨offset, offset + Text.byteLength spelled⟩⟩ :: lexemes)
                (offset + Text.byteLength front) c ∨
              isGap c = true ∨ (c = '\\' ∧ behind = []) := by
        rintro middle restSplits rfl
        rw [Text.byteLength_append, ← Nat.add_assoc]
        exact (inductionHypothesis restSplits).imp_left fun covered => covered.behind _
      rcases List.append_eq_append_iff.mp split with
        ⟨middle, isLonger, restSplits⟩ | ⟨middle, isLonger, restSplits⟩
      · exact inRest restSplits isLonger
      · cases middle with
        | nil =>
            have atStart : front = spelled ++ [] := by
              rw [isLonger, List.append_nil, List.append_nil]
            exact @inRest [] restSplits.symm atStart
        | cons _ middle =>
            cases restSplits
            refine Or.inl ⟨_, List.mem_cons_self, ?_⟩
            rw [isLonger, Text.byteLength_append, Text.byteLength]
            exact ⟨Nat.le_add_right _ _, Nat.le_add_right _ _, by dsimp only; omega⟩

/-- The lexeme that begins with the first character is spelled from there on. -/
theorem spelled_of_start
    (falls : FallsInto offset chars lexemes)
    {located : Located Lexeme}
    (member : located ∈ lexemes)
    (begins : located.span.start = offset) :
    ∃ spelled rest, chars = spelled ++ rest ∧ SpelledBefore rest spelled located.value := by
  cases falls with
  | leftOut =>
      cases member
  | @gap _ c _ _ _ falls =>
      have behind := (falls.span_of_mem member).1
      have positive := c.utf8Size_pos
      omega
  | @lexeme _ spelled rest lexeme _ isSpelled falls =>
      rcases List.mem_cons.mp member with rfl | inRest
      · exact ⟨spelled, rest, rfl, isSpelled⟩
      · have positive := isSpelled.byteLength_pos
        have behind := (falls.span_of_mem inRest).1
        omega

theorem not_joins
    (falls : FallsInto offset chars lexemes)
    {first second : Located Lexeme}
    (firstMember : first ∈ lexemes)
    (secondMember : second ∈ lexemes)
    (touch : first.span.stop = second.span.start) :
    ¬first.value.Joins second.value := by
  induction falls with
  | leftOut =>
      cases firstMember
  | gap _ _ inductionHypothesis =>
      exact inductionHypothesis firstMember secondMember
  | lexeme spelled falls inductionHypothesis =>
      rcases List.mem_cons.mp firstMember with rfl | firstInRest
      · rcases List.mem_cons.mp secondMember with rfl | secondInRest
        · have positive := spelled.byteLength_pos
          dsimp only at touch
          omega
        · obtain ⟨others, rest, rfl, otherSpelled⟩ := falls.spelled_of_start secondInRest touch.symm
          exact spelled.not_joins otherSpelled
      · rcases List.mem_cons.mp secondMember with rfl | secondInRest
        · obtain ⟨behind, nonempty, -⟩ := falls.span_of_mem firstInRest
          dsimp only at touch
          omega
        · exact inductionHypothesis firstInRest secondInRest

end FallsInto

end Lexeme

/--
The lexer loses nothing.  The lexemes of a source stand in it one behind the other, and none
is empty.  Every character that is in none of them is a space, a tab, a carriage return or a
line feed, or it is a backslash and the last of the source.  Two lexemes that touch are
neither both operators nor both words.
-/
theorem lexemes_loseNothing
    (source : String) :
    Span.InOrder 0 source.utf8ByteSize ((lexemes source).map Located.span) ∧
      (∀ front c behind, source.toList = front ++ c :: behind →
        Lexeme.Covers (lexemes source) (Text.byteLength front) c ∨
          (c = ' ' ∨ c = '\t' ∨ c = '\r' ∨ c = '\n') ∨ (c = '\\' ∧ behind = [])) ∧
      ∀ first ∈ lexemes source, ∀ second ∈ lexemes source,
        first.span.stop = second.span.start → ¬first.value.Joins second.value := by
  have falls := fallsInto_lexemes source
  refine ⟨?_, fun front c behind split => ?_, fun first firstMember second secondMember touch =>
    falls.not_joins firstMember secondMember touch⟩
  · rw [← Text.byteLength_toList]
    exact inOrder_lexemes source
  · have covered := falls.covers split
    rwa [Nat.zero_add, Lexeme.isGap_iff] at covered

/-- An escaped gap is in its word, and a backslash that ends a quotation is left out. -/
example :
    (lexemes "a\\ b!=\t'é\\").map Located.span = [⟨0, 4⟩, ⟨4, 6⟩, ⟨7, 10⟩] :=
  rfl

end DataBinding
