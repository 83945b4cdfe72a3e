import DataBinding.Proofs.NumberDisplay
import DataBinding.Proofs.TokenForm

namespace DataBinding

/-!
# Texts that are read as given lexemes

The text of a token ends where a blank, a comma or a closing bracket follows, or
the end.  In front of these every word and every operator ends, so texts of
lexemes can be put one after another.  A text is judged together with the lexeme
that is under way in front of it.
-/

namespace Lexeme

/-- The characters that stand behind tokens. -/
def Parting (c : Char) : Prop :=
  c = ' ' ∨ c = ',' ∨ ∃ bracket : Bracket, c = bracket.closing

/-- Whether a text stands apart from a token in front of it. -/
def Apart (rest : List Char) : Prop :=
  ∀ c ∈ rest.head?, Parting c

theorem Parting.isSpecial
    {c : Char}
    (parting : Parting c) :
    isSpecial c = true := by
  rcases parting with rfl | rfl | ⟨bracket, rfl⟩
  · decide
  · decide
  · cases bracket <;> decide

theorem Parting.ne_backslash
    {c : Char}
    (parting : Parting c) :
    c ≠ '\\' := by
  rcases parting with rfl | rfl | ⟨bracket, rfl⟩
  · decide
  · decide
  · cases bracket <;> decide

theorem Parting.not_isOperatorChar
    {c : Char}
    (parting : Parting c) :
    isOperatorChar c = false := by
  rcases parting with rfl | rfl | ⟨bracket, rfl⟩
  · decide
  · decide
  · cases bracket <;> decide

namespace Mode

/-- Whether a text completes the lexeme under way and is read, up to its end, as
some lexemes, whatever stands apart behind it. -/
def Spells
    (mode : Mode)
    (chars : List Char)
    (lexemes : List Lexeme) : Prop :=
  ∀ (offset : Nat) (rest : List Char), Apart rest →
    ∃ (located : List (Located Lexeme)) (stop : Nat),
      mode.readAll offset (chars ++ rest) = located ++ idle.readAll stop rest ∧
        located.map Located.value = lexemes

theorem spells_nothing :
    idle.Spells [] [] := by
  intro offset rest _
  exact ⟨[], offset, rfl, rfl⟩

/-- Texts are put together where the second stands apart from the first. -/
theorem Spells.append
    {mode : Mode}
    {chars following : List Char}
    {lexemes later : List Lexeme}
    (first : mode.Spells chars lexemes)
    (second : idle.Spells following later)
    (apart : ∀ rest, Apart rest → Apart (following ++ rest)) :
    mode.Spells (chars ++ following) (lexemes ++ later) := by
  intro offset rest restApart
  obtain ⟨located, middle, reads, values⟩ :=
    first offset (following ++ rest) (apart rest restApart)
  obtain ⟨others, stop, goesOn, otherValues⟩ := second middle rest restApart
  refine ⟨located ++ others, stop, ?_, ?_⟩
  · rw [List.append_assoc, reads, goesOn, List.append_assoc]
  · rw [List.map_append, values, otherValues]

/-- One character in front of a text: what it completes, and the text in the mode
behind it. -/
theorem spells_cons
    {mode : Mode}
    {c : Char}
    {chars : List Char}
    {now later : List Lexeme}
    (read : ∀ offset, (mode.read offset c).1.map Located.value = now)
    (following : ∀ offset, (mode.read offset c).2.Spells chars later) :
    mode.Spells (c :: chars) (now ++ later) := by
  intro offset rest restApart
  obtain ⟨located, stop, goesOn, values⟩ :=
    following offset (offset + c.utf8Size) rest restApart
  refine ⟨(mode.read offset c).1 ++ located, stop, ?_, ?_⟩
  · rw [List.append_assoc, ← goesOn]
    rfl
  · rw [List.map_append, read, values]

/-- A character that completes nothing. -/
theorem spells_prolonged
    {mode : Mode}
    {c : Char}
    {chars : List Char}
    {lexemes : List Lexeme}
    (next : Nat → Mode)
    (read : ∀ offset, mode.read offset c = ([], next offset))
    (following : ∀ offset, (next offset).Spells chars lexemes) :
    mode.Spells (c :: chars) lexemes := by
  have nothing : ∀ offset, (mode.read offset c).1.map Located.value = [] := by
    intro offset
    rw [read]
    rfl
  have goesOn : ∀ offset, (mode.read offset c).2.Spells chars lexemes := by
    intro offset
    rw [read]
    exact following offset
  exact spells_cons nothing goesOn

/-- A backslash and the character behind it are read as two steps that complete
nothing. -/
theorem spells_escaped
    {mode : Mode}
    {c : Char}
    {chars : List Char}
    {lexemes : List Lexeme}
    (escaping next : Nat → Mode)
    (readBackslash : ∀ offset, mode.read offset '\\' = ([], escaping offset))
    (readEscaped : ∀ start offset, (escaping start).read offset c = ([], next start))
    (following : ∀ start, (next start).Spells chars lexemes) :
    mode.Spells ('\\' :: c :: chars) lexemes := by
  apply spells_prolonged escaping readBackslash
  intro start
  apply spells_prolonged (fun _ => next start) (readEscaped start)
  intro _
  exact following start

/-- A character that completes a lexeme. -/
theorem spells_completed
    {mode : Mode}
    {c : Char}
    {chars : List Char}
    {lexeme : Lexeme}
    {later : List Lexeme}
    (read : ∀ offset, ∃ span, mode.read offset c = ([⟨lexeme, span⟩], idle))
    (following : idle.Spells chars later) :
    mode.Spells (c :: chars) (lexeme :: later) := by
  have completed : ∀ offset, (mode.read offset c).1.map Located.value = [lexeme] := by
    intro offset
    obtain ⟨span, reads⟩ := read offset
    rw [reads]
    rfl
  have goesOn : ∀ offset, (mode.read offset c).2.Spells chars later := by
    intro offset
    obtain ⟨span, reads⟩ := read offset
    rw [reads]
    exact following
  exact spells_cons completed goesOn

/-- A lexeme under way that ends in front of every parting character. -/
theorem spells_ended
    {mode : Mode}
    {lexeme : Lexeme}
    (ended : ∀ offset, (mode.ended offset).map Located.value = [lexeme])
    (restarts : ∀ offset c, Parting c → mode.read offset c = mode.restart offset c) :
    mode.Spells [] [lexeme] := by
  intro offset rest restApart
  refine ⟨mode.ended offset, offset, ?_, ended offset⟩
  cases rest with
  | nil => exact (List.append_nil _).symm
  | cons c rest =>
      have restarted := restarts offset c (restApart c rfl)
      change (mode.read offset c).1 ++ (mode.read offset c).2.readAll _ rest =
        mode.ended offset ++ ((begin offset c).1 ++ (begin offset c).2.readAll _ rest)
      rw [restarted, ← List.append_assoc]
      rfl

/-! ## Words -/

theorem begin_of_not_special
    {c : Char}
    (plain : isSpecial c = false)
    (offset : Nat) :
    begin offset c = ([], word offset (String.singleton c) false) := by
  simp only [isSpecial, Bool.or_eq_false_iff] at plain
  obtain ⟨⟨⟨⟨⟨⟨gap, operatorChar⟩, comma⟩, quote⟩, opening⟩, closing⟩, backslash⟩ := plain
  have noComma : c ≠ ',' := by
    intro same
    rw [same] at comma
    cases comma
  have noBackslash : c ≠ '\\' := by
    intro same
    rw [same] at backslash
    cases backslash
  have noQuote : Quote.ofMark? c = none := Option.not_isSome_iff_eq_none.mp (by simp [quote])
  have noOpening : Bracket.ofOpening? c = none :=
    Option.not_isSome_iff_eq_none.mp (by simp [opening])
  have noClosing : Bracket.ofClosing? c = none :=
    Option.not_isSome_iff_eq_none.mp (by simp [closing])
  simp [begin, gap, operatorChar, noComma, noBackslash, noQuote, noOpening, noClosing]

theorem append_ofList_cons
    (text : String)
    (c : Char)
    (rest : List Char) :
    text ++ String.ofList (c :: rest) = text.push c ++ String.ofList rest := by
  apply String.toList_inj.mp
  simp

/-- The rest of a word, escaped character by character. -/
theorem word_spells
    (start : Nat)
    (text : String)
    (rest : List Char) :
    (word start text false).Spells (rest.flatMap Token.wordChar)
      [.word (text ++ String.ofList rest)] := by
  induction rest generalizing text with
  | nil =>
      rw [String.ofList_nil, String.append_empty]
      apply spells_ended
      · intro offset
        rfl
      · intro offset c parting
        simp [read, parting.isSpecial, parting.ne_backslash]
  | cons c rest inductionHypothesis =>
      rw [List.flatMap_cons, append_ofList_cons]
      unfold Token.wordChar
      split
      · exact spells_escaped (fun _ => word start text true)
          (fun _ => word start (text.push c) false)
          (fun _ => rfl) (fun _ _ => rfl) fun _ => inductionHypothesis (text.push c)
      · rename_i plain
        apply spells_prolonged fun _ => word start (text.push c) false
        · intro offset
          have noBackslash : c ≠ '\\' := by
            intro same
            apply plain
            rw [same]
            decide
          simp [read, noBackslash, plain]
        · intro _
          exact inductionHypothesis (text.push c)

theorem ofList_cons
    (c : Char)
    (rest : List Char) :
    String.ofList (c :: rest) = String.singleton c ++ String.ofList rest := by
  apply String.toList_inj.mp
  simp

/-- A word that is not empty, escaped character by character. -/
theorem spells_word
    {text : String}
    (some : text ≠ "") :
    idle.Spells (text.toList.flatMap Token.wordChar) [.word text] := by
  cases characters : text.toList with
  | nil => exact absurd (String.toList_eq_nil_iff.mp characters) some
  | cons c rest =>
      have whole : text = String.singleton c ++ String.ofList rest := by
        rw [← ofList_cons, ← characters, String.ofList_toList]
      rw [List.flatMap_cons, whole]
      unfold Token.wordChar
      split
      · exact spells_escaped (fun offset => word offset "" true)
          (fun offset => word offset (String.singleton c) false)
          (fun _ => rfl) (fun _ _ => rfl) fun offset => word_spells offset _ rest
      · rename_i plain
        apply spells_prolonged fun offset => word offset (String.singleton c) false
        · exact begin_of_not_special (Bool.not_eq_true _ ▸ plain)
        · intro offset
          exact word_spells offset _ rest

/-! ## Quotations -/

/-- The rest of a quotation, escaped character by character, and its end. -/
theorem quotation_spells
    (quote : Quote)
    (start : Nat)
    (text : String)
    (rest : List Char) :
    (quotation quote start text false).Spells
      (rest.flatMap (Token.quotedChar quote) ++ [quote.mark])
      [.quotation quote (text ++ String.ofList rest)] := by
  induction rest generalizing text with
  | nil =>
      have noBackslash : quote.mark ≠ '\\' := by
        cases quote <;> decide
      rw [String.ofList_nil, String.append_empty]
      apply spells_completed
      · intro offset
        refine ⟨⟨start, offset + quote.mark.utf8Size⟩, ?_⟩
        simp [read, noBackslash]
      · exact spells_nothing
  | cons c rest inductionHypothesis =>
      rw [List.flatMap_cons, append_ofList_cons, List.append_assoc]
      unfold Token.quotedChar
      split
      · exact spells_escaped (fun _ => quotation quote start text true)
          (fun _ => quotation quote start (text.push c) false)
          (fun _ => rfl) (fun _ _ => rfl) fun _ => inductionHypothesis (text.push c)
      · rename_i plain
        obtain ⟨noMark, noBackslash⟩ := not_or.mp plain
        apply spells_prolonged fun _ => quotation quote start (text.push c) false
        · intro offset
          simp [read, noMark, noBackslash]
        · intro _
          exact inductionHypothesis (text.push c)

theorem begin_mark
    (quote : Quote)
    (offset : Nat) :
    begin offset quote.mark = ([], quotation quote offset "" false) := by
  cases quote <;> rfl

theorem spells_quotation
    (quote : Quote)
    (text : String) :
    idle.Spells
      (quote.mark :: text.toList.flatMap (Token.quotedChar quote) ++ [quote.mark])
      [.quotation quote text] := by
  apply spells_prolonged fun offset => quotation quote offset "" false
  · exact begin_mark quote
  · intro offset
    have closed := quotation_spells quote offset "" text.toList
    rwa [String.empty_append, String.ofList_toList] at closed

/-! ## Operators -/

theorem operator_spells
    (start : Nat)
    (text : String)
    {rest : List Char}
    (operatorChars : ∀ c ∈ rest, isOperatorChar c = true) :
    (operator start text).Spells rest [.operator (text ++ String.ofList rest)] := by
  induction rest generalizing text with
  | nil =>
      rw [String.ofList_nil, String.append_empty]
      apply spells_ended
      · intro offset
        rfl
      · intro offset c parting
        simp [read, parting.not_isOperatorChar]
  | cons c rest inductionHypothesis =>
      rw [append_ofList_cons]
      apply spells_prolonged fun _ => operator start (text.push c)
      · intro offset
        simp [read, operatorChars c List.mem_cons_self]
      · intro _
        exact inductionHypothesis (text.push c)
          fun other member => operatorChars other (List.mem_cons_of_mem c member)

theorem begin_operatorChar
    {c : Char}
    (operatorChar : isOperatorChar c = true)
    (offset : Nat) :
    begin offset c = ([], operator offset (String.singleton c)) := by
  have noGap : isGap c = false := by
    simp only [isOperatorChar, Bool.or_eq_true, beq_iff_eq] at operatorChar
    rcases operatorChar with (((((rfl | rfl) | rfl) | rfl) | rfl) | rfl) | rfl <;> rfl
  simp [begin, noGap, operatorChar]

theorem spells_operator
    {text : String}
    (form : IsOperator text) :
    idle.Spells text.toList [.operator text] := by
  cases characters : text.toList with
  | nil => exact absurd (String.toList_eq_nil_iff.mp characters) form.1
  | cons c rest =>
      have operatorChars : ∀ other ∈ c :: rest, isOperatorChar other = true := by
        rw [← characters]
        exact form.isOperatorChar_of_mem
      have whole : text = String.singleton c ++ String.ofList rest := by
        rw [← ofList_cons, ← characters, String.ofList_toList]
      rw [whole]
      apply spells_prolonged fun offset => operator offset (String.singleton c)
      · exact begin_operatorChar (operatorChars c List.mem_cons_self)
      · intro offset
        exact operator_spells offset _
          fun other member => operatorChars other (List.mem_cons_of_mem c member)

/-! ## Blanks, commas and brackets -/

theorem spells_blank
    {chars : List Char}
    {lexemes : List Lexeme}
    (following : idle.Spells chars lexemes) :
    idle.Spells (' ' :: chars) lexemes := by
  apply spells_prolonged fun _ => idle
  · intro offset
    rfl
  · intro _
    exact following

theorem spells_comma
    {chars : List Char}
    {lexemes : List Lexeme}
    (following : idle.Spells chars lexemes) :
    idle.Spells (',' :: chars) (.comma :: lexemes) :=
  spells_completed (fun offset => ⟨⟨offset, offset + 1⟩, rfl⟩) following

theorem spells_opening
    (bracket : Bracket)
    {chars : List Char}
    {lexemes : List Lexeme}
    (following : idle.Spells chars lexemes) :
    idle.Spells (bracket.opening :: chars) (.opening bracket :: lexemes) := by
  apply spells_completed _ following
  intro offset
  refine ⟨⟨offset, offset + 1⟩, ?_⟩
  cases bracket <;> rfl

theorem spells_closing
    (bracket : Bracket) :
    idle.Spells [bracket.closing] [.closing bracket] := by
  apply spells_completed _ spells_nothing
  intro offset
  refine ⟨⟨offset, offset + 1⟩, ?_⟩
  cases bracket <;> rfl

end Mode

end Lexeme

end DataBinding
