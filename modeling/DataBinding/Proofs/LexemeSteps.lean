import DataBinding.Instruction.Lexeme

namespace DataBinding.Lexeme

/-!
# The steps of the lexer

What one character can do: it begins something, it prolongs the lexeme under way, or it
ends this and begins something else.  Whatever the lexer keeps is kept by each of these.
-/

namespace Mode

/-- What a character begins where no lexeme is under way: the lexemes that are complete
with it, and the one that it leaves under way. -/
inductive Begins (offset : Nat) (c : Char) : List (Located Lexeme) × Mode → Prop where
  | gap :
      isGap c = true →
      Begins offset c ([], idle)
  | operator :
      isOperatorChar c = true →
      Begins offset c ([], operator offset (String.singleton c))
  | comma :
      c = ',' →
      Begins offset c ([⟨.comma, ⟨offset, offset + c.utf8Size⟩⟩], idle)
  | opening
      {bracket : Bracket} :
      Bracket.ofOpening? c = some bracket →
      Begins offset c ([⟨.opening bracket, ⟨offset, offset + c.utf8Size⟩⟩], idle)
  | closing
      {bracket : Bracket} :
      Bracket.ofClosing? c = some bracket →
      Begins offset c ([⟨.closing bracket, ⟨offset, offset + c.utf8Size⟩⟩], idle)
  | quotation
      {quote : Quote} :
      Quote.ofMark? c = some quote →
      Begins offset c ([], quotation quote offset "" false)
  | escape :
      c = '\\' →
      Begins offset c ([], word offset "" true)
  | word :
      isSpecial c = false →
      Begins offset c ([], word offset (String.singleton c) false)

theorem begins_begin
    (offset : Nat)
    (c : Char) :
    Begins offset c (begin offset c) := by
  unfold begin
  dsimp only
  split
  · exact .gap ‹_›
  · split
    · exact .operator ‹_›
    · split
      · exact .comma ‹_›
      · split
        · exact .escape ‹_›
        · split
          · exact .opening ‹_›
          · exact .closing ‹_›
          · exact .quotation ‹_›
          · exact .word (by simp [isSpecial, *])

/-- Whether a character cannot be a part of the lexeme under way. -/
def EndsBefore (c : Char) : Mode → Prop
  | idle => True
  | operator _ _ => isOperatorChar c = false
  | quotation _ _ _ _ => False
  | word _ _ escaping => escaping = false ∧ isSpecial c = true ∧ c ≠ '\\'

/-- What a character does to the lexeme under way. -/
inductive Reads (offset : Nat) (c : Char) : Mode → List (Located Lexeme) × Mode → Prop where
  | restart
      {mode : Mode} :
      mode.EndsBefore c →
      Reads offset c mode (mode.restart offset c)
  | operator
      {start : Nat}
      {text : String} :
      isOperatorChar c = true →
      Reads offset c (operator start text) ([], operator start (text.push c))
  | quotation
      {quote : Quote}
      {start : Nat}
      {text : String}
      {escaping : Bool} :
      (escaping = false → c ≠ quote.mark ∧ c ≠ '\\') →
      Reads offset c (quotation quote start text escaping)
        ([], quotation quote start (text.push c) false)
  | quotationEscape
      {quote : Quote}
      {start : Nat}
      {text : String} :
      c = '\\' →
      Reads offset c (quotation quote start text false) ([], quotation quote start text true)
  | quotationEnd
      {quote : Quote}
      {start : Nat}
      {text : String} :
      c = quote.mark →
      Reads offset c (quotation quote start text false)
        ([⟨.quotation quote text, ⟨start, offset + c.utf8Size⟩⟩], idle)
  | word
      {start : Nat}
      {text : String}
      {escaping : Bool} :
      (escaping = false → isSpecial c = false) →
      Reads offset c (word start text escaping) ([], word start (text.push c) false)
  | wordEscape
      {start : Nat}
      {text : String} :
      c = '\\' →
      Reads offset c (word start text false) ([], word start text true)

theorem reads_read
    (mode : Mode)
    (offset : Nat)
    (c : Char) :
    Reads offset c mode (mode.read offset c) := by
  cases mode with
  | idle =>
      exact .restart trivial
  | operator start text =>
      rw [read]
      split
      · exact .operator ‹_›
      · exact .restart (Bool.eq_false_iff.mpr ‹_›)
  | quotation quote start text escaping =>
      cases escaping with
      | true =>
          exact .quotation fun unescaped => nomatch unescaped
      | false =>
          rw [read]
          split
          · exact .quotationEscape ‹_›
          · split
            · exact .quotationEnd ‹_›
            · exact .quotation fun _ => ⟨‹_›, ‹_›⟩
  | word start text escaping =>
      cases escaping with
      | true =>
          exact .word fun unescaped => nomatch unescaped
      | false =>
          rw [read]
          split
          · exact .wordEscape ‹_›
          · split
            · exact .restart ⟨rfl, ‹_›, ‹_›⟩
            · exact .word fun _ => Bool.eq_false_iff.mpr ‹_›

end Mode

end DataBinding.Lexeme
