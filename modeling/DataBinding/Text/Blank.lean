namespace DataBinding.Text

/-!
# Blank characters

A character is blank when it has the Unicode property White_Space.  Trimming
and splitting into words are defined by that property, on lists of characters
and through them on strings.
-/

/-- The inclusive code point ranges of the White_Space property. -/
def blankRanges : List (Nat × Nat) :=
  [(0x09, 0x0D), (0x20, 0x20), (0x85, 0x85), (0xA0, 0xA0), (0x1680, 0x1680),
    (0x2000, 0x200A), (0x2028, 0x2029), (0x202F, 0x202F), (0x205F, 0x205F),
    (0x3000, 0x3000)]

/-- Whether a code point lies in one of some inclusive ranges. -/
def inRanges
    (ranges : List (Nat × Nat))
    (codePoint : Nat) : Bool :=
  ranges.any fun range => range.1 ≤ codePoint && codePoint ≤ range.2

/-- Whether a character has the White_Space property. -/
def isBlank
    (c : Char) : Bool :=
  inRanges blankRanges c.toNat

/-- The characters from the first one that is not blank. -/
def trimStart
    (text : List Char) : List Char :=
  text.dropWhile isBlank

/-- The characters up to the last one that is not blank. -/
def trimEnd
    (text : List Char) : List Char :=
  (text.reverse.dropWhile isBlank).reverse

/-- The characters between the first and the last one that is not blank. -/
def trimChars
    (text : List Char) : List Char :=
  trimEnd (trimStart text)

/-- A string without the blank characters at its two ends. -/
def trim
    (text : String) : String :=
  String.ofList (trimChars text.toList)

/-- The pieces of a string between characters of a class, empty ones included. -/
def pieces
    (separates : Char → Bool)
    (text : String) : List String :=
  (text.toList.splitOnP separates).map String.ofList

/-- The non-empty pieces of a string between characters of a class. -/
def fieldsBy
    (separates : Char → Bool)
    (text : String) : List String :=
  (pieces separates text).filter fun piece => !piece.isEmpty

/-- The maximal runs of characters that are not blank. -/
def words
    (text : String) : List String :=
  fieldsBy isBlank text

/-- The pieces of a list hold everything but the separators, in order. -/
theorem flatten_splitOnP
    (separates : α → Bool)
    (text : List α) :
    (text.splitOnP separates).flatten = text.filter fun c => !separates c := by
  induction text with
  | nil =>
      rfl
  | cons c rest inductionHypothesis =>
      rw [List.splitOnP_cons_eq_if_modifyHead]
      cases separates? : separates c with
      | true =>
          simpa [separates?] using inductionHypothesis
      | false =>
          cases pieces : rest.splitOnP separates with
          | nil =>
              exact absurd pieces (List.splitOnP_ne_nil separates rest)
          | cons first others =>
              rw [pieces] at inductionHypothesis
              simpa [separates?] using inductionHypothesis

/-- What is in a piece is in the list, and no separator. -/
theorem mem_of_mem_splitOnP
    {separates : α → Bool}
    {text piece : List α}
    (member : piece ∈ text.splitOnP separates)
    {c : α}
    (inPiece : c ∈ piece) :
    c ∈ text ∧ separates c = false := by
  have inPieces : c ∈ (text.splitOnP separates).flatten :=
    List.mem_flatten.mpr ⟨piece, member, inPiece⟩
  rw [flatten_splitOnP, List.mem_filter] at inPieces
  simpa using inPieces

theorem trimStart_of_head
    {text : List Char}
    (solid : ∀ c ∈ text.head?, isBlank c = false) :
    trimStart text = text := by
  cases text with
  | nil => rfl
  | cons first rest =>
      apply List.dropWhile_cons_of_neg
      rw [solid first rfl]
      exact Bool.false_ne_true

theorem head_trimStart
    (text : List Char) :
    ∀ c ∈ (trimStart text).head?, isBlank c = false := by
  intro c first
  have notBlank := List.head?_dropWhile_not isBlank text
  rw [show (text.dropWhile isBlank).head? = some c from first] at notBlank
  exact notBlank

theorem trimEnd_eq
    (text : List Char) :
    trimEnd text = (trimStart text.reverse).reverse :=
  rfl

theorem trimEnd_trimEnd
    (text : List Char) :
    trimEnd (trimEnd text) = trimEnd text := by
  rw [trimEnd_eq, trimEnd_eq text, List.reverse_reverse,
    trimStart_of_head (head_trimStart text.reverse)]

theorem trimEnd_isPrefix
    (text : List Char) :
    trimEnd text <+: text := by
  have suffix : trimStart text.reverse <:+ text.reverse :=
    List.dropWhile_suffix isBlank
  rw [← List.reverse_reverse text, trimEnd_eq, List.reverse_reverse]
  exact List.reverse_prefix.mpr suffix

/-- Trimming a second time changes nothing. -/
theorem trimChars_trimChars
    (text : List Char) :
    trimChars (trimChars text) = trimChars text := by
  have solid : ∀ c ∈ (trimChars text).head?, isBlank c = false := by
    intro c first
    apply head_trimStart text
    obtain ⟨rest, split⟩ := trimEnd_isPrefix (trimStart text)
    rw [← split, List.head?_append]
    rw [show (trimEnd (trimStart text)).head? = some c from first]
    rfl
  unfold trimChars at solid ⊢
  rw [trimStart_of_head solid, trimEnd_trimEnd]

theorem trim_trim
    (text : String) :
    trim (trim text) = trim text := by
  unfold trim
  rw [String.toList_ofList, trimChars_trimChars]

/-- Trimming keeps a text that has no blanks. -/
theorem trim_of_no_blank
    {text : String}
    (solid : ∀ c ∈ text.toList, isBlank c = false) :
    trim text = text := by
  have front : trimStart text.toList = text.toList :=
    trimStart_of_head fun c first => solid c (List.mem_of_mem_head? first)
  have back : trimStart text.toList.reverse = text.toList.reverse :=
    trimStart_of_head fun c first =>
      solid c (List.mem_reverse.mp (List.mem_of_mem_head? first))
  rw [trim, trimChars, front, trimEnd_eq, back, List.reverse_reverse,
    String.ofList_toList]

end DataBinding.Text
