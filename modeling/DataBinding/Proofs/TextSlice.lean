import DataBinding.Text.Span

namespace DataBinding.Text

/-!
# Slices of text

A span counts bytes, and a slice walks characters.  Where both ends of a span stand
between characters, its slice has the bytes of the span and no others, so it is what
stands there in the source.
-/

theorem charsBetween_append
    (span : Span)
    (offset : Nat)
    (front behind : List Char) :
    charsBetween span offset (front ++ behind) =
      charsBetween span offset front ++
        charsBetween span (offset + byteLength front) behind := by
  induction front generalizing offset with
  | nil =>
      rfl
  | cons c rest inductionHypothesis =>
      simp only [List.cons_append, charsBetween, byteLength, inductionHypothesis, Nat.add_assoc]
      split <;> rfl

section Sides

variable
  {span : Span}
  {offset : Nat}

theorem charsBetween_of_le
    (ends : span.stop ≤ offset)
    (chars : List Char) :
    charsBetween span offset chars = [] := by
  induction chars generalizing offset with
  | nil =>
      rfl
  | cons c rest inductionHypothesis =>
      rw [charsBetween, if_neg (by omega), inductionHypothesis (by omega)]

theorem charsBetween_of_ge
    {chars : List Char}
    (begins : offset + byteLength chars ≤ span.start) :
    charsBetween span offset chars = [] := by
  induction chars generalizing offset with
  | nil =>
      rfl
  | cons c rest inductionHypothesis =>
      have positive := c.utf8Size_pos
      rw [byteLength] at begins
      rw [charsBetween, if_neg (by omega), inductionHypothesis (by omega)]

theorem charsBetween_of_covered
    {chars : List Char}
    (begins : span.start ≤ offset)
    (ends : offset + byteLength chars ≤ span.stop) :
    charsBetween span offset chars = chars := by
  induction chars generalizing offset with
  | nil =>
      rfl
  | cons c rest inductionHypothesis =>
      have positive := c.utf8Size_pos
      rw [byteLength] at ends
      rw [charsBetween, if_pos (by omega), inductionHypothesis (by omega) (by omega)]

end Sides

/-- Whether an offset stands between two characters, in front of the first or behind the
last. -/
def IsBoundary
    (chars : List Char)
    (offset : Nat) : Prop :=
  ∃ front behind, chars = front ++ behind ∧ byteLength front = offset

namespace IsBoundary

theorem atEnd (chars : List Char) :
    IsBoundary chars (byteLength chars) :=
  ⟨chars, [], (List.append_nil chars).symm, rfl⟩

theorem append
    {chars : List Char}
    {offset : Nat}
    (boundary : IsBoundary chars offset)
    (more : List Char) :
    IsBoundary (chars ++ more) offset := by
  obtain ⟨front, behind, rfl, sameOffset⟩ := boundary
  exact ⟨front, behind ++ more, List.append_assoc .., sameOffset⟩

end IsBoundary

/-- Of two parts in front of the same characters, the one that is no shorter begins with the
other. -/
theorem exists_append_of_byteLength_le
    {front behind upTo rest : List Char}
    (sameChars : front ++ behind = upTo ++ rest)
    (le : byteLength front ≤ byteLength upTo) :
    ∃ middle, upTo = front ++ middle := by
  rcases List.append_eq_append_iff.mp sameChars with
    ⟨middle, isLonger, -⟩ | ⟨surplus, isLonger, -⟩
  · exact ⟨middle, isLonger⟩
  · cases surplus with
    | nil =>
        exact ⟨[], by simp [isLonger]⟩
    | cons c surplus =>
        have positive := c.utf8Size_pos
        rw [isLonger, byteLength_append, byteLength] at le
        omega

theorem eq_of_byteLength_eq
    {front behind upTo rest : List Char}
    (sameChars : front ++ behind = upTo ++ rest)
    (sameLength : byteLength front = byteLength upTo) :
    front = upTo := by
  obtain ⟨middle, rfl⟩ := exists_append_of_byteLength_le sameChars (Nat.le_of_eq sameLength)
  cases middle with
  | nil =>
      rw [List.append_nil]
  | cons c middle =>
      have positive := c.utf8Size_pos
      rw [byteLength_append, byteLength] at sameLength
      omega

/-- Whether a text is what stands at a span of a source: the span begins and ends between
characters, and the text has the bytes of the span. -/
structure IsPart
    (source : String)
    (span : Span)
    (part : String) : Prop where
  startIsBoundary : (String.Pos.Raw.mk span.start).IsValid source
  stopIsBoundary : (String.Pos.Raw.mk span.stop).IsValid source
  bytes : part.toByteArray = source.toByteArray.extract span.start span.stop

/-- A text with others around it stands behind the bytes of the first. -/
theorem isPart_append
    (front middle behind : String) :
    IsPart (front ++ middle ++ behind)
      ⟨front.utf8ByteSize, front.utf8ByteSize + middle.utf8ByteSize⟩ middle where
  startIsBoundary :=
    String.Pos.Raw.isValid_iff_exists_append.mpr
      ⟨front, middle ++ behind, String.append_assoc, rfl⟩
  stopIsBoundary :=
    String.Pos.Raw.isValid_iff_exists_append.mpr
      ⟨front ++ middle, behind, rfl, by
        rw [← String.utf8ByteSize_append]
        rfl⟩
  bytes := by
    simp only [String.toByteArray_append, ← String.size_toByteArray]
    rw [ByteArray.append_assoc, ← Nat.add_zero front.toByteArray.size, Nat.add_assoc,
      ByteArray.extract_append_size_add, Nat.zero_add, ByteArray.extract_append_eq_left rfl]

/-- The slice between what is in front and what is behind. -/
theorem slice_between
    {source : String}
    {front middle behind : List Char}
    (split : source.toList = front ++ middle ++ behind) :
    slice source ⟨byteLength front, byteLength (front ++ middle)⟩ = String.ofList middle := by
  have skipped :
      charsBetween ⟨byteLength front, byteLength (front ++ middle)⟩ 0 front = [] :=
    charsBetween_of_ge (by simp)
  have kept :
      charsBetween ⟨byteLength front, byteLength (front ++ middle)⟩
        (0 + byteLength front) middle = middle :=
    charsBetween_of_covered (by simp) (by simp [byteLength_append])
  have leftOut :
      charsBetween ⟨byteLength front, byteLength (front ++ middle)⟩
        (0 + byteLength (front ++ middle)) behind = [] :=
    charsBetween_of_le (by simp) behind
  rw [slice, split, charsBetween_append, charsBetween_append, skipped, kept, leftOut,
    List.nil_append, List.append_nil]

theorem isBoundary_iff_isValid
    {source : String}
    {offset : Nat} :
    IsBoundary source.toList offset ↔ (String.Pos.Raw.mk offset).IsValid source := by
  rw [String.Pos.Raw.isValid_iff_exists_append]
  constructor
  · rintro ⟨front, behind, split, rfl⟩
    refine ⟨String.ofList front, String.ofList behind, ?_, ?_⟩
    · rw [← String.ofList_append, ← split, String.ofList_toList]
    · rw [← utf8ByteSize_ofList]
      rfl
  · rintro ⟨front, behind, rfl, sameOffset⟩
    refine ⟨front.toList, behind.toList, String.toList_append, ?_⟩
    rw [byteLength_toList]
    exact (congrArg String.Pos.Raw.byteIdx sameOffset).symm

/-- A span with both ends between characters parts a text in three. -/
theorem exists_split
    {chars : List Char}
    {span : Span}
    (begins : IsBoundary chars span.start)
    (ends : IsBoundary chars span.stop)
    (ordered : span.start ≤ span.stop) :
    ∃ front middle behind,
      chars = front ++ middle ++ behind ∧
        span = ⟨byteLength front, byteLength (front ++ middle)⟩ := by
  obtain ⟨start, stop⟩ := span
  obtain ⟨front, afterStart, startSplits, rfl⟩ := begins
  obtain ⟨upTo, behind, stopSplits, rfl⟩ := ends
  obtain ⟨middle, rfl⟩ :=
    exists_append_of_byteLength_le (startSplits.symm.trans stopSplits) ordered
  exact ⟨front, middle, behind, stopSplits, rfl⟩

/-- The slice at a span with both ends between characters is what stands there. -/
theorem isPart_slice
    {source : String}
    {span : Span}
    (begins : IsBoundary source.toList span.start)
    (ends : IsBoundary source.toList span.stop)
    (ordered : span.start ≤ span.stop) :
    IsPart source span (slice source span) := by
  obtain ⟨front, middle, behind, split, rfl⟩ := exists_split begins ends ordered
  have pieces :
      source = String.ofList front ++ String.ofList middle ++ String.ofList behind := by
    rw [← String.ofList_append, ← String.ofList_append, ← split, String.ofList_toList]
  rw [slice_between split, byteLength_append, ← utf8ByteSize_ofList, ← utf8ByteSize_ofList,
    pieces]
  exact isPart_append ..

end DataBinding.Text
