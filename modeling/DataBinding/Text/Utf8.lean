namespace DataBinding.Text

/-!
# Bytes of text

The UTF-8 form of characters, and its length.
-/

/-- The UTF-8 bytes of characters. -/
def utf8
    (text : List Char) : List UInt8 :=
  text.flatMap String.utf8EncodeChar

/-- The number of bytes that characters take in UTF-8. -/
def byteLength : List Char → Nat
  | [] => 0
  | c :: rest => c.utf8Size + byteLength rest

theorem byteLength_append
    (first second : List Char) :
    byteLength (first ++ second) = byteLength first + byteLength second := by
  induction first with
  | nil =>
      simp [byteLength]
  | cons c rest inductionHypothesis =>
      simp [byteLength, inductionHypothesis, Nat.add_assoc]

theorem length_utf8
    (text : List Char) :
    (utf8 text).length = byteLength text := by
  induction text with
  | nil =>
      rfl
  | cons c rest inductionHypothesis =>
      simpa [utf8, byteLength, String.length_utf8EncodeChar] using inductionHypothesis

theorem utf8ByteSize_ofList
    (text : List Char) :
    (String.ofList text).utf8ByteSize = byteLength text := by
  rw [← length_utf8]
  simp [utf8, String.utf8ByteSize, List.utf8Encode, ByteArray.size]

theorem byteLength_toList
    (text : String) :
    byteLength text.toList = text.utf8ByteSize := by
  rw [← utf8ByteSize_ofList, String.ofList_toList]

end DataBinding.Text
