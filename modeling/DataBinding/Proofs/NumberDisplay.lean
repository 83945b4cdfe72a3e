import DataBinding.Number.Layout
import DataBinding.Proofs.NumeralValue

namespace DataBinding

/-!
# Numbers read back from their display

Both ways of displaying a finite number, as an integer and in the plain layout,
write an optional minus sign, digits, and perhaps a point with digits after it.
Such a text is a numeral, and its number is the one displayed.  Only the sign of
zero is lost.
-/

/-- A numeral without exponent: a sign, digits, and a point if digits follow. -/
structure PlainNumeral where
  negative : Bool
  whole : List Char
  fraction : List Char
  someWhole : whole ≠ []
  wholeDigits : ∀ c ∈ whole, c.isDigit = true
  fractionDigits : ∀ c ∈ fraction, c.isDigit = true

theorem takeDigits_append
    {digits rest : List Char}
    (areDigits : ∀ c ∈ digits, c.isDigit = true)
    (ended : ∀ c ∈ rest.head?, c.isDigit = false) :
    takeDigits (digits ++ rest) = (digits, rest) := by
  have taken : rest.takeWhile Char.isDigit = [] ∧ rest.dropWhile Char.isDigit = rest := by
    cases rest with
    | nil => exact ⟨rfl, rfl⟩
    | cons c rest =>
        have notDigit : ¬ c.isDigit = true := by
          rw [ended c rfl]
          exact Bool.false_ne_true
        exact ⟨List.takeWhile_cons_of_neg notDigit, List.dropWhile_cons_of_neg notDigit⟩
  simp only [takeDigits, List.takeWhile_append_of_pos areDigits,
    List.dropWhile_append_of_pos areDigits, taken.1, taken.2, List.append_nil]

theorem takeSign_of_digit
    {c : Char}
    (digit : c.isDigit = true)
    (rest : List Char) :
    takeSign (c :: rest) = (false, c :: rest) := by
  have notMinus : c ≠ '-' := by
    intro same
    rw [same] at digit
    exact absurd digit (by decide)
  have notPlus : c ≠ '+' := by
    intro same
    rw [same] at digit
    exact absurd digit (by decide)
  unfold takeSign
  split
  · rename_i same
    exact absurd (List.cons.inj same).1 notMinus
  · rename_i same
    exact absurd (List.cons.inj same).1 notPlus
  · rfl

namespace PlainNumeral

/-- The characters in front of the digits. -/
def signChars (negative : Bool) : List Char :=
  if negative then ['-'] else []

/-- The characters after the whole part. -/
def pointChars (fraction : List Char) : List Char :=
  if fraction = [] then [] else '.' :: fraction

/-- The characters of a numeral. -/
def chars (numeral : PlainNumeral) : List Char :=
  signChars numeral.negative ++ (numeral.whole ++ pointChars numeral.fraction)

/-- The exact value of a numeral. -/
def decimal (numeral : PlainNumeral) : Decimal where
  negative := numeral.negative
  significand := Nat.ofDigitChars 10 (numeral.whole ++ numeral.fraction) 0
  exponent := -(numeral.fraction.length : Int)

theorem takeSign_chars
    (numeral : PlainNumeral) :
    takeSign numeral.chars =
      (numeral.negative, numeral.whole ++ pointChars numeral.fraction) := by
  unfold chars
  cases numeral.negative with
  | true => rfl
  | false =>
      obtain ⟨first, others, split⟩ := List.exists_cons_of_ne_nil numeral.someWhole
      have digit : first.isDigit = true := by
        apply numeral.wholeDigits
        rw [split]
        exact List.mem_cons_self
      rw [split]
      exact takeSign_of_digit digit _

theorem takeDigits_whole
    (numeral : PlainNumeral) :
    takeDigits (numeral.whole ++ pointChars numeral.fraction) =
      (numeral.whole, pointChars numeral.fraction) := by
  apply takeDigits_append numeral.wholeDigits
  intro c first
  unfold pointChars at first
  split at first
  · cases first
  · cases first
    decide

theorem takeFraction_pointChars
    (numeral : PlainNumeral) :
    Decimal.takeFraction (pointChars numeral.fraction) = (numeral.fraction, []) := by
  unfold pointChars
  split
  case isTrue nothing =>
    rw [nothing]
    rfl
  case isFalse _ =>
    have all : takeDigits (numeral.fraction ++ []) = (numeral.fraction, []) :=
      takeDigits_append numeral.fractionDigits
        fun c member => absurd member (Option.not_mem_none c)
    rwa [List.append_nil] at all

/-- A numeral without exponent is read as its exact value. -/
theorem read?_chars
    (numeral : PlainNumeral) :
    Decimal.read? numeral.chars = some numeral.decimal := by
  unfold Decimal.read?
  rw [takeSign_chars]
  dsimp only
  rw [takeDigits_whole]
  dsimp only
  rw [takeFraction_pointChars]
  dsimp only
  rw [if_neg fun nothing => numeral.someWhole nothing.1]
  simp [Decimal.readExponent?, decimal]

/-- Whether a character is one of those that plain numerals are made of. -/
def isChar (c : Char) : Bool :=
  c.isDigit || c == '-' || c == '.'

theorem toNat_of_isChar
    {c : Char}
    (numeralChar : isChar c = true) :
    45 ≤ c.toNat ∧ c.toNat ≤ 57 := by
  unfold isChar at numeralChar
  rcases Bool.or_eq_true_iff.mp numeralChar with digitOrMinus | dot
  · rcases Bool.or_eq_true_iff.mp digitOrMinus with digit | minus
    · have bounds : 48 ≤ c.toNat ∧ c.toNat ≤ 57 := Char.isDigit_iff_toNat.mp digit
      omega
    · rw [eq_of_beq minus]
      decide
  · rw [eq_of_beq dot]
    decide

theorem isBlank_of_isChar
    {c : Char}
    (numeralChar : isChar c = true) :
    Text.isBlank c = false := by
  have range := toNat_of_isChar numeralChar
  simp [Text.isBlank, Text.inRanges, Text.blankRanges]
  omega

theorem isChar_of_mem_chars
    (numeral : PlainNumeral)
    {c : Char}
    (member : c ∈ numeral.chars) :
    isChar c = true := by
  unfold chars at member
  rcases List.mem_append.mp member with sign | after
  · unfold signChars at sign
    split at sign
    · rw [List.mem_singleton.mp sign]
      decide
    · cases sign
  · rcases List.mem_append.mp after with digit | point
    · simp [isChar, numeral.wholeDigits c digit]
    · unfold pointChars at point
      split at point
      · cases point
      · rcases List.mem_cons.mp point with dot | digit
        · rw [dot]
          decide
        · simp [isChar, numeral.fractionDigits c digit]

theorem chars_ne_nil
    (numeral : PlainNumeral) :
    numeral.chars ≠ [] := by
  simp [chars, numeral.someWhole]

end PlainNumeral

namespace Decimal

/-- Digits are the significant ones and zeros behind them. -/
theorem eq_significant_append_zeros
    (digits : List Char) :
    ∃ zeros : Nat,
      digits =
        (digits.reverse.dropWhile (· == '0')).reverse ++ List.replicate zeros '0' := by
  have zeros :
      digits.reverse.takeWhile (· == '0') =
        List.replicate (digits.reverse.takeWhile (· == '0')).length '0' := by
    apply List.eq_replicate_of_mem
    intro c member
    exact eq_of_beq (List.all_eq_true.mp List.all_takeWhile c member)
  refine ⟨(digits.reverse.takeWhile (· == '0')).length, ?_⟩
  calc
    digits =
        (digits.reverse.takeWhile (· == '0') ++
          digits.reverse.dropWhile (· == '0')).reverse := by
      rw [List.takeWhile_append_dropWhile, List.reverse_reverse]
    _ = (digits.reverse.dropWhile (· == '0')).reverse ++
          List.replicate (digits.reverse.takeWhile (· == '0')).length '0' := by
      rw [List.reverse_append, zeros, List.reverse_replicate, List.length_replicate]

theorem toDigits_eq_scientific
    (decimal : Decimal) :
    ∃ zeros : Nat,
      Nat.toDigits 10 decimal.significand =
        decimal.scientific.1 ++ List.replicate zeros '0' :=
  eq_significant_append_zeros (Nat.toDigits 10 decimal.significand)

theorem scientific_digits
    (decimal : Decimal) :
    ∀ c ∈ decimal.scientific.1, c.isDigit = true := by
  intro c member
  obtain ⟨zeros, digits⟩ := toDigits_eq_scientific decimal
  have among : c ∈ Nat.toDigits 10 decimal.significand := by
    rw [digits]
    exact List.mem_append_left _ member
  exact Nat.isDigit_of_mem_toDigits (by decide) (by decide) among

/-- The significant digits and the power of ten of the first of them make up the
same number. -/
theorem toNumber_scientific
    (decimal : Decimal) :
    toNumber
        ⟨decimal.negative, Nat.ofDigitChars 10 decimal.scientific.1 0,
          decimal.scientific.2 + 1 - decimal.scientific.1.length⟩ =
      decimal.toNumber := by
  obtain ⟨zeros, digits⟩ := toDigits_eq_scientific decimal
  have significand :
      decimal.significand = Nat.ofDigitChars 10 decimal.scientific.1 0 * 10 ^ zeros := by
    calc
      decimal.significand =
          Nat.ofDigitChars 10 (Nat.toDigits 10 decimal.significand) 0 :=
        Nat.ofDigitChars_ten_toDigits.symm
      _ = Nat.ofDigitChars 10 decimal.scientific.1 0 * 10 ^ zeros := by
        rw [digits, Nat.ofDigitChars_append, Nat.ofDigitChars_replicate_zero, Nat.mul_comm]
  have power :
      decimal.scientific.2 + 1 - decimal.scientific.1.length =
        decimal.exponent + zeros := by
    have length := congrArg List.length digits
    rw [List.length_append, List.length_replicate] at length
    change decimal.exponent + (Nat.toDigits 10 decimal.significand).length - 1 + 1 -
      (decimal.scientific.1.length : Int) = decimal.exponent + zeros
    omega
  rw [power, ← toNumber_shift, ← significand]

theorem scientific_ne_nil
    {decimal : Decimal}
    (something : decimal.significand ≠ 0) :
    decimal.scientific.1 ≠ [] := by
  intro nothing
  obtain ⟨zeros, digits⟩ := toDigits_eq_scientific decimal
  apply something
  rw [← Nat.ofDigitChars_ten_toDigits (n := decimal.significand), digits, nothing,
    List.nil_append, Nat.ofDigitChars_replicate_zero, Nat.mul_zero]

end Decimal

namespace PlainNumeral

/-! ## Digits with the power of ten of the first -/

/-- Whether a numeral is written for digits whose first has a power of ten. -/
def Positions
    (negative : Bool)
    (digits : List Char)
    (power : Int)
    (numeral : PlainNumeral) : Prop :=
  numeral.chars =
      signChars negative ++ (NumberLayout.plain.positionalText digits power).toList ∧
    numeral.decimal.toNumber =
      Decimal.toNumber ⟨negative, Nat.ofDigitChars 10 digits 0, power + 1 - digits.length⟩

theorem isDigit_of_mem_zeros
    {count : Nat} :
    ∀ c ∈ List.replicate count '0', c.isDigit = true := by
  intro c member
  rw [List.eq_of_mem_replicate member]
  decide

theorem isDigit_of_mem_append
    {front back : List Char}
    (frontDigits : ∀ c ∈ front, c.isDigit = true)
    (backDigits : ∀ c ∈ back, c.isDigit = true) :
    ∀ c ∈ front ++ back, c.isDigit = true := by
  intro c member
  rcases List.mem_append.mp member with inFront | inBack
  · exact frontDigits c inFront
  · exact backDigits c inBack

/-- All digits stand behind the point. -/
theorem exists_positions_of_negative
    (negative : Bool)
    {digits : List Char}
    (someDigits : digits ≠ [])
    (areDigits : ∀ c ∈ digits, c.isDigit = true)
    (zeros : Nat) :
    ∃ numeral, Positions negative digits (.negSucc zeros) numeral := by
  refine ⟨⟨negative, ['0'], List.replicate zeros '0' ++ digits, List.cons_ne_nil _ _,
    @isDigit_of_mem_zeros 1, isDigit_of_mem_append isDigit_of_mem_zeros areDigits⟩,
    ?_, ?_⟩
  · simp [chars, pointChars, someDigits, NumberLayout.positionalText]
  · have exponent :
        -((List.replicate zeros '0' ++ digits).length : Int) =
          Int.negSucc zeros + 1 - digits.length := by
      rw [List.length_append, List.length_replicate, Int.negSucc_eq]
      omega
    have significand :
        Nat.ofDigitChars 10 ('0' :: (List.replicate zeros '0' ++ digits)) 0 =
          Nat.ofDigitChars 10 digits 0 := by
      rw [Nat.ofDigitChars_cons, Nat.ofDigitChars_append]
      simp
    simp only [decimal, List.singleton_append, exponent, significand]

/-- All digits stand in front of the point, with zeros up to it. -/
theorem exists_positions_of_few
    (negative : Bool)
    {digits : List Char}
    (someDigits : digits ≠ [])
    (areDigits : ∀ c ∈ digits, c.isDigit = true)
    {power : Nat}
    (few : digits.length ≤ power + 1) :
    ∃ numeral, Positions negative digits power numeral := by
  refine ⟨⟨negative, digits ++ List.replicate (power + 1 - digits.length) '0', [],
    List.append_ne_nil_of_left_ne_nil someDigits _,
    isDigit_of_mem_append areDigits isDigit_of_mem_zeros,
    fun c member => absurd member List.not_mem_nil⟩, ?_, ?_⟩
  · change _ = signChars negative ++
      (NumberLayout.plain.positionalText digits (Int.ofNat power)).toList
    simp [chars, pointChars, NumberLayout.positionalText, few, NumberLayout.plain]
  · have significand :
        Nat.ofDigitChars 10
            (digits ++ List.replicate (power + 1 - digits.length) '0' ++ []) 0 =
          Nat.ofDigitChars 10 digits 0 * 10 ^ (power + 1 - digits.length) := by
      rw [List.append_nil, Nat.ofDigitChars_append, Nat.ofDigitChars_replicate_zero,
        Nat.mul_comm]
    have exponent :
        -(([] : List Char).length : Int) + (power + 1 - digits.length : Nat) =
          (power : Int) + 1 - digits.length := by
      rw [List.length_nil]
      omega
    simp only [decimal]
    rw [significand, Decimal.toNumber_shift, exponent]

/-- The point stands between two digits. -/
theorem exists_positions_of_many
    (negative : Bool)
    {digits : List Char}
    (areDigits : ∀ c ∈ digits, c.isDigit = true)
    {power : Nat}
    (many : ¬ digits.length ≤ power + 1) :
    ∃ numeral, Positions negative digits power numeral := by
  have whole : digits.take (power + 1) ≠ [] := by
    intro nothing
    have length := congrArg List.length nothing
    rw [List.length_take, List.length_nil] at length
    omega
  have fraction : digits.drop (power + 1) ≠ [] := by
    intro nothing
    have length := congrArg List.length nothing
    rw [List.length_drop, List.length_nil] at length
    omega
  refine ⟨⟨negative, digits.take (power + 1), digits.drop (power + 1), whole,
    fun c member => areDigits c (List.mem_of_mem_take member),
    fun c member => areDigits c (List.mem_of_mem_drop member)⟩, ?_, ?_⟩
  · change _ = signChars negative ++
      (NumberLayout.plain.positionalText digits (Int.ofNat power)).toList
    simp [chars, pointChars, NumberLayout.positionalText, many, fraction]
  · have exponent :
        -((digits.drop (power + 1)).length : Int) = (power : Int) + 1 - digits.length := by
      rw [List.length_drop]
      omega
    simp only [decimal, List.take_append_drop, exponent]

/-- Digits are written in full as a numeral with their value. -/
theorem exists_positions
    (negative : Bool)
    {digits : List Char}
    (someDigits : digits ≠ [])
    (areDigits : ∀ c ∈ digits, c.isDigit = true)
    (power : Int) :
    ∃ numeral, Positions negative digits power numeral := by
  cases power with
  | negSucc zeros => exact exists_positions_of_negative negative someDigits areDigits zeros
  | ofNat power =>
      by_cases few : digits.length ≤ power + 1
      · exact exists_positions_of_few negative someDigits areDigits few
      · exact exists_positions_of_many negative areDigits few

/-- The plain layout writes a magnitude as a numeral with its value. -/
theorem exists_magnitudeText
    (negative : Bool)
    {magnitude : Magnitude}
    (something : magnitude.units ≠ 0) :
    ∃ numeral : PlainNumeral,
      numeral.chars =
          signChars negative ++ (NumberLayout.plain.magnitudeText magnitude).toList ∧
        numeral.decimal.toNumber = .finite negative magnitude := by
  obtain ⟨unsigned, reads⟩ := Magnitude.toNumber_shortest .upward magnitude
  generalize written : magnitude.shortest .upward = shortest at unsigned reads
  have nonzero : shortest.significand ≠ 0 := by
    intro nothing
    rw [Decimal.toNumber, if_pos nothing] at reads
    injection reads with _ zero
    exact something (congrArg Magnitude.units zero).symm
  obtain ⟨numeral, text, value⟩ :=
    exists_positions negative (Decimal.scientific_ne_nil nonzero)
      (Decimal.scientific_digits shortest) shortest.scientific.2
  refine ⟨numeral, ?_, ?_⟩
  · rw [text]
    simp [NumberLayout.magnitudeText, written, NumberLayout.plain]
  · rw [value]
    apply Decimal.toNumber_negative
    have same := Decimal.toNumber_scientific shortest
    rw [unsigned] at same
    rw [same, reads]

theorem units_of_isIntegral
    {magnitude : Magnitude}
    (integral : magnitude.isIntegral = true) :
    magnitude.units = magnitude.wholePart * unitsPerOne := by
  have noRest : magnitude.units % unitsPerOne = 0 := eq_of_beq integral
  exact (Nat.div_mul_cancel (Nat.dvd_of_mod_eq_zero noRest)).symm

/-- The digits of a whole number with a sign are a numeral with its value. -/
theorem exists_repr
    (negative : Bool)
    {magnitude : Magnitude}
    (integral : magnitude.isIntegral = true) :
    ∃ numeral : PlainNumeral,
      numeral.chars = signChars negative ++ (Nat.repr magnitude.wholePart).toList ∧
        numeral.decimal.toNumber = .finite negative magnitude := by
  refine ⟨⟨negative, Nat.toDigits 10 magnitude.wholePart, [], Nat.toDigits_ne_nil,
    fun c member => Nat.isDigit_of_mem_toDigits (by decide) (by decide) member,
    fun c member => absurd member List.not_mem_nil⟩, ?_, ?_⟩
  · simp [chars, pointChars, Nat.toList_repr]
  · simp only [decimal, List.append_nil, Nat.ofDigitChars_ten_toDigits, List.length_nil]
    exact Decimal.toNumber_of_whole negative (units_of_isIntegral integral)

/-- An integer is written as a numeral with its value; zero has no sign. -/
theorem exists_integerText
    (negative : Bool)
    {magnitude : Magnitude}
    (integral : magnitude.isIntegral = true) :
    ∃ numeral : PlainNumeral,
      numeral.chars =
          (Number.integerText
            (if negative then -(magnitude.wholePart : Int) else magnitude.wholePart)).toList ∧
        numeral.decimal.toNumber =
          .finite (negative && magnitude.units != 0) magnitude := by
  have zero : magnitude.units = 0 ↔ magnitude.wholePart = 0 := by
    rw [units_of_isIntegral integral, Nat.mul_eq_zero]
    exact or_iff_left (Nat.ne_of_gt unitsPerOne_pos)
  cases negative with
  | false => exact exists_repr false integral
  | true =>
      cases whole : magnitude.wholePart with
      | zero =>
          obtain ⟨numeral, text, value⟩ := exists_repr false integral
          refine ⟨numeral, ?_, ?_⟩
          · rw [text, whole]
            rfl
          · rw [value, zero.mpr whole]
            rfl
      | succ below =>
          have nonzero : magnitude.units ≠ 0 := by
            rw [ne_eq, zero, whole]
            exact Nat.succ_ne_zero below
          have minus : -((below + 1 : Nat) : Int) = Int.negSucc below := rfl
          obtain ⟨numeral, text, value⟩ := exists_repr true integral
          refine ⟨numeral, ?_, ?_⟩
          · rw [text, whole, if_pos rfl, minus]
            simp [signChars, Number.integerText]
          · rw [value, Bool.true_and, bne_iff_ne.mpr nonzero]

end PlainNumeral

namespace Number

/-- A number whose zero has no sign. -/
def unsignedZero : Number → Number
  | finite negative magnitude => finite (negative && magnitude.units != 0) magnitude
  | other => other

theorem integer?_eq_some
    {negative : Bool}
    {magnitude : Magnitude}
    {value : Int}
    (shown : (Number.finite negative magnitude).integer? = some value) :
    magnitude.isIntegral = true ∧
      value = if negative then -(magnitude.wholePart : Int) else magnitude.wholePart := by
  unfold integer? at shown
  dsimp only at shown
  split at shown
  · rename_i small
    exact ⟨(Bool.and_eq_true_iff.mp small).1, (Option.some.inj shown).symm⟩
  · cases shown

/-- Zero is shown as an integer. -/
theorem units_ne_zero_of_integer?
    {negative : Bool}
    {magnitude : Magnitude}
    (notShown : (Number.finite negative magnitude).integer? = none) :
    magnitude.units ≠ 0 := by
  intro nothing
  unfold integer? at notShown
  dsimp only at notShown
  split at notShown
  · cases notShown
  · rename_i large
    apply large
    simp [Magnitude.isIntegral, Magnitude.wholePart, nothing]

/-- The display of a finite number is a numeral without exponent, and its number
is the one displayed. -/
theorem exists_display
    {number : Number}
    (finite : number.isFinite = true) :
    ∃ numeral : PlainNumeral,
      number.display.toList = numeral.chars ∧
        numeral.decimal.toNumber = number.unsignedZero := by
  cases number with
  | nan => cases finite
  | infinite negative => cases finite
  | finite negative magnitude =>
      cases shown : (Number.finite negative magnitude).integer? with
      | some value =>
          obtain ⟨integral, isValue⟩ := integer?_eq_some shown
          obtain ⟨numeral, text, reads⟩ := PlainNumeral.exists_integerText negative integral
          refine ⟨numeral, ?_, reads⟩
          rw [text, display, shown, isValue]
      | none =>
          have nonzero : magnitude.units ≠ 0 := units_ne_zero_of_integer? shown
          obtain ⟨numeral, text, value⟩ :=
            PlainNumeral.exists_magnitudeText negative nonzero
          refine ⟨numeral, ?_, ?_⟩
          · rw [text, display, shown]
            simp only [NumberLayout.text, nonzero, if_false, String.toList_append]
            cases negative <;> rfl
          · rw [value]
            simp [unsignedZero, nonzero]

theorem unsignedZero_unsignedZero
    (number : Number) :
    number.unsignedZero.unsignedZero = number.unsignedZero := by
  cases number with
  | nan => rfl
  | infinite negative => rfl
  | finite negative magnitude =>
      simp only [unsignedZero, Bool.and_assoc, Bool.and_self]

theorem isFinite_unsignedZero
    (number : Number) :
    number.unsignedZero.isFinite = number.isFinite := by
  cases number <;> rfl

theorem display_ne_empty
    {number : Number}
    (finite : number.isFinite = true) :
    number.display ≠ "" := by
  obtain ⟨numeral, text, _⟩ := exists_display finite
  intro empty
  rw [empty] at text
  exact numeral.chars_ne_nil text.symm

theorem trim_display
    {number : Number}
    (finite : number.isFinite = true) :
    Text.trim number.display = number.display := by
  obtain ⟨numeral, text, _⟩ := exists_display finite
  apply Text.trim_of_no_blank
  intro c member
  rw [text] at member
  exact PlainNumeral.isBlank_of_isChar (numeral.isChar_of_mem_chars member)

/-- A finite number reads back from its display, but for the sign of zero. -/
theorem parse?_display
    {number : Number}
    (finite : number.isFinite = true) :
    parse? number.display = some number.unsignedZero := by
  obtain ⟨numeral, text, value⟩ := exists_display finite
  have stillFinite : number.unsignedZero.isFinite = true := by
    rw [isFinite_unsignedZero, finite]
  rw [parse?, trim_display finite, ofText?, text, numeral.read?_chars]
  dsimp only
  rw [value, Option.filter_some_pos stillFinite]

end Number

end DataBinding
