import DataBinding.Number.Shortest
import Mathlib.Data.Nat.Log
import Mathlib.Tactic.Ring

namespace DataBinding

/-!
# The number that a numeral stands for

A numeral is rounded once, from its exact value.  Rounding a quotient of counts
therefore depends on the quotient alone, leaves the counts of the format as they
are, and the two tests that spare `Decimal.toNumber` its large powers of ten
never change the outcome.  It follows that a numeral can be shifted: digits that
move from the significand into the exponent leave the number as it is.
-/

theorem unitsPerOne_eq : unitsPerOne = 2 ^ 1074 :=
  Nat.pow_eq

theorem unitsBound_eq : unitsBound = 2 ^ 2098 :=
  Nat.pow_eq

theorem roundedUnits_eq
    (numerator denominator : Nat) :
    roundedUnits numerator denominator =
      roundHalfEven numerator
          (denominator * 2 ^ ((numerator / denominator).log2 - 52)) *
        2 ^ ((numerator / denominator).log2 - 52) :=
  rfl

theorem roundHalfEven_scaled
    {factor : Nat}
    (positive : 0 < factor)
    (numerator denominator : Nat) :
    roundHalfEven (factor * numerator) (factor * denominator) =
      roundHalfEven numerator denominator := by
  have below :
      2 * (factor * (numerator % denominator)) < factor * denominator ↔
        2 * (numerator % denominator) < denominator := by
    rw [Nat.mul_left_comm]
    exact Nat.mul_lt_mul_left positive
  have above :
      factor * denominator < 2 * (factor * (numerator % denominator)) ↔
        denominator < 2 * (numerator % denominator) := by
    rw [Nat.mul_left_comm]
    exact Nat.mul_lt_mul_left positive
  simp only [roundHalfEven, Nat.mul_div_mul_left _ _ positive,
    Nat.mul_mod_mul_left, below, above]

theorem roundedUnits_scaled
    {factor : Nat}
    (positive : 0 < factor)
    (numerator denominator : Nat) :
    roundedUnits (factor * numerator) (factor * denominator) =
      roundedUnits numerator denominator := by
  simp only [roundedUnits_eq, Nat.mul_div_mul_left _ _ positive, Nat.mul_assoc,
    roundHalfEven_scaled positive]

/-- Equal quotients round to equal counts. -/
theorem roundedUnits_congr
    {numerator denominator numerator' denominator' : Nat}
    (positive : 0 < denominator)
    (positive' : 0 < denominator')
    (equal : numerator * denominator' = numerator' * denominator) :
    roundedUnits numerator denominator = roundedUnits numerator' denominator' := by
  calc
    roundedUnits numerator denominator =
        roundedUnits (denominator' * numerator) (denominator' * denominator) :=
      (roundedUnits_scaled positive' numerator denominator).symm
    _ = roundedUnits (denominator * numerator') (denominator * denominator') := by
      rw [Nat.mul_comm denominator' numerator, equal,
        Nat.mul_comm numerator' denominator, Nat.mul_comm denominator' denominator]
    _ = roundedUnits numerator' denominator' :=
      roundedUnits_scaled positive numerator' denominator'

theorem roundHalfEven_of_multiple
    {denominator : Nat}
    (positive : 0 < denominator)
    (quotient : Nat) :
    roundHalfEven (quotient * denominator) denominator = quotient := by
  simp only [roundHalfEven, Nat.mul_div_cancel _ positive, Nat.mul_mod_left,
    Nat.mul_zero, positive, if_true]

/-- A count of the format is rounded to itself. -/
theorem roundedUnits_of_representable
    {units denominator : Nat}
    (representable : Representable units)
    (positive : 0 < denominator) :
    roundedUnits (units * denominator) denominator = units := by
  have divides : 2 ^ (units.log2 - 52) ∣ units := representable.2
  obtain ⟨quotient, exact⟩ := divides
  have stepPositive : 0 < denominator * 2 ^ (units.log2 - 52) :=
    Nat.mul_pos positive (Nat.two_pow_pos _)
  have numerator :
      units * denominator = quotient * (denominator * 2 ^ (units.log2 - 52)) := by
    calc
      units * denominator = 2 ^ (units.log2 - 52) * quotient * denominator := by
        rw [← exact]
      _ = quotient * (denominator * 2 ^ (units.log2 - 52)) := by
        ring
  rw [roundedUnits_eq, Nat.mul_div_cancel _ positive, numerator,
    roundHalfEven_of_multiple stepPositive, Nat.mul_comm]
  exact exact.symm

theorem div_le_roundHalfEven
    (numerator denominator : Nat) :
    numerator / denominator ≤ roundHalfEven numerator denominator := by
  unfold roundHalfEven
  dsimp only
  split
  · exact Nat.le_refl _
  · split <;> omega

/-- Rounding does not go below the power of two under a quotient. -/
theorem two_pow_log2_le_roundedUnits
    {numerator denominator : Nat}
    (positive : 0 < numerator / denominator) :
    2 ^ (numerator / denominator).log2 ≤ roundedUnits numerator denominator := by
  have step := div_le_roundHalfEven numerator
    (denominator * 2 ^ ((numerator / denominator).log2 - 52))
  rw [← Nat.div_div_eq_div_mul] at step
  have floor : 2 ^ (numerator / denominator).log2 ≤ numerator / denominator :=
    Nat.log2_self_le (Nat.ne_of_gt positive)
  rw [roundedUnits_eq]
  generalize numerator / denominator = quotient at step floor ⊢
  calc
    2 ^ quotient.log2 =
        2 ^ quotient.log2 / 2 ^ (quotient.log2 - 52) * 2 ^ (quotient.log2 - 52) := by
      exact (Nat.div_mul_cancel (Nat.pow_dvd_pow 2 (Nat.sub_le _ _))).symm
    _ ≤ _ :=
      Nat.mul_le_mul_right _ (Nat.le_trans (Nat.div_le_div_right floor) step)

/-- A quotient below one half is rounded to nothing. -/
theorem roundedUnits_of_small
    {numerator denominator : Nat}
    (small : 2 * numerator < denominator) :
    roundedUnits numerator denominator = 0 := by
  have whole : numerator / denominator = 0 :=
    Nat.div_eq_of_lt (by omega)
  have left : numerator % denominator = numerator :=
    Nat.mod_eq_of_lt (by omega)
  simp [roundedUnits_eq, roundHalfEven, whole, left, small]

namespace Number

theorem ofUnits_of_magnitude
    (negative : Bool)
    (magnitude : Magnitude) :
    ofUnits negative magnitude.units = .finite negative magnitude := by
  unfold ofUnits Magnitude.ofUnits?
  rw [dif_pos magnitude.representable]

theorem ofUnits_zero
    (negative : Bool) :
    ofUnits negative 0 = .zero negative :=
  ofUnits_of_magnitude negative Magnitude.zero

theorem ofUnits_of_unitsBound_le
    (negative : Bool)
    {units : Nat}
    (large : unitsBound ≤ units) :
    ofUnits negative units = .infinite negative := by
  have outside : ¬ Representable units :=
    fun representable => Nat.not_lt.mpr large representable.1
  unfold ofUnits Magnitude.ofUnits?
  rw [dif_neg outside]

theorem ofUnits_of_sign
    {negative : Bool}
    {units : Nat}
    {magnitude : Magnitude}
    (finite : ofUnits false units = .finite false magnitude) :
    ofUnits negative units = .finite negative magnitude := by
  unfold ofUnits at finite ⊢
  cases found : Magnitude.ofUnits? units with
  | none =>
      rw [found] at finite
      cases finite
  | some held =>
      rw [found] at finite
      cases finite
      rfl

/-- Equal quotients are next to the same number. -/
theorem ofRatio_congr
    (negative : Bool)
    {numerator denominator numerator' denominator' : Nat}
    (positive : 0 < denominator)
    (positive' : 0 < denominator')
    (equal : numerator * denominator' = numerator' * denominator) :
    ofRatio negative numerator denominator =
      ofRatio negative numerator' denominator' := by
  have scaled :
      numerator * unitsPerOne * denominator' =
        numerator' * unitsPerOne * denominator := by
    rw [Nat.mul_right_comm, equal, Nat.mul_right_comm]
  rw [ofRatio, roundedUnits_congr positive positive' scaled, ofRatio]

/-- A quotient that is a magnitude exactly is next to that magnitude. -/
theorem ofRatio_of_exact
    (negative : Bool)
    {magnitude : Magnitude}
    {numerator denominator : Nat}
    (positive : 0 < denominator)
    (exact : numerator * unitsPerOne = magnitude.units * denominator) :
    ofRatio negative numerator denominator = .finite negative magnitude := by
  rw [ofRatio, exact, roundedUnits_of_representable magnitude.representable positive]
  exact ofUnits_of_magnitude negative magnitude

theorem ofRatio_of_small
    (negative : Bool)
    {numerator denominator : Nat}
    (small : 2 * (numerator * unitsPerOne) < denominator) :
    ofRatio negative numerator denominator = .zero negative := by
  rw [ofRatio, roundedUnits_of_small small, ofUnits_zero]

/-- What is not below `2 ^ 1024` is infinite. -/
theorem ofRatio_of_large
    (negative : Bool)
    {value : Nat}
    (large : 2 ^ 1024 ≤ value) :
    ofRatio negative value 1 = .infinite negative := by
  have units : unitsBound ≤ value * unitsPerOne := by
    calc
      unitsBound = 2 ^ 1024 * unitsPerOne := by
        rw [unitsBound_eq, unitsPerOne_eq, ← Nat.pow_add]
      _ ≤ value * unitsPerOne := Nat.mul_le_mul_right _ large
  have positive : 0 < value * unitsPerOne :=
    Nat.lt_of_lt_of_le unitsBound_pos units
  have exponent : 2098 ≤ (value * unitsPerOne).log2 := by
    rw [Nat.le_log2 (Nat.ne_of_gt positive), ← unitsBound_eq]
    exact units
  have rounded : 2 ^ (value * unitsPerOne / 1).log2 ≤
      roundedUnits (value * unitsPerOne) 1 :=
    two_pow_log2_le_roundedUnits (by rwa [Nat.div_one])
  rw [Nat.div_one] at rounded
  apply ofUnits_of_unitsBound_le
  rw [unitsBound_eq]
  exact Nat.le_trans (Nat.pow_le_pow_right (by decide) exponent) rounded

end Number

namespace Decimal

/-- The quotient of whole numbers that a decimal stands for. -/
def numerator (decimal : Decimal) : Nat :=
  decimal.significand * 10 ^ decimal.exponent.toNat

/-- The power of ten below the numerator. -/
def denominator (decimal : Decimal) : Nat :=
  10 ^ (-decimal.exponent).toNat

theorem two_pow_1024_le : 2 ^ 1024 ≤ 10 ^ 310 := by
  decide +kernel

theorem eight_pow_le_ten_pow
    (power : Nat) :
    2 ^ (3 * power) ≤ 10 ^ power := by
  rw [Nat.pow_mul]
  exact Nat.pow_le_pow_left (by decide) power

theorem two_mul_two_pow_mul
    (power units : Nat) :
    2 * (2 ^ (power + 1) * 2 ^ units) = 2 ^ (power + (units + 2)) := by
  ring

/-- What the second outer test lets pass is less than half a unit. -/
theorem underHalfUnit
    {significand power : Nat}
    (small : significand.log2 + 1101 < 3 * power) :
    2 * (significand * unitsPerOne) < 10 ^ (power + 1) := by
  calc
    2 * (significand * unitsPerOne) <
        2 * (2 ^ (significand.log2 + 1) * unitsPerOne) := by
      have bound : significand < 2 ^ (significand.log2 + 1) :=
        Nat.lt_log2_self
      exact Nat.mul_lt_mul_of_pos_left
        (Nat.mul_lt_mul_of_pos_right bound unitsPerOne_pos) (by decide)
    _ = 2 ^ (significand.log2 + 1076) := by
      rw [unitsPerOne_eq, two_mul_two_pow_mul]
    _ ≤ 2 ^ (3 * power) :=
      Nat.pow_le_pow_right (by decide) (by omega)
    _ ≤ 10 ^ power := eight_pow_le_ten_pow power
    _ ≤ 10 ^ (power + 1) :=
      Nat.pow_le_pow_right (by decide) (Nat.le_succ power)

/-- The two outer tests of `toNumber` only save work: the number of a decimal is
the one next to its exact value. -/
theorem toNumber_eq_ofRatio
    (decimal : Decimal) :
    decimal.toNumber =
      .ofRatio decimal.negative decimal.numerator decimal.denominator := by
  obtain ⟨negative, significand, exponent⟩ := decimal
  unfold toNumber numerator denominator
  dsimp only
  split
  case isTrue nothing =>
    have small : 2 * (0 * 10 ^ exponent.toNat * unitsPerOne) < 10 ^ (-exponent).toNat := by
      simp
    rw [nothing, Number.ofRatio_of_small negative small]
  case isFalse something =>
    cases exponent with
    | ofNat power =>
        change (if 310 ≤ power then _ else _) =
          Number.ofRatio negative (significand * 10 ^ power) (10 ^ (-(power : Int)).toNat)
        rw [show (-(power : Int)).toNat = 0 by omega, Nat.pow_zero]
        split
        · rename_i large
          refine (Number.ofRatio_of_large negative ?_).symm
          calc
            2 ^ 1024 ≤ 10 ^ 310 := two_pow_1024_le
            _ ≤ 10 ^ power := by
              gcongr
              decide
            _ ≤ significand * 10 ^ power :=
              Nat.le_mul_of_pos_left _ (Nat.pos_of_ne_zero something)
        · rfl
    | negSucc power =>
        change (if significand.log2 + 1101 < 3 * power then _ else _) =
          Number.ofRatio negative (significand * 10 ^ 0) (10 ^ (power + 1))
        rw [Nat.pow_zero, Nat.mul_one]
        split
        · rename_i small
          exact (Number.ofRatio_of_small negative (underHalfUnit small)).symm
        · rfl

/-- Zeros that move from the end of the significand into the exponent leave the
number as it is. -/
theorem toNumber_shift
    (negative : Bool)
    (significand zeros : Nat)
    (exponent : Int) :
    toNumber ⟨negative, significand * 10 ^ zeros, exponent⟩ =
      toNumber ⟨negative, significand, exponent + zeros⟩ := by
  rw [toNumber_eq_ofRatio, toNumber_eq_ofRatio]
  apply Number.ofRatio_congr
  · exact Nat.pow_pos (by decide)
  · exact Nat.pow_pos (by decide)
  · have powers :
        zeros + exponent.toNat + (-(exponent + zeros)).toNat =
          (exponent + zeros).toNat + (-exponent).toNat := by
      omega
    simp only [numerator, denominator, Nat.mul_assoc, ← Nat.pow_add]
    rw [powers]

/-- A whole count of ones reads as the magnitude with that count. -/
theorem toNumber_of_whole
    (negative : Bool)
    {magnitude : Magnitude}
    {whole : Nat}
    (exact : magnitude.units = whole * unitsPerOne) :
    toNumber ⟨negative, whole, 0⟩ = .finite negative magnitude := by
  rw [toNumber_eq_ofRatio]
  apply Number.ofRatio_of_exact
  · exact Nat.pow_pos (by decide)
  · simp [numerator, denominator, exact]

/-- Only the sign of a number comes from the sign of its numeral. -/
theorem toNumber_negative
    {negative : Bool}
    {significand : Nat}
    {exponent : Int}
    {magnitude : Magnitude}
    (reads : toNumber ⟨false, significand, exponent⟩ = .finite false magnitude) :
    toNumber ⟨negative, significand, exponent⟩ = .finite negative magnitude := by
  rw [toNumber_eq_ofRatio] at reads ⊢
  exact Number.ofUnits_of_sign reads

end Decimal

namespace Magnitude

theorem toNumber_exactDecimal
    (magnitude : Magnitude) :
    magnitude.exactDecimal.toNumber = .finite false magnitude := by
  rw [Decimal.toNumber_eq_ofRatio]
  apply Number.ofRatio_of_exact
  · exact Nat.pow_pos (by decide)
  · have tens : ∀ power : Nat, 5 ^ power * 2 ^ power = 10 ^ power := by
      intro power
      rw [← Nat.mul_pow]
    have exponent : (-magnitude.exactDecimal.exponent).toNat = 1074 := rfl
    have whole : magnitude.exactDecimal.exponent.toNat = 0 := rfl
    unfold Decimal.numerator Decimal.denominator
    rw [exponent, whole, Nat.pow_zero, Nat.mul_one, ← tens, ← Nat.mul_assoc]
    rfl

/-- A neighbour that is taken reads back. -/
theorem toNumber_of_neighbour?
    {halfway : Halfway}
    {magnitude : Magnitude}
    {power : Int}
    {decimal : Decimal}
    (found : magnitude.neighbour? halfway power = some decimal) :
    decimal.negative = false ∧ decimal.toNumber = .finite false magnitude := by
  unfold neighbour? at found
  dsimp only at found
  split at found
  · cases found
  · rename_i lower _
    cases found
    exact ⟨rfl, of_decide_eq_true lower⟩
  · rename_i _ upper
    cases found
    exact ⟨rfl, of_decide_eq_true upper⟩
  · rename_i lower upper
    -- Both read back, so it does not matter which one the tie-break takes.
    split at found
    · cases found
      exact ⟨rfl, of_decide_eq_true lower⟩
    · split at found
      · cases found
        exact ⟨rfl, of_decide_eq_true upper⟩
      · cases halfway with
        | upward =>
            cases found
            exact ⟨rfl, of_decide_eq_true upper⟩
        | toEven =>
            dsimp only at found
            split at found
            · cases found
              exact ⟨rfl, of_decide_eq_true lower⟩
            · cases found
              exact ⟨rfl, of_decide_eq_true upper⟩

/-- The shortest decimal reads back to its magnitude. -/
theorem toNumber_shortest
    (halfway : Halfway)
    (magnitude : Magnitude) :
    (magnitude.shortest halfway).negative = false ∧
      (magnitude.shortest halfway).toNumber = .finite false magnitude := by
  cases search :
      (List.range 17).findSome? fun (digits : Nat) =>
        magnitude.neighbour? halfway (magnitude.leadingPower - digits) with
  | none =>
      have exact : magnitude.shortest halfway = magnitude.exactDecimal := by
        unfold shortest
        dsimp only
        rw [search, Option.getD_none]
      rw [exact]
      exact ⟨rfl, toNumber_exactDecimal magnitude⟩
  | some decimal =>
      have taken : magnitude.shortest halfway = decimal := by
        unfold shortest
        dsimp only
        rw [search, Option.getD_some]
      obtain ⟨digits, _, found⟩ := List.exists_of_findSome?_eq_some search
      rw [taken]
      exact toNumber_of_neighbour? found

end Magnitude

end DataBinding
