import Standby.Decimal.Notation

/-!
# Whole numbers in double precision

A whole number of at most 53 bits is a number in double precision as it stands, and the
decimal that is found for it is the number itself. On every grid of whole decimals that is
tried, a point reads back as the number only if it is the number, because the reals that
round to it are nearer to it than its neighbours are. So a sample shows such a number
digit by digit.
-/

namespace Standby.Decimal

/-- Dividing by one rounds nothing. -/
theorem divideEven_one (numerator : Nat) : divideEven numerator 1 = numerator := by
  simp [divideEven, Nat.mod_one]

section Whole

variable {number : Nat} (positive : number ≠ 0) (small : number < Nat.pow 2 53)
include positive small

/-- A number of at most 53 bits is as long as its highest bit tells. -/
theorem log2_le : number.log2 ≤ 52 := by
  have bits : number.log2 < 53 := (Nat.log2_lt positive).mpr small
  omega

/-- Shifted to the left, the number has all the bits of a mantissa. -/
theorem shifted_bounds :
    leastNormal ≤ number * Nat.pow 2 (52 - number.log2) ∧
      number * Nat.pow 2 (52 - number.log2) < 2 * leastNormal := by
  have short := log2_le positive small
  have split : Nat.pow 2 number.log2 * Nat.pow 2 (52 - number.log2) = leastNormal := by
    rw [Nat.pow_eq, Nat.pow_eq, ← Nat.pow_add]
    rw [Nat.add_sub_cancel' short]
    rfl
  have factor : 0 < Nat.pow 2 (52 - number.log2) := Nat.two_pow_pos _
  constructor
  · rw [← split]
    exact Nat.mul_le_mul_right _ (Nat.log2_self_le positive)
  · rw [← split, ← Nat.mul_assoc]
    refine Nat.mul_lt_mul_of_pos_right ?_ factor
    have high : number < 2 ^ (number.log2 + 1) := Nat.lt_log2_self
    rw [Nat.pow_succ, Nat.mul_comm] at high
    exact high

/-- The number is found in double precision, shifted as far as it goes. -/
theorem ofRatio_whole (negative : Bool) :
    Binary.ofRatio negative number 1 =
      .finite negative (number * Nat.pow 2 (52 - number.log2)) (-(52 - number.log2 : Nat)) := by
  have short := log2_le positive small
  obtain ⟨full, within⟩ := shifted_bounds positive small
  have rough : roughExponent number 1 = -(52 - number.log2 : Nat) := by
    simp only [roughExponent, mantissaBits]
    have one : Nat.log2 1 = 0 := by decide
    omega
  have fine : tooCoarse number 1 (-(52 - number.log2 : Nat)) = false := by
    simpa [tooCoarse] using full
  have exponent : max leastExponent (-((52 - number.log2 : Nat) : Int)) =
      -((52 - number.log2 : Nat) : Int) := by
    simp only [leastExponent]
    omega
  have mantissa : mantissaAt number 1 (-(52 - number.log2 : Nat)) =
      number * Nat.pow 2 (52 - number.log2) := by
    simp [mantissaAt, divideEven_one]
  have finite : ¬ greatestExponent < -((52 - number.log2 : Nat) : Int) := by
    simp only [greatestExponent]
    omega
  simp only [Binary.ofRatio, if_neg positive, rough, fine, Bool.false_eq_true, if_false, exponent,
    mantissa, if_neg (Nat.ne_of_lt within), if_neg finite]

end Whole

/-- Of the whole numbers of units, only the middle lies in an interval that reaches less than
a unit in both directions. -/
theorem within_iff (closed : Bool) {unit below above middle : Nat} (nonzero : middle ≠ 0)
    (low : 0 < below ∧ below < 4 * unit) (high : 0 < above ∧ above < 4 * unit) (point : Nat) :
    within closed (4 * (middle * unit) - below) (4 * (middle * unit) + above)
      (4 * (point * unit)) = true ↔ point = middle := by
  rcases Nat.lt_trichotomy point middle with less | rfl | more
  · have apart : point * unit + unit ≤ middle * unit := by
      rw [← Nat.succ_mul]
      exact Nat.mul_le_mul_right unit less
    cases closed <;> simp [within] <;> omega
  · have present : 0 < point * unit := Nat.mul_pos (Nat.pos_of_ne_zero nonzero) (by omega)
    cases closed <;> simp [within]
    omega
  · have apart : middle * unit + unit ≤ point * unit := by
      rw [← Nat.succ_mul]
      exact Nat.mul_le_mul_right unit more
    cases closed <;> simp [within] <;> omega

/-- The reals that round to a whole number which is shifted to the left. -/
def wholeInterval (number shift : Nat) : Interval := .of (number * Nat.pow 2 shift) (-shift)

section Grid

variable {number shift : Nat}

/-- On a grid of whole decimals, the common unit is that of the interval. -/
theorem commonScale_whole (grid : Nat) :
    commonScale grid (wholeInterval number shift).exponent =
      (Nat.pow 10 grid * Nat.pow 2 (shift + 2), 1) := by
  have left : (-(-(shift : Int) - 2)).toNat = shift + 2 := by omega
  have right : (-(shift : Int) - 2).toNat = 0 := by omega
  have none : (-(grid : Int)).toNat = 0 := by omega
  simp only [commonScale, wholeInterval, Interval.of, left, right, none, Int.toNat_natCast]

variable (positive : number ≠ 0)
include positive

/-- A point of such a grid reads back as the number only if it is the number. -/
theorem holds_whole (grid candidate : Nat) :
    (candidate != 0 && within (wholeInterval number shift).closed
        ((wholeInterval number shift).low * 1) ((wholeInterval number shift).high * 1)
        (candidate * (Nat.pow 10 grid * Nat.pow 2 (shift + 2)))) =
      decide (candidate * Nat.pow 10 grid = number) := by
  have unit : 0 < Nat.pow 2 shift := Nat.two_pow_pos shift
  have point : candidate * (Nat.pow 10 grid * Nat.pow 2 (shift + 2)) =
      4 * (candidate * Nat.pow 10 grid * Nat.pow 2 shift) := by
    have scaled : Nat.pow 2 (shift + 2) = Nat.pow 2 shift * 4 := Nat.pow_add 2 shift 2
    rw [scaled]
    ac_rfl
  have reads : within (wholeInterval number shift).closed (wholeInterval number shift).low
      (wholeInterval number shift).high (4 * (candidate * Nat.pow 10 grid * Nat.pow 2 shift)) =
        true ↔ candidate * Nat.pow 10 grid = number :=
    within_iff _ positive (by split <;> omega) (by omega) _
  have some : candidate * Nat.pow 10 grid = number → candidate ≠ 0 := by
    rintro same rfl
    exact positive (by rw [← same, Nat.zero_mul])
  rw [Nat.mul_one, Nat.mul_one, point, Bool.eq_iff_iff, Bool.and_eq_true, decide_eq_true_iff,
    reads, bne_iff_ne]
  exact ⟨And.right, fun same => ⟨some same, same⟩⟩

/-- On a grid of whole decimals a number is found only if it is a point of the grid. -/
theorem nearest_whole (grid : Nat) :
    (wholeInterval number shift).nearest grid =
      if Nat.pow 10 grid ∣ number then some (number / Nat.pow 10 grid) else none := by
  have decimal : 0 < Nat.pow 10 grid := Nat.pow_pos (by decide)
  have unit : 0 < Nat.pow 2 (shift + 2) := Nat.two_pow_pos (shift + 2)
  have below : (wholeInterval number shift).middle * 1 /
      (Nat.pow 10 grid * Nat.pow 2 (shift + 2)) = number / Nat.pow 10 grid := by
    have middle : (wholeInterval number shift).middle * 1 = number * Nat.pow 2 (shift + 2) := by
      have scaled : Nat.pow 2 (shift + 2) = Nat.pow 2 shift * 4 := Nat.pow_add 2 shift 2
      rw [scaled, Nat.mul_one]
      simp only [wholeInterval, Interval.of]
      ac_rfl
    rw [middle, Nat.mul_div_mul_right _ _ unit]
  have above : (number / Nat.pow 10 grid + 1) * Nat.pow 10 grid ≠ number := by
    have beyond := Nat.lt_div_mul_add decimal (a := number)
    rw [Nat.succ_mul]
    omega
  unfold Interval.nearest
  simp only [commonScale_whole, below, holds_whole positive, above, decide_false]
  by_cases divides : Nat.pow 10 grid ∣ number
  · rw [if_pos divides, Nat.div_mul_cancel divides, decide_eq_true rfl]
  · have apart : number / Nat.pow 10 grid * Nat.pow 10 grid ≠ number := fun same =>
      divides ⟨number / Nat.pow 10 grid, by rw [Nat.mul_comm, same]⟩
    rw [if_neg divides, decide_eq_false apart]

variable (shift) in
/-- The search ends with the number, with its last zeros told apart. -/
theorem search_whole (grid steps : Nat) (enough : grid < steps) :
    ∃ zeros, Nat.pow 10 zeros ∣ number ∧
      (wholeInterval number shift).search steps grid = ⟨number / Nat.pow 10 zeros, zeros⟩ := by
  induction grid generalizing steps with
  | zero =>
    obtain ⟨rest, rfl⟩ : ∃ rest, steps = rest + 1 := ⟨steps - 1, by omega⟩
    refine ⟨0, Nat.one_dvd _, ?_⟩
    rw [Interval.search, nearest_whole positive, if_pos (Nat.one_dvd _)]
  | succ grid inductionHypothesis =>
    obtain ⟨rest, rfl⟩ : ∃ rest, steps = rest + 1 := ⟨steps - 1, by omega⟩
    rw [Interval.search, nearest_whole positive]
    by_cases divides : Nat.pow 10 (grid + 1) ∣ number
    · exact ⟨grid + 1, divides, by rw [if_pos divides]⟩
    · obtain ⟨zeros, divided, found⟩ := inductionHypothesis rest (by omega)
      refine ⟨zeros, divided, ?_⟩
      rw [if_neg divides]
      simpa using found

end Grid

/-- The digits of a number that ends in zeros. -/
theorem toDigits_mul_ten {number : Nat} (positive : number ≠ 0) (zeros : Nat) :
    Nat.toDigits 10 (number * Nat.pow 10 zeros) =
      Nat.toDigits 10 number ++ List.replicate zeros '0' := by
  induction zeros with
  | zero => simp
  | succ zeros inductionHypothesis =>
    have scaled : number * Nat.pow 10 (zeros + 1) = number * Nat.pow 10 zeros * 10 := by
      rw [Nat.mul_assoc]
      rfl
    have large : 10 ≤ number * Nat.pow 10 zeros * 10 :=
      Nat.le_mul_of_pos_left 10 (Nat.mul_pos (Nat.pos_of_ne_zero positive)
        (Nat.pow_pos (by decide)))
    rw [scaled, Nat.toDigits_of_base_le (by decide) large, Nat.mul_div_cancel _ (by decide),
      inductionHypothesis, Nat.mul_mod_left, List.append_assoc, List.replicate_succ']
    rfl

/-- The shortest decimal of a whole number of at most 53 bits is written as its digits. -/
theorem positional_whole {number : Nat} (positive : number ≠ 0) (small : number < Nat.pow 2 53) :
    positional (.of (number * Nat.pow 2 (52 - number.log2)) (-(52 - number.log2 : Nat))) 0 =
      Nat.toDigits 10 number := by
  obtain ⟨full, inside⟩ := shifted_bounds positive small
  have short := log2_le positive small
  have some : number * Nat.pow 2 (52 - number.log2) ≠ 0 := by
    have least : 0 < leastNormal := by decide
    omega
  have bits : (number * Nat.pow 2 (52 - number.log2)).log2 = 52 := by
    refine (Nat.log2_eq_iff some).mpr ⟨full, inside⟩
  obtain ⟨grid, coarse, few⟩ : ∃ grid : Nat,
      coarseExponent (number * Nat.pow 2 (52 - number.log2)) (-(52 - number.log2 : Nat)) = grid ∧
        grid < 24 := by
    refine ⟨(coarseExponent (number * Nat.pow 2 (52 - number.log2))
      (-(52 - number.log2 : Nat))).toNat, ?_, ?_⟩ <;>
      simp only [coarseExponent, bits] <;> omega
  obtain ⟨zeros, divides, found⟩ := search_whole (52 - number.log2) positive grid 24 few
  have whole : number / Nat.pow 10 zeros ≠ 0 := by
    intro none
    have back := Nat.div_mul_cancel divides
    rw [none, Nat.zero_mul] at back
    exact positive back.symm
  rw [Shortest.of, if_neg some, coarse]
  change positional ((wholeInterval number (52 - number.log2)).search 24 grid) 0 = _
  rw [found, positional, if_pos (Int.natCast_nonneg zeros)]
  simp only [Int.toNat_natCast, if_true, List.append_nil]
  rw [← toDigits_mul_ten whole, Nat.div_mul_cancel divides]

/-- A sample shows every whole number up to 2 to the power of 53 as it is. -/
theorem sample_ofInt {value : Int} (bounded : value.natAbs ≤ Nat.pow 2 53) :
    (Binary.ofInt value).sample = toString value := by
  by_cases zero : value.natAbs = 0
  · obtain rfl := Int.natAbs_eq_zero.mp zero
    decide
  by_cases small : value.natAbs < Nat.pow 2 53
  · have written : (Binary.ofInt value).sample =
        signed (value < 0) (Nat.toDigits 10 value.natAbs) := by
      rw [Binary.ofInt, ofRatio_whole zero small, Binary.sample, positional_whole zero small]
    rw [written]
    cases value with
    | ofNat number =>
      have unsigned : ¬ (number : Int) < 0 := Int.not_lt.mpr (Int.natCast_nonneg number)
      simp [signed, unsigned, toString, Int.repr, Nat.repr_eq_ofList_toDigits]
    | negSucc number => simp [signed, toString, Int.repr, Nat.repr_eq_ofList_toDigits]
  · -- The bound itself is a power of two, and the only number with one bit more.
    have bound : value.natAbs = Nat.pow 2 53 := Nat.le_antisymm bounded (Nat.le_of_not_lt small)
    rcases Int.natAbs_eq_iff.mp bound with rfl | rfl <;> decide +kernel

/-- Beyond that bound a number is shown rounded. -/
example : (Binary.ofInt 18446744073709551615).sample = "18446744073709552000" := by
  decide +kernel

end Standby.Decimal
