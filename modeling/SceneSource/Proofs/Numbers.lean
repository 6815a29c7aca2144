-- SUMMARY: Which doubles are finite, how large they can be, and that the order of numbers is one.
import SceneSource.Number.Basic

/-!
# Finiteness and order of numbers

A double is finite, an infinity or no number, which its exponent and its fraction decide. Finite
doubles have smaller magnitudes than infinities, so every number that is one lies below the
positive infinity, and a number that does not exceed a double does not exceed a greater one.
-/

namespace SceneSource

namespace Double

/-! ## Infinities and what is no number -/

theorem not_finite_of_isNaN {d : Double} (h : d.isNaN = true) :
    d.isFinite = false ∧ d.isInfinite = false := by
  simp only [isNaN, Bool.and_eq_true, beq_iff_eq, bne_iff_ne] at h
  simp [isFinite, isInfinite, h.1, h.2]

theorem not_finite_of_isInfinite {d : Double} (h : d.isInfinite = true) : d.isFinite = false := by
  simp only [isInfinite, Bool.and_eq_true, beq_iff_eq] at h
  simp [isFinite, h.1]

theorem isFinite_of_not {d : Double} (hnan : ¬ d.isNaN = true) (hinfinite : ¬ d.isInfinite = true) :
    d.isFinite = true := by
  simp only [isNaN, isInfinite, isFinite, Bool.and_eq_true, beq_iff_eq, bne_iff_ne, ne_eq]
    at hnan hinfinite ⊢
  exact fun hmax => hnan ⟨hmax, fun hzero => hinfinite ⟨hmax, hzero⟩⟩

private theorem pow_52 : Nat.pow 2 52 = 4503599627370496 := rfl
private theorem pow_63 : Nat.pow 2 63 = 9223372036854775808 := rfl
private theorem pow_11 : Nat.pow 2 11 = 2048 := rfl

/-- Bits up to those of infinity are a number, whatever the sign. -/
theorem isNaN_ofSign {rest : Nat} (h : rest ≤ infinityBits) (negative : Bool) :
    (ofSign negative rest).isNaN = false := by
  have hbits : (ofSign negative rest).bits.toNat =
      (if negative then 9223372036854775808 else 0) + rest := by
    have hrest : rest ≤ 9218868437227405312 := h
    unfold ofSign
    rw [pow_63, UInt64.toNat_ofNat_of_lt']
    cases negative <;> simp [UInt64.size] <;> omega
  unfold infinityBits at h
  simp only [pow_52] at h
  simp only [isNaN, exponent, fraction, hbits, pow_52, pow_11, Bool.and_eq_false_iff,
    beq_eq_false_iff_ne, bne_eq_false_iff_eq]
  cases negative <;> simp only [Bool.false_eq_true, if_true, if_false] <;> omega

/-- A rounded quotient is a number. -/
theorem isNaN_ofRatio (negative : Bool) (num den : Nat) :
    (ofRatio negative num den).isNaN = false :=
  isNaN_ofSign (Nat.min_le_right _ _) negative

/-! ## Magnitudes -/

theorem significand_lt (d : Double) : d.significand < 2 * Nat.pow 2 52 := by
  have hfraction : d.fraction < Nat.pow 2 52 := Nat.mod_lt _ (by decide)
  unfold significand
  split <;> omega

/-- A normal double is greater than every double of a smaller scale. -/
theorem magnitude_lt_of_scale_lt {d e : Double} (he : Nat.pow 2 52 ≤ e.significand)
    (hscale : d.scale < e.scale) : d.magnitude < e.magnitude := by
  have hdouble : Nat.pow 2 (d.scale + 1) = 2 * Nat.pow 2 d.scale := Nat.pow_succ'
  calc d.magnitude
      < 2 * Nat.pow 2 52 * Nat.pow 2 d.scale :=
        Nat.mul_lt_mul_of_pos_right (significand_lt d) (Nat.pow_pos (by decide))
    _ = Nat.pow 2 52 * Nat.pow 2 (d.scale + 1) := by
        simp only [hdouble, Nat.mul_comm 2, Nat.mul_assoc]
    _ ≤ e.magnitude := Nat.mul_le_mul he (Nat.pow_le_pow_right (by decide) hscale)

/-- Every finite double is below infinity. -/
theorem magnitude_lt_of_isFinite {d e : Double} (hd : d.isFinite = true)
    (he : e.isFinite = false) : d.magnitude < e.magnitude := by
  have hbelow : d.exponent < 2048 := Nat.mod_lt _ (by decide)
  have hexponent : d.exponent ≠ 2047 := by simpa [isFinite] using hd
  have htop : e.exponent = 2047 := by simpa [isFinite] using he
  refine magnitude_lt_of_scale_lt ?_ ?_
  · unfold significand
    rw [if_neg (by omega)]
    exact Nat.le_add_right _ _
  · unfold scale
    omega

/-- No number is greater than infinity. -/
theorem magnitude_le_infinity {d : Double} (h : d.isNaN = false) :
    d.magnitude ≤ (infinity false).magnitude := by
  cases hd : d.isFinite with
  | true => exact Nat.le_of_lt (magnitude_lt_of_isFinite hd rfl)
  | false =>
    have htop : d.exponent = 2047 := by simpa [isFinite] using hd
    have hfraction : d.fraction = 0 := by simpa [isNaN, htop] using h
    have hsignificand : d.significand = (infinity false).significand := by
      rw [significand, htop, hfraction]
      rfl
    have hscale : d.scale = (infinity false).scale := by
      rw [scale, htop]
      rfl
    have hsame : d.magnitude = (infinity false).magnitude := by
      rw [magnitude, magnitude, hsignificand, hscale]
    exact Nat.le_of_eq hsame

theorem natAbs_units (d : Double) : d.units.natAbs = d.magnitude := by
  unfold units
  split <;> omega

/-- Doubles that are equal are finite together. -/
theorem isFinite_of_units {d e : Double} (h : d.units = e.units) : d.isFinite = e.isFinite := by
  have hmagnitude : d.magnitude = e.magnitude := by
    rw [← natAbs_units d, ← natAbs_units e, h]
  cases hd : d.isFinite with
  | true => cases he : e.isFinite with
    | true => rfl
    | false => exact absurd hmagnitude (Nat.ne_of_lt (magnitude_lt_of_isFinite hd he))
  | false => cases he : e.isFinite with
    | true => exact absurd hmagnitude (Nat.ne_of_gt (magnitude_lt_of_isFinite he hd))
    | false => rfl

/-! ## Order -/

section Infinities

variable {d e : Double} (hd : d.isInfinite = true) (he : e.isNaN = false)
  (hother : e.isInfinite = false ∨ e.negative ≠ d.negative)
include hd he hother

/-- A number other than an infinity is nearer to zero, or on the other side of it. -/
theorem magnitude_lt_or_opposite : e.magnitude < d.magnitude ∨
    (e.negative ≠ d.negative ∧ 0 < d.magnitude) := by
  have hinfinite : d.isFinite = false := not_finite_of_isInfinite hd
  rcases hother with hfinite | hopposite
  · exact .inl (magnitude_lt_of_isFinite (isFinite_of_not (by simp [he]) (by simp [hfinite]))
      hinfinite)
  · have hzero : zero.magnitude < d.magnitude := magnitude_lt_of_isFinite rfl hinfinite
    exact .inr ⟨hopposite, hzero⟩

/-- The positive infinity is above all other numbers. -/
theorem units_lt_infinity (hpositive : d.negative = false) : e.units < d.units := by
  unfold units
  rcases magnitude_lt_or_opposite hd he hother with hlt | ⟨hopposite, hlt⟩
  · cases e.negative <;> simp only [hpositive, if_true, if_false, Bool.false_eq_true] <;> omega
  · simp only [hpositive, ne_eq, Bool.not_eq_false] at hopposite ⊢
    simp only [hopposite, if_true, if_false, Bool.false_eq_true]
    omega

/-- The negative infinity is below all other numbers. -/
theorem infinity_lt_units (hnegative : d.negative = true) : d.units < e.units := by
  unfold units
  rcases magnitude_lt_or_opposite hd he hother with hlt | ⟨hopposite, hlt⟩
  · cases e.negative <;> simp only [hnegative, if_true, if_false, Bool.false_eq_true] <;> omega
  · simp only [hnegative, ne_eq, Bool.not_eq_true] at hopposite ⊢
    simp only [hopposite, if_true, if_false, Bool.false_eq_true]
    omega

end Infinities

theorem le_iff {a b : Double} :
    a.le b = true ↔ a.isNaN = false ∧ b.isNaN = false ∧ a.units ≤ b.units := by
  simp only [le, Bool.and_eq_true, Bool.not_eq_true', decide_eq_true_eq, and_assoc]

/-- Of two doubles in order the lesser one is the negative infinity, or the greater one is the
    positive infinity, or neither is infinite. -/
theorem le_cases {a b : Double} (h : a.le b = true) :
    (a.isInfinite = true ∧ a.negative = true) ∨ (b.isInfinite = true ∧ b.negative = false) ∨
      (a.isInfinite = false ∧ b.isInfinite = false) := by
  obtain ⟨ha, hb, hunits⟩ := le_iff.mp h
  cases hinfinite : a.isInfinite with
  | true => cases hnegative : a.negative with
    | true => exact .inl ⟨rfl, rfl⟩
    | false =>
      refine .inr (.inl (Decidable.byContradiction fun hother => ?_))
      have hlt : b.units < a.units := by
        refine units_lt_infinity hinfinite hb ?_ hnegative
        rcases Bool.eq_false_or_eq_true b.isInfinite with hinfinite' | hfinite
        · exact .inr fun hsame => hother ⟨hinfinite', hsame.trans hnegative⟩
        · exact .inl hfinite
      omega
  | false => cases hinfinite' : b.isInfinite with
    | false => exact .inr (.inr ⟨rfl, rfl⟩)
    | true =>
      refine .inr (.inl ⟨rfl, Decidable.byContradiction fun hnegative => ?_⟩)
      have hlt : b.units < a.units :=
        infinity_lt_units hinfinite' ha (.inl hinfinite) (by simpa using hnegative)
      omega

end Double

namespace Number

/-- Whether a number is no NaN. -/
def isOrdered : Number → Bool
  | .int _ => true
  | .real d => !d.isNaN

theorem le_infinity {n : Number} (h : n.isOrdered = true) :
    n.le (.real (.infinity false)) = true := by
  cases n with
  | int n => rfl
  | real d =>
    have hd : d.isNaN = false := by simpa [isOrdered] using h
    have hunits : (Double.infinity false).units = (Double.infinity false).magnitude := rfl
    have hle : d.units ≤ (Double.infinity false).units := by
      have := Double.magnitude_le_infinity hd
      simp only [hunits]
      unfold Double.units
      split <;> omega
    exact Double.le_iff.mpr ⟨hd, rfl, hle⟩

/-- A number that does not exceed a double does not exceed a greater one. -/
theorem le_trans {n : Number} {a b : Double} (hn : n.le (.real a) = true) (hab : a.le b = true) :
    n.le (.real b) = true := by
  obtain ⟨ha, hb, hunits⟩ := Double.le_iff.mp hab
  cases n with
  | real d =>
    obtain ⟨hd, -, hle⟩ := Double.le_iff.mp hn
    exact Double.le_iff.mpr ⟨hd, hb, Int.le_trans hle hunits⟩
  | int m =>
    unfold le at hn ⊢
    simp only [ha, hb, Bool.false_eq_true, if_false] at hn ⊢
    -- only between finite doubles it is units that are compared
    rcases Double.le_cases hab with ⟨hinfinite, hnegative⟩ | ⟨hinfinite, hnegative⟩ | ⟨ha', hb'⟩
    · simp [hinfinite, hnegative] at hn
    · simp [hinfinite, hnegative]
    · simp only [ha', hb', Bool.false_eq_true, if_false, decide_eq_true_eq] at hn ⊢
      exact Int.le_trans hn hunits

end Number

end SceneSource
