import Metrology.Proofs.PowerProducts

/-!
The exponents of powers and roots. The dimension takes an exponent as it is, and the magnitude
takes it in a fixed width: 32 bits for a power and eight bits for a root. So a power is right as
far as 32 bits reach, and a root is right for the divisors from -128 to 127. Every divisor of a
dimension whose exponents are at most 127 is among them; for the others the magnitude is raised to
the inverse of the residue.
-/

namespace Metrology

namespace BoundedInt

variable {k : IntegerKind}

theorem val_wrap_eq_iff {n : Int} : (wrap k n).val = n ↔ k.min ≤ n ∧ n ≤ k.max := by
  constructor
  · intro h
    rw [← h]
    exact ⟨(wrap k n).min_le, (wrap k n).le_max⟩
  · rintro ⟨hmin, hmax⟩
    exact val_wrap_of_mem hmin hmax

end BoundedInt

namespace Dimension

/-- A divisor of an exponent is not above it. -/
theorem natAbs_le_of_root? {a b : Dimension} {n : Int} {bound : Nat} (hroot : a.root? n = some b)
    (hexponent : ∃ d, a.get d ≠ 0) (hbound : ∀ d, (a.get d).natAbs ≤ bound) :
    n.natAbs ≤ bound := by
  obtain ⟨d, hd⟩ := hexponent
  have hdvd : n ∣ a.get d := ⟨b.get d, by rw [(root?_eq_some_iff.mp hroot).2 d, mul_comm]⟩
  exact (Nat.le_of_dvd (Int.natAbs_pos.mpr hd) (Int.natAbs_dvd_natAbs.mpr hdvd)).trans (hbound d)

theorem power_of_root? {a b : Dimension} {n : Int} (hroot : a.root? n = some b) : b.power n = a :=
  Exponents.ext_get fun d => by rw [get_power, (root?_eq_some_iff.mp hroot).2 d]

end Dimension

namespace Binary

variable {p : Precision}

theorem toRat?_ofInt_of_lt {n : Int} (hn : n.natAbs < 2 * 2 ^ p.fractionBits) :
    (ofInt n : Binary p).toRat? = some (n : ℚ) := by
  obtain ⟨code, hunits, hcode⟩ := exists_ofInt_eq hn
  have hmagnitude : p.magnitude code = n.natAbs := by
    rw [Precision.magnitude, hunits]
    push_cast
    rw [mul_div_cancel_right₀ _ (by positivity)]
  rw [hcode, toRat?, hmagnitude, withSign_natAbs]

end Binary

namespace Quantity

variable {p : Precision}

/-- The divisor of a root as the magnitude takes it. -/
def rootDivisor (p : Precision) (n : Int) : Binary p :=
  Fractional.ofExponent (BoundedInt.wrap .int8 n)

theorem toRat?_rootDivisor (p : Precision) (n : Int) :
    (rootDivisor p n).toRat? = some ((BoundedInt.wrap .int8 n).val : ℚ) := by
  have hmin : (-128 : Int) ≤ (BoundedInt.wrap .int8 n).val := (BoundedInt.wrap .int8 n).min_le
  have hmax : (BoundedInt.wrap .int8 n).val ≤ 127 := (BoundedInt.wrap .int8 n).le_max
  have hbits : 128 < 2 * 2 ^ p.fractionBits := by cases p <;> decide
  exact Binary.toRat?_ofInt_of_lt (by omega)

theorem toRat?_rootDivisor_eq_iff {n : Int} :
    (rootDivisor p n).toRat? = some (n : ℚ) ↔
      IntegerKind.int8.min ≤ n ∧ n ≤ IntegerKind.int8.max := by
  rw [toRat?_rootDivisor, Option.some.injEq, Int.cast_inj, BoundedInt.val_wrap_eq_iff]

theorem isZero_rootDivisor_iff {n : Int} : (rootDivisor p n).isZero = true ↔ (256 : Int) ∣ n := by
  rw [Binary.isZero_eq_true_iff (toRat?_rootDivisor p n), Int.cast_eq_zero]
  exact BoundedInt.ext_iff.symm.trans BoundedInt.wrap_eq_zero_iff

/-- What the exponent does to the dimension and what it does to the magnitude. A power is by the
same number in both as long as it has 32 bits. A root is by the same number in both exactly if
that has eight bits, as it has for every dimension with exponents of at most 127; a multiple of
256 becomes a division by zero. The exponent vector of a power shows the residues of its
exponents. -/
theorem exponents_of_power_and_root (q : Quantity (Binary p)) (n : Int) :
    (IntegerKind.int32.min ≤ n → n ≤ IntegerKind.int32.max → ¬ (q.dimension.power n).InGap →
      ∃ v, q.nthPower n = .ok v ∧ v.dimension = q.dimension.power n ∧
        v.magnitude = integerPower Binary.mul Binary.div Binary.one q.magnitude n ∧
        ∀ b, (v.dimension.vector.get b).val = q.dimension.get b * n ↔
          IntegerKind.int8.min ≤ q.dimension.get b * n ∧
            q.dimension.get b * n ≤ IntegerKind.int8.max) ∧
    ∀ d, q.dimension.root? n = some d →
      d.power n = q.dimension ∧
      (∃ h, q.nthRoot n =
        .ok (.quantity ⟨d, q.magnitude.pow (Binary.one.div (rootDivisor p n)), h⟩)) ∧
      ((rootDivisor p n).toRat? = some (n : ℚ) ↔
        IntegerKind.int8.min ≤ n ∧ n ≤ IntegerKind.int8.max) ∧
      ((rootDivisor p n).isZero = true ↔ (256 : Int) ∣ n) ∧
      ((∀ b, (q.dimension.get b).natAbs ≤ 127) → (rootDivisor p n).toRat? = some (n : ℚ)) := by
  constructor
  · intro hmin hmax hgap
    obtain ⟨v, hv⟩ := q.exists_nthPower_eq_ok hgap
    obtain ⟨hdimension, hmagnitude⟩ := q.of_nthPower_eq_ok hv
    refine ⟨v, hv, hdimension, hmagnitude.trans (q.powerMagnitude_of_range hmin hmax),
      fun b => ?_⟩
    rw [hdimension, Dimension.get_vector, Dimension.get_power]
    exact BoundedInt.val_wrap_eq_iff
  · intro d hroot
    refine ⟨Dimension.power_of_root? hroot, ⟨Dimension.isMeasurable_root q.measurable hroot, ?_⟩,
      toRat?_rootDivisor_eq_iff, isZero_rootDivisor_iff, fun hbound => ?_⟩
    · rw [q.nthRoot_eq_collapse n hroot]
      exact Value.collapse_eq_map_quantity _ _
    · have hsmall :=
        Dimension.natAbs_le_of_root? hroot (Dimension.exists_get_ne_zero q.measurable) hbound
      have hmin : IntegerKind.int8.min = -128 := rfl
      have hmax : IntegerKind.int8.max = 127 := rfl
      exact toRat?_rootDivisor_eq_iff.mpr (by omega)

/-- The square of a length to the hundredth shows another exponent. The 128th root of a length to
the 128th is a length, but its magnitude is raised to the inverse of -128. -/
theorem exponents_of_power_and_root_lengths :
    (∃ v, nthPower ⟨⟨100, 0, 0, 0, 0, 0, 0⟩, (Binary.ofInt 2 : Binary .double), rfl⟩ 2 = .ok v ∧
      v.dimension = ⟨200, 0, 0, 0, 0, 0, 0⟩ ∧ (v.dimension.vector.get .length).val ≠ 100 * 2) ∧
    (∃ h, nthRoot ⟨⟨128, 0, 0, 0, 0, 0, 0⟩, (Binary.ofInt 2 : Binary .double), rfl⟩ 128 =
      .ok (.quantity ⟨⟨1, 0, 0, 0, 0, 0, 0⟩,
        (Binary.ofInt 2).pow (Binary.one.div (rootDivisor .double 128)), h⟩)) ∧
    (rootDivisor .double 128).toRat? ≠ some ((128 : Int) : ℚ) ∧
    (rootDivisor .double 128).toRat? = some ((-128 : Int) : ℚ) := by
  obtain ⟨hpower, -⟩ := exponents_of_power_and_root
    ⟨⟨100, 0, 0, 0, 0, 0, 0⟩, (Binary.ofInt 2 : Binary .double), rfl⟩ 2
  obtain ⟨-, hroot⟩ := exponents_of_power_and_root
    ⟨⟨128, 0, 0, 0, 0, 0, 0⟩, (Binary.ofInt 2 : Binary .double), rfl⟩ 128
  have haccepted : ¬ (Dimension.power ⟨100, 0, 0, 0, 0, 0, 0⟩ 2).InGap :=
    fun h => absurd (h.2 .length) (by decide)
  have hwide : ¬ (IntegerKind.int8.min ≤ 100 * 2 ∧ 100 * 2 ≤ IntegerKind.int8.max) := by decide
  have hdivisorWide : ¬ (IntegerKind.int8.min ≤ 128 ∧ 128 ≤ IntegerKind.int8.max) := by decide
  obtain ⟨v, hv, hdimension, -, hshown⟩ := hpower (by decide) (by decide) haccepted
  obtain ⟨-, hvalue, hdivisor, -, -⟩ := hroot ⟨1, 0, 0, 0, 0, 0, 0⟩ rfl
  dsimp only at hvalue
  exact ⟨⟨v, hv, hdimension, fun h => hwide ((hshown .length).mp h)⟩, hvalue,
    fun h => hdivisorWide (hdivisor.mp h), toRat?_rootDivisor .double 128⟩

end Quantity

end Metrology
