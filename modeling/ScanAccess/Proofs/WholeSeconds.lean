import ScanAccess.Proofs.Seconds

/-! # Seconds that rounding leaves alone

A time in microseconds that is not negative and has no more than 52 bits is a binary64 number, and
its number of seconds is rounded to steps of less than a microsecond. A step that small does not
lead into the next second, so such a record is made in the second in which its microseconds lie.
-/

namespace ScanAccess

namespace Binary64

/-! ## Rounded quotients -/

theorem div_le_roundDiv (num den : Nat) : num / den ≤ roundDiv num den := by
  simp only [roundDiv]
  split_ifs <;> omega

theorem roundDiv_one (n : Nat) : roundDiv n 1 = n := by
  simp [roundDiv, Nat.mod_one]

theorem roundDiv_mul_left {factor : Nat} (h : 0 < factor) (num den : Nat) :
    roundDiv (factor * num) (factor * den) = roundDiv num den := by
  have hswap (n : Nat) : 2 * (factor * n) = factor * (2 * n) := Nat.mul_left_comm 2 factor n
  simp only [roundDiv, Nat.mul_div_mul_left _ _ h, Nat.mul_mod_mul_left, hswap,
    Nat.mul_lt_mul_left h]

/-- A number of units counted in finer steps is rounded to a step that belongs to the same whole
number of units. -/
theorem roundDiv_div_steps {n unit steps : Nat} (hunit : 0 < unit) (hsteps : unit < steps) :
    roundDiv (n * steps) unit / steps = n / unit := by
  have hbelow : n / unit * steps ≤ roundDiv (n * steps) unit := by
    refine le_trans ?_ (div_le_roundDiv _ _)
    rw [Nat.le_div_iff_mul_le hunit, Nat.mul_right_comm]
    exact Nat.mul_le_mul_right _ (Nat.div_mul_le_self n unit)
  have habove : roundDiv (n * steps) unit ≤ (n / unit + 1) * steps - 1 := by
    refine roundDiv_le hunit ?_
    have hnext : (n + 1) * steps ≤ unit * (n / unit + 1) * steps :=
      Nat.mul_le_mul_right _ (Nat.lt_mul_div_succ n hunit)
    rw [Nat.sub_mul, Nat.one_mul, Nat.mul_comm _ unit, ← Nat.mul_assoc]
    rw [Nat.add_mul, Nat.one_mul] at hnext
    omega
  have hpos : 0 < (n / unit + 1) * steps := Nat.mul_pos (Nat.succ_pos _) (by omega)
  exact Nat.div_eq_of_lt_le hbelow (by omega)

/-! ## Numbers -/

theorem asFraction?_of_nonpos (mantissa : Nat) {exponent : Int} (h : exponent ≤ 0) :
    asFraction? (.finite false mantissa exponent) = some ((mantissa : Int), (-exponent).toNat) := by
  have hwhole : exponent.toNat = 0 := by omega
  simp [asFraction?, hwhole, twoTo]

theorem floor?_of_nonpos (mantissa : Nat) {exponent : Int} (h : exponent ≤ 0) :
    floor? (.finite false mantissa exponent) =
      some ((mantissa / twoTo (-exponent).toNat : Nat) : Int) := by
  rw [floor?, asFraction?_of_nonpos mantissa h]
  rfl

/-- A number of 52 bits is a binary64 number itself. -/
theorem asFraction?_ofInt {n : Nat} (h : n < twoTo 52) :
    ∃ scale, asFraction? (ofInt n) = some (((n * twoTo scale : Nat) : Int), scale) := by
  have hsign : decide ((n : Int) < 0) = false := decide_eq_false (by omega)
  simp only [ofInt, hsign, Int.natAbs_natCast, ofRatio]
  split
  next hzero => exact ⟨1074, by rw [hzero, Nat.zero_mul]; rfl⟩
  next hn =>
    have hlog : n.log2 < 52 := (Nat.log2_lt hn).mpr h
    have hone : Nat.log2 1 = 0 := by decide
    have hexponent := leadingExponent_le n 1
    have hmantissa := atScale_lt_of_leadingExponent_le Nat.one_pos
      (Int.le_max_left (leadingExponent n 1) (-1074))
    generalize hscale : max (leadingExponent n 1) (-1074) = exponent at hmantissa
    have hneg : ¬ 0 ≤ exponent := by omega
    rw [atScale, if_neg hneg, Nat.mul_one] at hmantissa
    refine ⟨(-exponent).toNat, ?_⟩
    simp only [atScale, if_neg hneg, roundDiv_one, if_neg hmantissa.ne]
    rw [if_neg (by omega), asFraction?_of_nonpos _ (by omega)]

/-- A quotient of no more than 33 bits is rounded to steps of the size `2 ^ (-20)` or finer. -/
theorem exists_floor?_ofRatio {num den : Nat} (hden : 0 < den) (h : num.log2 ≤ den.log2 + 32) :
    ∃ scale, 20 ≤ scale ∧ floor? (ofRatio false num den) =
      some ((roundDiv (num * twoTo scale) den / twoTo scale : Nat) : Int) := by
  rw [ofRatio]
  split
  next hzero =>
    refine ⟨20, Nat.le_refl _, ?_⟩
    rw [floor?_of_nonpos 0 (by decide), hzero]
    simp [roundDiv, hden]
  next =>
    have hexponent := leadingExponent_le num den
    generalize hscale : max (leadingExponent num den) (-1074) = exponent
    have hneg : ¬ 0 ≤ exponent := by omega
    refine ⟨(-exponent).toNat, by omega, ?_⟩
    simp only [atScale, if_neg hneg]
    generalize roundDiv (num * twoTo (-exponent).toNat) den = rounded
    by_cases hcarry : rounded = twoTo 53
    · -- a mantissa that rounding makes too long is halved, and the step is doubled
      have hstep : twoTo (-exponent).toNat = twoTo (-(exponent + 1)).toNat * twoTo 1 := by
        rw [← twoTo_add]
        exact congrArg twoTo (by omega)
      simp only [if_pos hcarry]
      rw [if_neg (by omega), floor?_of_nonpos _ (by omega), hcarry, hstep]
      exact congrArg (fun n : Nat => some (n : Int))
        (Nat.mul_div_mul_right _ _ (twoTo_pos 1)).symm
    · simp only [if_neg hcarry]
      rw [if_neg (by omega), floor?_of_nonpos _ (by omega)]

end Binary64

namespace Log

open Binary64

variable {created : Int} {record : Record}

/-- The whole seconds of a time of 52 bits. -/
theorem exists_secondsOf_floor (h : 0 ≤ created ∧ created < twoTo 52) :
    ∃ seconds, secondsOf created = .ok seconds ∧ seconds.floor? = some (created / 1000000) := by
  obtain ⟨n, rfl⟩ := Int.eq_ofNat_of_zero_le h.1
  have hn : n < twoTo 52 := Int.ofNat_lt.mp h.2
  obtain ⟨scale, hfraction⟩ := asFraction?_ofInt hn
  have hden : 0 < twoTo scale * 1000000 := Nat.mul_pos (twoTo_pos _) (by omega)
  have hlog : (n * twoTo scale).log2 ≤ (twoTo scale * 1000000).log2 + 32 := by
    have hmillion := le_log2_million scale
    have hnum : (n * twoTo scale).log2 ≤ scale + 51 := by
      refine log2_le_of_lt ?_
      rw [Nat.add_assoc, twoTo_add, Nat.mul_comm]
      exact Nat.mul_lt_mul_of_pos_left hn (twoTo_pos scale)
    omega
  obtain ⟨steps, hsteps, hfloor⟩ := exists_floor?_ofRatio hden hlog
  refine ⟨ofRatio false (n * twoTo scale) (twoTo scale * 1000000), ?_, ?_⟩
  · have hsign : decide (((n * twoTo scale : Nat) : Int) < 0) = false :=
      decide_eq_false (by omega)
    rw [secondsOf, dividedBy?, hfraction, Option.map_some]
    simp only [hsign, Int.natAbs_natCast]
  · -- the power of two by which both numbers are scaled makes no difference
    rw [hfloor, Nat.mul_comm n, Nat.mul_assoc, roundDiv_mul_left (twoTo_pos _),
      roundDiv_div_steps (by omega)]
    · rfl
    · calc 1000000 < twoTo 20 := by decide
        _ ≤ twoTo steps := twoTo_le_twoTo hsteps

/-- The second in which a record was made is that in which its microseconds lie. -/
theorem Record.second_eq (h : 0 ≤ record.created ∧ record.created < twoTo 52) :
    record.second = .ok (record.created / 1000000) := by
  obtain ⟨seconds, hseconds, hfloor⟩ := exists_secondsOf_floor h
  have hbits : (twoTo 52 : Int) < twoTo 63 := by decide
  exact second_eq_of_floor hseconds hfloor (by omega)

end Log

end ScanAccess
