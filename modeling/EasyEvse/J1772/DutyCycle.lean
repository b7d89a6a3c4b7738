import Mathlib.Tactic.Linarith
import EasyEvse.J1772.State

/-! Currents told by duties: what is encoded is decoded to no more, and to little less. -/

namespace EasyEvse.J1772

/-- A current is encoded by a regular duty, which is decoded to little less than the current. -/
structure Codes (amps duty told : ℚ) : Prop where
  encodes : ∀ before, getDutyCycleFromAmps amps before = (.success, duty)
  decodes : ∀ before, getAmpsFromDutyCycle duty before = (.success, told)
  duty_ge : 10 ≤ duty
  duty_le : duty ≤ 96
  told_ge : 6 ≤ told
  told_le : told ≤ amps
  near : amps - told < 5 / 2

section Casts

variable {value : ℚ}

/-- A non-negative value has a whole part, and it lies between the bounds that the value has. -/
theorem whole_part (value : ℚ) (low high : ℕ) (above : low ≤ value) (below : value < high) :
    ∃ n : ℕ, n ≤ value ∧ value < n + 1 ∧ low ≤ n ∧ n < high := by
  -- The whole part of a value that is not negative is a natural number.
  have positive : 0 ≤ value := le_trans (Nat.cast_nonneg low) above
  exact ⟨⌊value⌋₊, Nat.floor_le positive, Nat.lt_floor_add_one value, Nat.le_floor above,
    (Nat.floor_lt positive).mpr below⟩

/-- The whole part of a value is what it is rounded down to. -/
theorem floor_eq_natCast {n : ℕ} (above : n ≤ value) (below : value < n + 1) :
    value.floor = n := by
  have floor : ⌊value⌋ = (n : ℤ) :=
    Int.floor_eq_iff.mpr ⟨by exact_mod_cast above, by exact_mod_cast below⟩
  exact floor

/-- A value that fits is converted to its whole part. -/
theorem toUint8_eq {n : ℕ} (above : n ≤ value) (below : value < n + 1) (fits : value < 256) :
    toUint8 value = n := by
  have small : n < 256 := by exact_mod_cast lt_of_le_of_lt above fits
  rw [toUint8, floor_eq_natCast above below, Int.toNat_natCast, Nat.mod_eq_of_lt small]

end Casts

section Ranges

variable {duty amps before : ℚ} {n : ℕ}

/-- The lower linear range tells three fifths of an ampere for each whole percent. -/
theorem getAmpsFromDutyCycle_lower (above : n ≤ duty) (below : duty < n + 1) (low : 10 ≤ duty)
    (high : duty < 85) :
    getAmpsFromDutyCycle duty before = (J1772Status.success, (n : ℚ) * (3 / 5)) := by
  -- The ranges below ten percent are asked for first, and do not apply.
  rw [getAmpsFromDutyCycle, if_neg (by linarith), if_neg (fun range => by linarith [range.2]),
    if_neg (fun range => by linarith [range.2]), if_neg (fun range => by linarith [range.2]),
    if_pos high, toUint8_eq above below (by linarith)]

/-- The upper linear range tells five halves of an ampere for each percent above its zero. -/
theorem getAmpsFromDutyCycle_upper (low : 85 ≤ n + 64) (high : n + 64 < 97) :
    getAmpsFromDutyCycle (n + 64) before = (J1772Status.success, (n : ℚ) * (5 / 2)) := by
  have low : (85 : ℚ) ≤ n + 64 := by exact_mod_cast low
  have high : (n : ℚ) + 64 < 97 := by exact_mod_cast high
  -- The lower linear range ends where this one begins.
  rw [getAmpsFromDutyCycle, if_neg (by linarith), if_neg (fun range => by linarith [range.2]),
    if_neg (fun range => by linarith [range.2]), if_neg (fun range => by linarith [range.2]),
    if_neg (by linarith), if_pos high, toUint8_eq (by linarith) (by linarith) (by linarith)]

/-- Below 51 amperes the fraction of the current is dropped. -/
theorem getDutyCycleFromAmps_lower (above : n ≤ amps) (below : amps < n + 1) (low : 6 ≤ amps)
    (high : amps < 51) :
    getDutyCycleFromAmps amps before = (J1772Status.success, (n : ℚ) * (5 / 3)) := by
  rw [getDutyCycleFromAmps, if_neg (by linarith), if_pos ⟨low, high⟩,
    toUint8_eq above below (by linarith)]
  norm_num [div_eq_mul_inv]

/-- From 51 amperes on the fraction of the duty is dropped. -/
theorem getDutyCycleFromAmps_upper (above : n ≤ amps / (5 / 2) + 64)
    (below : amps / (5 / 2) + 64 < n + 1) (low : 51 ≤ amps) (high : amps ≤ 81) :
    getDutyCycleFromAmps amps before = (J1772Status.success, (n : ℚ)) := by
  rw [getDutyCycleFromAmps, if_neg (by linarith), if_neg (fun range => by linarith [range.2]),
    if_pos ⟨low, high⟩, toUint8_eq above below (by linarith)]

end Ranges

section Limits

variable {limit : ℚ}

/-- A current below 51 amperes is encoded by three fifths of an ampere for each percent. -/
theorem codes_lower (low : 6 ≤ limit) (high : limit < 51) :
    ∃ duty told, Codes limit duty told ∧ ∀ n : ℕ, n ≤ limit → n < told + 3 / 5 := by
  -- The limit loses its fraction in the conversion.
  obtain ⟨n, above, below, six, fifty⟩ :=
    whole_part limit 6 51 (by exact_mod_cast low) (by exact_mod_cast high)
  have six : (6 : ℚ) ≤ n := by exact_mod_cast six
  have fifty : (n : ℚ) ≤ 50 := by
    have whole : n ≤ 50 := by omega
    exact_mod_cast whole
  -- The vehicle drops the fraction of the duty, which has ten percent at least.
  obtain ⟨k, kAbove, kBelow, ten, -⟩ :=
    whole_part (n * (5 / 3)) 10 85 (by push_cast; linarith) (by push_cast; linarith)
  have ten : (10 : ℚ) ≤ k := by exact_mod_cast ten
  refine ⟨n * (5 / 3), k * (3 / 5), ⟨fun _ => getDutyCycleFromAmps_lower above below low high,
    fun _ => getAmpsFromDutyCycle_lower kAbove kBelow (by linarith) (by linarith),
    by linarith, by linarith, by linarith, by linarith, by linarith⟩, fun m whole => ?_⟩
  -- A whole current loses less than one percent.
  have order : (m : ℚ) ≤ n := by
    have strict : (m : ℚ) < n + 1 := by linarith
    exact_mod_cast Nat.lt_succ_iff.mp (by exact_mod_cast strict)
  linarith

/-- A current from 51 amperes on is encoded by five halves of an ampere for each percent. -/
theorem codes_upper (low : 51 ≤ limit) (high : limit ≤ 81) :
    ∃ duty told, Codes limit duty told ∧
      if limit / (5 / 2) < 21 then told = 252 / 5
      else told = (limit / (5 / 2)).floor * (5 / 2) := by
  -- The duty loses its fraction in the conversion.
  obtain ⟨n, above, below, least, most⟩ :=
    whole_part (limit / (5 / 2) + 64) 84 97 (by push_cast; linarith) (by push_cast; linarith)
  have encodes : ∀ before, getDutyCycleFromAmps limit before = (J1772Status.success, (n : ℚ)) :=
    fun _ => getDutyCycleFromAmps_upper above below low high
  have most : (n : ℚ) ≤ 96 := by
    have whole : n ≤ 96 := by omega
    exact_mod_cast whole
  rcases Nat.lt_or_ge n 85 with edge | upper
  · -- The duties of 51 and 52 amperes end up in the lower range.
    obtain rfl : n = 84 := by omega
    push_cast at below encodes
    refine ⟨84, 84 * (3 / 5), ⟨encodes,
      fun _ => getAmpsFromDutyCycle_lower (n := 84) le_rfl (by norm_num) (by norm_num)
        (by norm_num),
      by norm_num, by norm_num, by norm_num, by linarith, by linarith⟩, ?_⟩
    rw [if_pos (by linarith)]
    norm_num
  · -- Every other duty is told by the upper range that it was computed for.
    obtain ⟨k, rfl⟩ : ∃ k, n = k + 64 := ⟨n - 64, by omega⟩
    have upper : (85 : ℚ) ≤ k + 64 := by exact_mod_cast upper
    push_cast at above below most encodes
    refine ⟨k + 64, k * (5 / 2), ⟨encodes,
      fun _ => getAmpsFromDutyCycle_upper (by omega) (by omega),
      by linarith, most, by linarith, by linarith, by linarith⟩, ?_⟩
    rw [if_neg (by linarith), floor_eq_natCast (n := k) (by linarith) (by linarith)]
    norm_num

/-- Every current that a duty can tell is encoded by a duty that is decoded to little less. -/
theorem codes_limit (low : 6 ≤ limit) (high : limit ≤ 81) :
    ∃ duty told, Codes limit duty told := by
  rcases lt_or_ge limit 51 with lower | upper
  · obtain ⟨duty, told, codes, -⟩ := codes_lower low lower
    exact ⟨duty, told, codes⟩
  · obtain ⟨duty, told, codes, -⟩ := codes_upper upper high
    exact ⟨duty, told, codes⟩

/-- A larger current is encoded by a duty that is no smaller, also from one range to the other. -/
theorem encoded_mono {amps larger : ℚ} (before : ℚ) (low : 6 ≤ amps) (le : amps ≤ larger)
    (high : larger ≤ 81) :
    (getDutyCycleFromAmps amps before).2 ≤ (getDutyCycleFromAmps larger before).2 := by
  rcases lt_or_ge larger 51 with lower | upper
  · -- Both lose their fractions, which keeps their order.
    obtain ⟨n, above, below, -, -⟩ :=
      whole_part amps 0 51 (by push_cast; linarith) (by push_cast; linarith)
    obtain ⟨m, above', below', -, -⟩ :=
      whole_part larger 0 51 (by push_cast; linarith) (by push_cast; linarith)
    rw [getDutyCycleFromAmps_lower above below low (by linarith),
      getDutyCycleFromAmps_lower above' below' (by linarith) lower]
    have order : (n : ℚ) < m + 1 := by linarith
    have order : (n : ℚ) ≤ m := by exact_mod_cast Nat.lt_succ_iff.mp (by exact_mod_cast order)
    exact mul_le_mul_of_nonneg_right order (by norm_num)
  · -- From 51 amperes on, the larger duty is one of the upper range.
    obtain ⟨m, above', below', eightyFour, -⟩ :=
      whole_part (larger / (5 / 2) + 64) 84 97 (by push_cast; linarith) (by push_cast; linarith)
    rw [getDutyCycleFromAmps_upper above' below' upper high]
    rcases lt_or_ge amps 51 with lower | upper
    · -- The largest duty of the lower range is less than the smallest of the upper one.
      obtain ⟨n, above, below, -, fifty⟩ :=
        whole_part amps 0 51 (by push_cast; linarith) (by exact_mod_cast lower)
      rw [getDutyCycleFromAmps_lower above below low lower]
      have fifty : (n : ℚ) ≤ 50 := by exact_mod_cast Nat.lt_succ_iff.mp fifty
      have eightyFour : (84 : ℚ) ≤ m := by exact_mod_cast eightyFour
      change (n : ℚ) * (5 / 3) ≤ m
      linarith
    · -- Within the upper range, the duties lose their fractions in the same order.
      obtain ⟨n, above, below, -, -⟩ :=
        whole_part (amps / (5 / 2) + 64) 84 97 (by push_cast; linarith) (by push_cast; linarith)
      rw [getDutyCycleFromAmps_upper above below upper (by linarith)]
      have order : (n : ℚ) < m + 1 := by linarith
      have order : (n : ℚ) ≤ m := by exact_mod_cast Nat.lt_succ_iff.mp (by exact_mod_cast order)
      exact order

/-- Currents that no duty can tell are refused. -/
theorem refused {amps : ℚ} (before : ℚ) (outside : amps < 6 ∨ 81 < amps) :
    (getDutyCycleFromAmps amps before).1 = .error := by
  unfold getDutyCycleFromAmps
  rcases outside with low | high
  · rw [if_pos low]
  · rw [if_neg (by linarith), if_neg (fun range => by linarith [range.2]),
      if_neg (fun range => by linarith [range.2])]

/--
Encoding and decoding agree for every current that a duty can tell, and never tell more.

The encoding is monotone from one range into the other, and refuses all other currents.
-/
theorem duty_cycle_round_trip (before before' : ℚ) :
    (∀ amps, 6 ≤ amps → amps ≤ 81 → ∃ duty told,
      getDutyCycleFromAmps amps before = (.success, duty) ∧ 10 ≤ duty ∧ duty ≤ 96 ∧
      getAmpsFromDutyCycle duty before' = (.success, told) ∧ 6 ≤ told ∧ told ≤ amps ∧
      amps - told < 5 / 2) ∧
    (∀ amps larger, 6 ≤ amps → amps ≤ larger → larger ≤ 81 →
      (getDutyCycleFromAmps amps before).2 ≤ (getDutyCycleFromAmps larger before).2) ∧
    ∀ amps, amps < 6 ∨ 81 < amps → (getDutyCycleFromAmps amps before).1 = .error := by
  refine ⟨fun amps low high => ?_, fun _ _ low le high => encoded_mono before low le high,
    fun _ outside => refused before outside⟩
  obtain ⟨duty, told, codes⟩ := codes_limit low high
  exact ⟨duty, told, codes.encodes before, codes.duty_ge, codes.duty_le, codes.decodes before',
    codes.told_ge, codes.told_le, codes.near⟩

/-- A current of 52 amperes is encoded by the upper range and decoded by the lower one. -/
example : getDutyCycleFromAmps 52 0 = (.success, 84) ∧
    getAmpsFromDutyCycle 84 0 = (.success, 252 / 5) := by decide +kernel

end Limits

end EasyEvse.J1772
