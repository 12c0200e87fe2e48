import CWriter.Number.Double
import Mathlib

/-!
# Rounding to the nearest number

A quotient is scaled until it has as many bits as a significand, and rounded there. No other number
is nearer to it then, and of two as near it becomes the even one. For decimal numbers the cuts at
large and small exponents change nothing. Integers that fit a significand are read as they are.
-/
namespace CWriter.Double

/-- A power in two parts, one of which is one. -/
theorem zpow_mul_toNat {b : ℚ} (hb : b ≠ 0) (e : Int) : b ^ e * b ^ (-e).toNat = b ^ e.toNat := by
  rw [← zpow_natCast, ← zpow_natCast, ← zpow_add₀ hb]
  congr 1
  omega

/-- A quotient divided by a power of two is the quotient of what it is scaled to. -/
theorem scaled_div (num : Nat) {den : Nat} (hden : 0 < den) (e : Int) :
    0 < (scaled num den e).2 ∧
      ((scaled num den e).1 : ℚ) / (scaled num den e).2 = (num / den : ℚ) / 2 ^ e := by
  refine ⟨Nat.mul_pos hden (Nat.pow_pos two_pos), ?_⟩
  simp only [scaled, Nat.pow_eq, Nat.cast_mul, Nat.cast_pow, Nat.cast_ofNat]
  rw [div_div, div_eq_div_iff (by positivity) (by positivity), ← zpow_mul_toNat two_ne_zero e]
  ring

/-- The rounded quotient is at most half away, and even where it is half away. -/
theorem roundedQuotient_spec (num : Nat) {den : Nat} (hden : 0 < den) :
    |(num / den : ℚ) - roundedQuotient num den| ≤ 1 / 2 ∧
      (|(num / den : ℚ) - roundedQuotient num den| = 1 / 2 → roundedQuotient num den % 2 = 0) := by
  have hr : num % den < den := Nat.mod_lt _ hden
  have hsplit : (num / den : ℚ) = (num / den : Nat) + (num % den : Nat) / den := by
    rw [div_eq_iff (by positivity), add_mul, div_mul_cancel₀ _ (by positivity)]
    exact_mod_cast (Nat.div_add_mod' num den).symm
  have hcast : (0 : ℚ) < den := by exact_mod_cast hden
  rw [roundedQuotient]
  simp only [Bool.or_eq_true, decide_eq_true_eq, Bool.and_eq_true, beq_iff_eq]
  rw [hsplit]
  generalize num / den = q at *
  generalize num % den = r at *
  split
  · next h =>
    have hhalf : (1 / 2 : ℚ) ≤ r / den := by
      rw [div_le_div_iff₀ two_pos hcast]
      have : den ≤ 2 * r := by omega
      have : (den : ℚ) ≤ 2 * r := by exact_mod_cast this
      linarith
    have hone : (r / den : ℚ) < 1 := by
      rw [div_lt_one hcast]
      exact_mod_cast hr
    push_cast
    rw [abs_of_neg (by linarith)]
    refine ⟨by linarith, fun heq => ?_⟩
    have htie : (r / den : ℚ) = 1 / 2 := by linarith
    rw [div_eq_div_iff hcast.ne' two_ne_zero] at htie
    have : r * 2 = 1 * den := by exact_mod_cast htie
    omega
  · next h =>
    have hhalf : (r / den : ℚ) ≤ 1 / 2 := by
      rw [div_le_div_iff₀ hcast two_pos]
      have : 2 * r ≤ den := by omega
      have : (2 * r : ℚ) ≤ den := by exact_mod_cast this
      linarith
    have hnonneg : (0 : ℚ) ≤ r / den := by positivity
    rw [add_sub_cancel_left, abs_of_nonneg hnonneg]
    refine ⟨hhalf, fun heq => ?_⟩
    rw [div_eq_div_iff hcast.ne' two_ne_zero] at heq
    have : r * 2 = 1 * den := by exact_mod_cast heq
    omega

/-- Unless it is cut off at the least exponent, a quotient has all bits of a significand. -/
structure Filled (x : ℚ) (e : Int) : Prop where
  least : leastExponent ≤ e
  short : x / 2 ^ e < 2 ^ precision
  full : e = leastExponent ∨ 2 ^ (precision - 1) ≤ x / 2 ^ e

theorem log2_bounds {num den : Nat} (hnum : 0 < num) (hden : 0 < den) :
    (2 : ℚ) ^ ((num.log2 : ℤ) - den.log2 - 1) < num / den ∧
      (num / den : ℚ) < 2 ^ ((num.log2 : ℤ) - den.log2 + 1) := by
  have hnlow : (2 : ℚ) ^ (num.log2 : ℤ) ≤ num := by
    rw [zpow_natCast]
    exact_mod_cast Nat.log2_self_le hnum.ne'
  have hnhigh : (num : ℚ) < 2 ^ ((num.log2 : ℤ) + 1) := by
    rw [← Nat.cast_succ, zpow_natCast]
    exact_mod_cast Nat.lt_log2_self
  have hdlow : (2 : ℚ) ^ (den.log2 : ℤ) ≤ den := by
    rw [zpow_natCast]
    exact_mod_cast Nat.log2_self_le hden.ne'
  have hdhigh : (den : ℚ) < 2 ^ ((den.log2 : ℤ) + 1) := by
    rw [← Nat.cast_succ, zpow_natCast]
    exact_mod_cast Nat.lt_log2_self
  have hcast : (0 : ℚ) < den := by exact_mod_cast hden
  rw [lt_div_iff₀ hcast, div_lt_iff₀ hcast]
  constructor
  · calc (2 : ℚ) ^ ((num.log2 : ℤ) - den.log2 - 1) * den
        < 2 ^ ((num.log2 : ℤ) - den.log2 - 1) * 2 ^ ((den.log2 : ℤ) + 1) :=
          mul_lt_mul_of_pos_left hdhigh (by positivity)
      _ = 2 ^ (num.log2 : ℤ) := by rw [← zpow_add₀ two_ne_zero]; congr 1; ring
      _ ≤ num := hnlow
  · calc (num : ℚ) < 2 ^ ((num.log2 : ℤ) + 1) := hnhigh
      _ = 2 ^ ((num.log2 : ℤ) - den.log2 + 1) * 2 ^ (den.log2 : ℤ) := by
          rw [← zpow_add₀ two_ne_zero]; congr 1; ring
      _ ≤ 2 ^ ((num.log2 : ℤ) - den.log2 + 1) * den := by gcongr

theorem div_lt_iff_scaled {num den : Nat} (hden : 0 < den) (e : Int) (bound : Nat) :
    (scaled num den e).1 / (scaled num den e).2 < bound ↔ (num / den : ℚ) / 2 ^ e < bound := by
  obtain ⟨hpos, hdiv⟩ := scaled_div num hden e
  rw [Nat.div_lt_iff_lt_mul hpos, ← hdiv, div_lt_iff₀ (by exact_mod_cast hpos)]
  exact_mod_cast Iff.rfl

/-- Without the cut, the guess or the exponent above it fills the significand. -/
theorem exists_exponentOf_eq {num den : Nat} (hnum : 0 < num) (hden : 0 < den) :
    ∃ e, exponentOf num den = max leastExponent e ∧ (num / den : ℚ) / 2 ^ e < 2 ^ precision ∧
      2 ^ (precision - 1) ≤ (num / den : ℚ) / 2 ^ e := by
  obtain ⟨hlow, hhigh⟩ := log2_bounds hnum hden
  set guess : Int := num.log2 - den.log2 - precision with hguess
  have hiff := @div_lt_iff_scaled num den hden guess (Nat.pow 2 precision)
  set x : ℚ := num / den
  have hstep : x / 2 ^ (guess + 1) = x / 2 ^ guess / 2 := by
    rw [zpow_add_one₀ two_ne_zero]
    ring
  have hless : (2 : ℚ) ^ (precision - 1) < x / 2 ^ guess := by
    have hexp : ((precision - 1 : ℕ) : ℤ) + guess = num.log2 - den.log2 - 1 := by
      rw [hguess, precision]
      omega
    rwa [lt_div_iff₀ (by positivity), ← zpow_natCast, ← zpow_add₀ two_ne_zero, hexp]
  have hmore : x / 2 ^ guess < 2 ^ (precision + 1) := by
    have hexp : ((precision + 1 : ℕ) : ℤ) + guess = num.log2 - den.log2 + 1 := by
      rw [hguess, precision]
      omega
    rwa [div_lt_iff₀ (by positivity), ← zpow_natCast, ← zpow_add₀ two_ne_zero, hexp]
  have hexponent : exponentOf num den =
      max leastExponent (if x / 2 ^ guess < 2 ^ precision then guess else guess + 1) := by
    rw [Nat.pow_eq, Nat.cast_pow, Nat.cast_ofNat] at hiff
    rw [exponentOf]
    simp only [Nat.pow_eq, ← hguess, hiff]
  rw [hexponent]
  by_cases h : x / 2 ^ guess < 2 ^ precision
  · exact ⟨guess, by rw [if_pos h], h, hless.le⟩
  · refine ⟨guess + 1, by rw [if_neg h], ?_, ?_⟩
    · rw [hstep, div_lt_iff₀ two_pos, ← pow_succ]
      exact hmore
    · rw [hstep, le_div_iff₀ two_pos, ← pow_succ]
      exact not_lt.mp h

theorem filled_exponentOf {num den : Nat} (hnum : 0 < num) (hden : 0 < den) :
    Filled (num / den) (exponentOf num den) := by
  obtain ⟨e, he, hshort, hfull⟩ := exists_exponentOf_eq hnum hden
  rw [he]
  rcases le_total leastExponent e with hle | hle
  · rw [max_eq_right hle]
    exact ⟨hle, hshort, .inr hfull⟩
  · rw [max_eq_left hle]
    refine ⟨le_rfl, lt_of_le_of_lt ?_ hshort, .inl rfl⟩
    have hpow : (2 : ℚ) ^ e ≤ 2 ^ leastExponent := zpow_le_zpow_right₀ one_le_two hle
    gcongr

/-- What a significand and an exponent stand for. -/
def value (significand : Nat) (exponent : Int) : ℚ := significand * 2 ^ exponent

/-- A significand and an exponent that finite numbers have, though not always together. -/
def Fits (significand : Nat) (exponent : Int) : Prop :=
  significand < 2 ^ precision ∧ leastExponent ≤ exponent

/-- No number is nearer, and of several as near this is the even one. -/
structure Nearest (x : ℚ) (significand : Nat) (exponent : Int) : Prop where
  closest : ∀ s e, Fits s e → |x - value significand exponent| ≤ |x - value s e|
  even : ∀ s e, Fits s e → |x - value significand exponent| = |x - value s e| →
    value s e = value significand exponent ∨ significand % 2 = 0

/-- An integer at most half away is the nearest one. -/
theorem abs_sub_le_of_half {y : ℚ} {q : Nat} (hhalf : |y - q| ≤ 1 / 2) (k : Nat) :
    |y - q| ≤ |y - k| ∧ (|y - q| = |y - k| → k = q ∨ |y - q| = 1 / 2) := by
  by_cases hk : k = q
  · rw [hk]
    exact ⟨le_rfl, fun _ => .inl rfl⟩
  · have hone : (1 : ℚ) ≤ |(q : ℚ) - k| := by
      have hint : (1 : ℤ) ≤ |(q : ℤ) - k| := Int.one_le_abs (by omega)
      exact_mod_cast hint
    have htri : |(q : ℚ) - k| ≤ |y - k| + |y - q| := by
      rw [abs_sub_comm y (q : ℚ)]
      have := abs_add_le ((q : ℚ) - y) (y - k)
      rw [sub_add_sub_cancel] at this
      linarith
    exact ⟨by linarith, fun heq => .inr (by linarith)⟩

/-- In units of the last bit, any number is an integer or lies below all full significands. -/
theorem Filled.closest {x : ℚ} {e : Int} (h : Filled x e) {q : Nat}
    (hhalf : |x / 2 ^ e - q| ≤ 1 / 2) (heven : |x / 2 ^ e - q| = 1 / 2 → q % 2 = 0)
    {s : Nat} {e' : Int} (hs : Fits s e') :
    |x / 2 ^ e - q| ≤ |x / 2 ^ e - s * 2 ^ (e' - e)| ∧
      (|x / 2 ^ e - q| = |x / 2 ^ e - s * 2 ^ (e' - e)| →
        (s * 2 ^ (e' - e) : ℚ) = q ∨ q % 2 = 0) := by
  rcases le_or_gt e e' with hle | hlt
  · have hint : (s * 2 ^ (e' - e) : ℚ) = (s * 2 ^ (e' - e).toNat : Nat) := by
      rw [Nat.cast_mul, Nat.cast_pow, ← zpow_natCast, Int.toNat_of_nonneg (by omega)]
      rfl
    obtain ⟨hclose, htie⟩ := abs_sub_le_of_half hhalf (s * 2 ^ (e' - e).toNat)
    rw [hint]
    exact ⟨hclose, fun heq => (htie heq).imp (congrArg _) heven⟩
  · have hfull : (2 : ℚ) ^ (precision - 1) ≤ x / 2 ^ e :=
      h.full.resolve_left fun heq => absurd hs.2 (by omega)
    have hbelow : (s * 2 ^ (e' - e) : ℚ) < 2 ^ (precision - 1) := by
      have hpow : (2 : ℚ) ^ (e' - e) ≤ 2 ^ (-1 : ℤ) :=
        zpow_le_zpow_right₀ one_le_two (by omega)
      have hshort : (s : ℚ) < 2 ^ precision := by exact_mod_cast hs.1
      calc (s * 2 ^ (e' - e) : ℚ) ≤ s * 2 ^ (-1 : ℤ) := by gcongr
        _ < 2 ^ precision * 2 ^ (-1 : ℤ) := mul_lt_mul_of_pos_right hshort (by positivity)
        _ = 2 ^ (precision - 1) := by norm_num [precision]
    have hclose := (abs_sub_le_of_half hhalf (2 ^ (precision - 1))).1
    rw [Nat.cast_pow, Nat.cast_ofNat, abs_of_nonneg (sub_nonneg.mpr hfull)] at hclose
    have hfar : |x / 2 ^ e - s * 2 ^ (e' - e)| = x / 2 ^ e - s * 2 ^ (e' - e) :=
      abs_of_pos (by linarith)
    rw [hfar]
    exact ⟨by linarith, fun heq => absurd heq (by linarith)⟩

theorem nearest_of_filled {x : ℚ} {e : Int} (h : Filled x e) {q : Nat}
    (hhalf : |x / 2 ^ e - q| ≤ 1 / 2) (heven : |x / 2 ^ e - q| = 1 / 2 → q % 2 = 0) :
    Nearest x q e := by
  have hunit : (0 : ℚ) < 2 ^ e := by positivity
  have hscale (w : ℚ) : |x - w * 2 ^ e| = |x / 2 ^ e - w| * 2 ^ e := by
    rw [← abs_of_pos hunit, ← abs_mul, abs_of_pos hunit, sub_mul, div_mul_cancel₀ _ hunit.ne']
  have hvalue (s : Nat) (e' : Int) : value s e' = s * 2 ^ (e' - e) * 2 ^ e := by
    rw [value, mul_assoc, ← zpow_add₀ two_ne_zero, sub_add_cancel]
  refine ⟨fun s e' hs => ?_, fun s e' hs heq => ?_⟩
  · rw [hvalue s e', value, hscale, hscale]
    exact mul_le_mul_of_nonneg_right (h.closest hhalf heven hs).1 hunit.le
  · rw [hvalue s e', value, hscale, hscale] at heq
    rw [hvalue s e', value]
    exact ((h.closest hhalf heven hs).2 (mul_right_cancel₀ hunit.ne' heq)).imp_left fun h => by
      rw [h]

/-- The one form of a finite number: its significand has all bits, or the exponent is the least. -/
structure Canonical (significand : Nat) (exponent : Int) : Prop where
  fits : Fits significand exponent
  greatest : exponent ≤ greatestExponent
  full : exponent = leastExponent ∨ 2 ^ (precision - 1) ≤ significand

/-- Rounded, a filled quotient keeps the bits of a significand, or carries into one more. -/
theorem Filled.rounded_bounds {x : ℚ} {e : Int} (h : Filled x e) {q : Nat}
    (hhalf : |x / 2 ^ e - q| ≤ 1 / 2) :
    q ≤ 2 ^ precision ∧ (e = leastExponent ∨ 2 ^ (precision - 1) ≤ q) := by
  obtain ⟨hbelow, habove⟩ := abs_le.mp hhalf
  constructor
  · have hlt : (q : ℚ) < (2 ^ precision + 1 : ℕ) := by
      push_cast
      linarith [h.short]
    exact Nat.lt_succ_iff.mp (by exact_mod_cast hlt)
  · refine h.full.imp_right fun hfull => ?_
    have hlt : ((2 ^ (precision - 1) : ℕ) : ℚ) < (q + 1 : ℕ) := by
      push_cast
      linarith
    exact Nat.lt_succ_iff.mp (by exact_mod_cast hlt)

/-- A carry is the least full significand of the next exponent. -/
theorem value_carry (e : Int) : value (2 ^ (precision - 1)) (e + 1) = value (2 ^ precision) e := by
  rw [value, value, zpow_add_one₀ two_ne_zero, precision]
  push_cast
  ring

/-- With an exponent above the greatest, a full quotient is beyond all numbers. -/
theorem Filled.beyond {x : ℚ} {e : Int} (h : Filled x e) (hgreat : greatestExponent < e) :
    (2 ^ precision - 1 / 2) * 2 ^ greatestExponent ≤ x := by
  have hfull : (2 : ℚ) ^ (precision - 1) ≤ x / 2 ^ e := h.full.resolve_left fun heq => by
    rw [heq] at hgreat
    exact absurd hgreat (by decide)
  have hpow : (2 : ℚ) ^ (greatestExponent + 1) ≤ 2 ^ e :=
    zpow_le_zpow_right₀ one_le_two (by omega)
  rw [le_div_iff₀ (by positivity)] at hfull
  refine le_trans ?_ ((mul_le_mul_of_nonneg_left hpow (by positivity)).trans hfull)
  rw [zpow_add_one₀ two_ne_zero, precision]
  have hunit : (0 : ℚ) < 2 ^ greatestExponent := by positivity
  nlinarith

/-- A quotient becomes the nearest number, unless it is beyond all of them by half a unit. -/
theorem ofQuotient_spec (negative : Bool) {num den : Nat} (hnum : 0 < num) (hden : 0 < den) :
    (∃ s e, ofQuotient negative num den = finite negative s e ∧ Canonical s e ∧
      Nearest (num / den) s e) ∨
    ofQuotient negative num den = infinite negative ∧
      (2 ^ precision - 1 / 2) * 2 ^ greatestExponent ≤ (num / den : ℚ) := by
  have hfilled := filled_exponentOf hnum hden
  obtain ⟨hpos, hdiv⟩ := scaled_div num hden (exponentOf num den)
  obtain ⟨hhalf, heven⟩ := roundedQuotient_spec (scaled num den (exponentOf num den)).1 hpos
  rw [ofQuotient, if_neg hnum.ne']
  simp only [Nat.pow_eq]
  rw [hdiv] at hhalf heven
  have hnearest := nearest_of_filled hfilled hhalf heven
  obtain ⟨hmost, hleast⟩ := hfilled.rounded_bounds hhalf
  generalize roundedQuotient _ _ = q at *
  generalize exponentOf num den = e at *
  by_cases hcarry : q = 2 ^ precision
  · rw [if_pos hcarry]
    subst hcarry
    by_cases hgreat : greatestExponent < e + 1
    · refine .inr ⟨if_pos hgreat, ?_⟩
      have hhigh : (2 ^ precision - 1 / 2 : ℚ) ≤ num / den / 2 ^ e := by
        have hbelow := (abs_le.mp hhalf).1
        push_cast at hbelow
        linarith
      have hpow : (2 : ℚ) ^ greatestExponent ≤ 2 ^ e :=
        zpow_le_zpow_right₀ one_le_two (by omega)
      rw [le_div_iff₀ (by positivity)] at hhigh
      refine le_trans (mul_le_mul_of_nonneg_left hpow ?_) hhigh
      norm_num [precision]
    · have hfits : Fits (2 ^ (precision - 1)) (e + 1) :=
        ⟨by norm_num [precision], hfilled.least.trans (by omega)⟩
      have heven : 2 ^ (precision - 1) % 2 = 0 := by norm_num [precision]
      exact .inl ⟨_, _, if_neg hgreat, ⟨hfits, not_lt.mp hgreat, .inr le_rfl⟩,
        fun s e' hs => value_carry e ▸ hnearest.closest s e' hs, fun _ _ _ _ => .inr heven⟩
  · rw [if_neg hcarry]
    by_cases hgreat : greatestExponent < e
    · exact .inr ⟨if_pos hgreat, hfilled.beyond hgreat⟩
    · exact .inl ⟨q, e, if_neg hgreat, ⟨⟨lt_of_le_of_ne hmost hcarry, hfilled.least⟩,
        not_lt.mp hgreat, hleast⟩, hnearest⟩

theorem quotient_eq (digits : Nat) (exponent : Int) :
    ((digits * Nat.pow 10 exponent.toNat : Nat) : ℚ) / (Nat.pow 10 (-exponent).toNat : Nat) =
      digits * 10 ^ exponent := by
  simp only [Nat.pow_eq, Nat.cast_mul, Nat.cast_pow, Nat.cast_ofNat]
  rw [div_eq_iff (by positivity), mul_assoc, zpow_mul_toNat (by norm_num)]

/-- The reach of decimal exponents goes beyond that of numbers, at both ends. -/
theorem two_pow_le_reach : (2 : ℚ) ^ (1075 : ℕ) ≤ 10 ^ decimalReach := by
  have hfifth : (2 : ℚ) ^ (215 : ℕ) ≤ 10 ^ (66 : ℕ) := by norm_num
  have hpow := pow_le_pow_left₀ (by positivity) hfifth 5
  rwa [← pow_mul, ← pow_mul] at hpow

/-- Half of the least number and all below it is nearest to zero. -/
theorem nearest_zero {x : ℚ} (hnonneg : 0 ≤ x) (htiny : x ≤ 2 ^ (leastExponent - 1)) :
    Nearest x 0 leastExponent := by
  have hhalf : x / 2 ^ leastExponent ≤ 1 / 2 := by
    rw [div_le_iff₀ (by positivity)]
    refine htiny.trans (le_of_eq ?_)
    rw [zpow_sub_one₀ two_ne_zero]
    ring
  have hfilled : Filled x leastExponent := by
    refine ⟨le_rfl, lt_of_le_of_lt hhalf ?_, .inl rfl⟩
    norm_num [precision]
  refine nearest_of_filled hfilled ?_ fun _ => rfl
  rw [Nat.cast_zero, sub_zero, abs_of_nonneg (by positivity)]
  exact hhalf

/-- What is taken for zero for its exponent is. The digits are less than a power of ten with as
many places as they have bits. -/
theorem decimal_le_of_small {digits : Nat} {exponent : Int}
    (hsmall : exponent < -(digits.log2 + 1 + decimalReach : Int)) :
    (digits * 10 ^ exponent : ℚ) ≤ 2 ^ (leastExponent - 1) := by
  have hdigit : (digits : ℚ) ≤ 10 ^ ((digits.log2 : ℤ) + 1) := by
    rw [← Nat.cast_succ, zpow_natCast]
    have hlog : digits ≤ 10 ^ (digits.log2 + 1) :=
      Nat.lt_log2_self.le.trans (Nat.pow_le_pow_left (by decide) _)
    exact_mod_cast hlog
  have hpow : (10 : ℚ) ^ exponent ≤ 10 ^ (-((digits.log2 : ℤ) + 1) - decimalReach) :=
    zpow_le_zpow_right₀ (by norm_num) (by omega)
  calc (digits * 10 ^ exponent : ℚ)
      ≤ 10 ^ ((digits.log2 : ℤ) + 1) * 10 ^ (-((digits.log2 : ℤ) + 1) - decimalReach) := by
        gcongr
    _ = (10 ^ decimalReach)⁻¹ := by
        rw [← zpow_add₀ (by norm_num), ← zpow_natCast, ← zpow_neg]
        congr 1
        ring
    _ ≤ (2 ^ (1075 : ℕ))⁻¹ := inv_anti₀ (by positivity) two_pow_le_reach
    _ = 2 ^ (leastExponent - 1) := by
        rw [← zpow_natCast, ← zpow_neg]
        rfl

/-- What is taken for infinite for its exponent is beyond all numbers. -/
theorem le_decimal_of_large {digits : Nat} (hdigits : 0 < digits) {exponent : Int}
    (hlarge : (decimalReach : Int) < exponent) :
    (2 ^ precision - 1 / 2) * 2 ^ greatestExponent ≤ (digits * 10 ^ exponent : ℚ) := by
  have hone : (1 : ℚ) ≤ digits := by exact_mod_cast hdigits
  have hpow : (10 : ℚ) ^ (decimalReach : ℤ) ≤ 10 ^ exponent :=
    zpow_le_zpow_right₀ (by norm_num) hlarge.le
  calc ((2 : ℚ) ^ precision - 1 / 2) * 2 ^ greatestExponent
      ≤ 2 ^ (precision : ℤ) * 2 ^ greatestExponent := by
        rw [zpow_natCast]
        gcongr
        linarith
    _ = 2 ^ (1024 : ℤ) := by
        rw [← zpow_add₀ two_ne_zero]
        rfl
    _ ≤ 2 ^ (1075 : ℤ) := zpow_le_zpow_right₀ one_le_two (by decide)
    _ = 2 ^ (1075 : ℕ) := zpow_natCast _ _
    _ ≤ 1 * 10 ^ (decimalReach : ℤ) := by
        rw [one_mul, zpow_natCast]
        exact two_pow_le_reach
    _ ≤ digits * 10 ^ exponent := by gcongr

/-- A decimal number becomes the nearest number, unless it is beyond all of them by half a unit.
The cuts at both ends change nothing. -/
theorem ofDecimal_spec (negative : Bool) {digits : Nat} (hdigits : 0 < digits) (exponent : Int) :
    (∃ s e, ofDecimal negative digits exponent = finite negative s e ∧ Canonical s e ∧
      Nearest (digits * 10 ^ exponent) s e) ∨
    ofDecimal negative digits exponent = infinite negative ∧
      (2 ^ precision - 1 / 2) * 2 ^ greatestExponent ≤ (digits * 10 ^ exponent : ℚ) := by
  rw [ofDecimal]
  by_cases hsmall : exponent < -(digits.log2 + 1 + decimalReach : Int)
  · have hzero : Canonical 0 leastExponent :=
      ⟨⟨by norm_num, le_rfl⟩, by decide, .inl rfl⟩
    rw [if_pos (by rw [Bool.or_eq_true]; exact .inr (decide_eq_true hsmall))]
    exact .inl ⟨0, leastExponent, rfl, hzero,
      nearest_zero (by positivity) (decimal_le_of_small hsmall)⟩
  · rw [if_neg (by simpa [hdigits.ne'] using hsmall)]
    by_cases hlarge : (decimalReach : Int) < exponent
    · rw [if_pos hlarge]
      exact .inr ⟨rfl, le_decimal_of_large hdigits hlarge⟩
    · rw [if_neg hlarge, ← quotient_eq]
      exact ofQuotient_spec negative (Nat.mul_pos hdigits (Nat.pow_pos (by decide)))
        (Nat.pow_pos (by decide))

/-- A number whose value is an integer is that integer. -/
theorem integer?_eq (negative : Bool) {s n : Nat} {e : Int} (h : value s e = n) :
    (finite negative s e).integer? = some (if negative then -(n : Int) else n) := by
  have hwhole : s * Nat.pow 2 e.toNat = n * Nat.pow 2 (-e).toNat := by
    have hcast : (s * 2 ^ e.toNat : ℚ) = n * 2 ^ (-e).toNat := by
      rw [← h, value, mul_assoc, zpow_mul_toNat two_ne_zero]
    rw [Nat.pow_eq, Nat.pow_eq]
    exact_mod_cast hcast
  have hunit : 0 < Nat.pow 2 (-e).toNat := Nat.pow_pos two_pos
  rw [integer?, hwhole, Nat.mul_mod_left, if_pos rfl, Nat.mul_div_cancel _ hunit]

/-- Integers that fit a significand are read as they are. -/
theorem integer?_ofDecimal (negative : Bool) {n : Nat} (h : n < 2 ^ precision) :
    (ofDecimal negative n 0).integer? = some (if negative then -(n : Int) else n) := by
  rcases Nat.eq_zero_or_pos n with rfl | hpos
  · exact integer?_eq negative (e := leastExponent) (by rw [value, Nat.cast_zero, zero_mul])
  have hten : (n * 10 ^ (0 : ℤ) : ℚ) = n := by rw [zpow_zero, mul_one]
  obtain ⟨s, e, heq, -, hnearest⟩ | ⟨-, hlarge⟩ := ofDecimal_spec negative hpos 0
  · have hself : value n 0 = n := by rw [value, zpow_zero, mul_one]
    have hclose := hnearest.closest n 0 ⟨h, by decide⟩
    rw [hten, hself, sub_self, abs_zero] at hclose
    have hvalue : (n : ℚ) = value s e := sub_eq_zero.mp (abs_nonpos_iff.mp hclose)
    rw [heq, integer?_eq negative hvalue.symm]
  · have hsmall : (n : ℚ) < 2 ^ precision := by exact_mod_cast h
    have hone : (1 : ℚ) ≤ 2 ^ greatestExponent := one_le_zpow₀ one_le_two (by decide)
    have hbig : (n : ℚ) ≤ 2 ^ precision - 1 := by
      have hnat : n + 1 ≤ 2 ^ precision := h
      have hcast : (n + 1 : ℚ) ≤ 2 ^ precision := by exact_mod_cast hnat
      linarith
    rw [hten] at hlarge
    exfalso
    have hpow : (2 ^ precision - 1 / 2 : ℚ) * 1 ≤ (2 ^ precision - 1 / 2) * 2 ^ greatestExponent :=
      mul_le_mul_of_nonneg_left hone (by norm_num [precision])
    linarith

/-- With a smaller exponent there are only smaller numbers, by half a unit at least. -/
theorem Canonical.value_lt {s s' : Nat} {e e' : Int} (h : Canonical s e) (h' : Fits s' e')
    (hlt : e' < e) : value s' e' + 2 ^ e / 2 ≤ value (2 ^ (precision - 1)) e ∧
      value (2 ^ (precision - 1)) e ≤ value s e := by
  have hfull : 2 ^ (precision - 1) ≤ s := h.full.resolve_left fun heq => absurd h'.2 (by omega)
  constructor
  · have hshort : (s' : ℚ) ≤ 2 ^ precision - 1 := by
      have hcast : (s' + 1 : ℚ) ≤ 2 ^ precision := by exact_mod_cast h'.1
      linarith
    have hpow : (2 : ℚ) ^ e' ≤ 2 ^ e / 2 := by
      rw [div_eq_mul_inv, ← zpow_sub_one₀ two_ne_zero]
      exact zpow_le_zpow_right₀ one_le_two (by omega)
    calc value s' e' + 2 ^ e / 2 ≤ (2 ^ precision - 1) * (2 ^ e / 2) + 2 ^ e / 2 := by
          rw [value]
          gcongr
          norm_num [precision]
      _ = value (2 ^ (precision - 1)) e := by
        rw [value, precision]
        push_cast
        ring
  · rw [value, value]
    gcongr

/-- Each number has one form. -/
theorem Canonical.unique {s s' : Nat} {e e' : Int} (h : Canonical s e) (h' : Canonical s' e')
    (heq : value s e = value s' e') : s = s' ∧ e = e' := by
  have hpos (e : Int) : (0 : ℚ) < 2 ^ e := by positivity
  obtain hlt | rfl | hlt := lt_trichotomy e e'
  · obtain ⟨hbelow, habove⟩ := h'.value_lt h.fits hlt
    linarith [hpos e']
  · rw [value, value] at heq
    exact ⟨by exact_mod_cast mul_right_cancel₀ (hpos e).ne' heq, rfl⟩
  · obtain ⟨hbelow, habove⟩ := h.value_lt h'.fits hlt
    linarith [hpos e]

end CWriter.Double
