import CWriter.Number.Shortest
import CWriter.Proofs.Number.Rounding
import CWriter.Text.Blank

/-!
# The fewest digits of a number

The search over finer and finer decimal grids stops at the first that meets the interval of a
number: if anything on a grid lies in it, one of the two neighbours of the number does. Seventeen
digits are enough, since their grid is finer than any interval is wide. What lies in the interval
is nearer to the number than to any other, or as near and the number is even, so that reading the
digits gives the number back.
-/
namespace CWriter.Double

/-- A number lies between the bounds of an interval, which is counted in quarters of the last bit of
an exponent. -/
def Interval.Spans (i : Interval) (exponent : Int) (x : ℚ) : Prop :=
  if i.closed then value i.low (exponent - 2) ≤ x ∧ x ≤ value i.high (exponent - 2)
  else value i.low (exponent - 2) < x ∧ x < value i.high (exponent - 2)

theorem gridScale_pos (exponent place : Int) :
    0 < (gridScale exponent place).1 ∧ 0 < (gridScale exponent place).2 := by
  constructor <;> exact Nat.mul_pos (Nat.pow_pos (by decide)) (Nat.pow_pos (by decide))

/-- The scale of a grid turns quarters into units of the grid. -/
theorem gridScale_div (exponent place : Int) :
    ((gridScale exponent place).1 : ℚ) / (gridScale exponent place).2 =
      2 ^ (exponent - 2) / 10 ^ place := by
  have htwo := zpow_mul_toNat two_ne_zero (exponent - 2)
  have hten := zpow_mul_toNat (b := 10) (by norm_num) place
  simp only [gridScale, Nat.pow_eq, Nat.cast_mul, Nat.cast_pow, Nat.cast_ofNat]
  rw [neg_sub] at htwo
  rw [div_eq_div_iff (by positivity) (by positivity), ← htwo, ← hten]
  ring

/-- Quarters against units of a grid. -/
theorem quarters_iff (exponent place : Int) (a n : Nat) :
    (a * (gridScale exponent place).1 ≤ n * (gridScale exponent place).2 ↔
      value a (exponent - 2) ≤ n * 10 ^ place) ∧
    (n * (gridScale exponent place).2 ≤ a * (gridScale exponent place).1 ↔
      n * 10 ^ place ≤ value a (exponent - 2)) := by
  obtain ⟨hnum, hden⟩ := gridScale_pos exponent place
  have hdiv := gridScale_div exponent place
  generalize gridScale exponent place = scale at *
  have hnum : (0 : ℚ) < scale.1 := by exact_mod_cast hnum
  have hden : (0 : ℚ) < scale.2 := by exact_mod_cast hden
  have hten : (0 : ℚ) < 10 ^ place := by positivity
  have hvalue : value a (exponent - 2) = a * scale.1 / scale.2 * 10 ^ place := by
    rw [value, mul_div_assoc, hdiv, mul_assoc, div_mul_cancel₀ _ hten.ne']
  rw [hvalue, mul_le_mul_iff_left₀ hten, mul_le_mul_iff_left₀ hten, div_le_iff₀ hden,
    le_div_iff₀ hden]
  constructor <;> exact_mod_cast Iff.rfl

theorem holds_iff (i : Interval) (exponent place : Int) (n : Nat) :
    i.holds (gridScale exponent place) n = true ↔ i.Spans exponent (n * 10 ^ place) := by
  obtain ⟨hlow, hlow'⟩ := quarters_iff exponent place i.low n
  obtain ⟨hhigh', hhigh⟩ := quarters_iff exponent place i.high n
  rw [Interval.holds, Interval.Spans]
  split
  · rw [Bool.and_eq_true, decide_eq_true_iff, decide_eq_true_iff, hlow, hhigh]
  · rw [Bool.and_eq_true, decide_eq_true_iff, decide_eq_true_iff, ← not_le, ← not_le, hlow',
      hhigh', not_le, not_le]

/-- An interval reaches from below its middle to above it. -/
structure Interval.Around (i : Interval) : Prop where
  low : i.low < i.middle
  high : i.middle < i.high

theorem around_interval {s : Nat} (hs : 0 < s) (e : Int) : (interval s e).Around := by
  constructor
  · simp only [interval]
    split <;> omega
  · simp only [interval]
    omega

theorem roundedQuotient_eq (num den : Nat) :
    roundedQuotient num den = num / den ∨ roundedQuotient num den = num / den + 1 := by
  rw [roundedQuotient]
  split
  · exact .inr rfl
  · exact .inl rfl

/-- Towards a number that lies in an interval, each bound is kept that the middle keeps. -/
theorem holds_of_between {i : Interval} {scale : Nat × Nat} {n m : Nat}
    (h : i.holds scale n = true) (hlow : i.low * scale.1 < m * scale.2 ∨ n ≤ m)
    (hhigh : m * scale.2 < i.high * scale.1 ∨ m ≤ n) : i.holds scale m = true := by
  have hup : n ≤ m → n * scale.2 ≤ m * scale.2 := Nat.mul_le_mul_right scale.2
  have hdown : m ≤ n → m * scale.2 ≤ n * scale.2 := Nat.mul_le_mul_right scale.2
  rw [Interval.holds] at h ⊢
  by_cases hclosed : i.closed = true
  · rw [if_pos hclosed, Bool.and_eq_true, decide_eq_true_iff, decide_eq_true_iff] at h ⊢
    omega
  · rw [if_neg hclosed, Bool.and_eq_true, decide_eq_true_iff, decide_eq_true_iff] at h ⊢
    omega

/-- If anything on a grid lies in an interval, one of the two neighbours of its middle does. -/
theorem holds_neighbour {i : Interval} (hi : i.Around) {scale : Nat × Nat} (hnum : 0 < scale.1)
    (hden : 0 < scale.2) {n : Nat} (h : i.holds scale n = true) :
    i.holds scale (i.middle * scale.1 / scale.2) = true ∨
      i.holds scale (i.middle * scale.1 / scale.2 + 1) = true := by
  have hlow : i.low * scale.1 < i.middle * scale.1 := Nat.mul_lt_mul_of_pos_right hi.low hnum
  have hhigh : i.middle * scale.1 < i.high * scale.1 := Nat.mul_lt_mul_of_pos_right hi.high hnum
  have hbelow : i.middle * scale.1 / scale.2 * scale.2 ≤ i.middle * scale.1 :=
    Nat.div_mul_le_self _ _
  have habove : i.middle * scale.1 < (i.middle * scale.1 / scale.2 + 1) * scale.2 := by
    rw [Nat.add_mul, Nat.one_mul]
    exact Nat.lt_div_mul_add hden
  rcases Nat.lt_or_ge (i.middle * scale.1 / scale.2) n with hless | hmore
  · exact .inr (holds_of_between h (.inl (hlow.trans habove)) (.inr hless))
  · exact .inl (holds_of_between h (.inr hmore) (.inl (hbelow.trans_lt hhigh)))

theorem nearest?_eq_none {i : Interval} (hi : i.Around) {scale : Nat × Nat} (hnum : 0 < scale.1)
    (hden : 0 < scale.2) (h : i.nearest? scale = none) (n : Nat) : i.holds scale n = false := by
  refine Bool.eq_false_iff.mpr fun hn => ?_
  have hneighbour := holds_neighbour hi hnum hden hn
  obtain hfirst | hfirst := roundedQuotient_eq (i.middle * scale.1) scale.2
  · rw [Interval.nearest?, hfirst, if_pos rfl] at h
    split_ifs at h with hbelow habove
    exact hneighbour.elim hbelow habove
  · rw [Interval.nearest?, hfirst, if_neg (Nat.succ_ne_self _)] at h
    split_ifs at h with habove hbelow
    exact hneighbour.elim hbelow habove

theorem holds_of_nearest? {i : Interval} {scale : Nat × Nat} {n : Nat}
    (h : i.nearest? scale = some n) : i.holds scale n = true := by
  simp only [Interval.nearest?] at h
  split_ifs at h with hfirst heq hsecond hsecond
  · exact Option.some.inj h ▸ hfirst
  · exact Option.some.inj h ▸ hsecond
  · exact Option.some.inj h ▸ hsecond

/-- What is found has the fewest digits: in the interval there is no number with fewer. -/
structure Found (i : Interval) (exponent magnitude : Int) (first : Nat) (n count : Nat) : Prop where
  spans : i.Spans exponent (n * 10 ^ (magnitude - count))
  fewest : ∀ fewer, first ≤ fewer → fewer < count →
    ∀ m : Nat, ¬i.Spans exponent (m * 10 ^ (magnitude - fewer))

theorem found_of_searchDigits {i : Interval} (hi : i.Around) {exponent magnitude : Int}
    {tries count n : Nat} {place : Int}
    (h : searchDigits i exponent magnitude tries count = some (n, place)) :
    ∃ found : Nat, place = magnitude - found ∧ Found i exponent magnitude count n found := by
  induction tries generalizing count with
  | zero => cases h
  | succ tries ih =>
    have hpos := gridScale_pos exponent (magnitude - count)
    rw [searchDigits] at h
    split at h
    · next m hm =>
      cases h
      exact ⟨count, rfl, (holds_iff ..).mp (holds_of_nearest? hm), fun _ _ _ => by omega⟩
    · next hm =>
      obtain ⟨found, hplace, hfound⟩ := ih h
      refine ⟨found, hplace, hfound.spans, fun fewer hfirst hless => ?_⟩
      rcases Nat.eq_or_lt_of_le hfirst with rfl | hlater
      · intro m hspans
        have hnone := nearest?_eq_none hi hpos.1 hpos.2 hm m
        rw [(holds_iff ..).mpr hspans] at hnone
        cases hnone
      · exact hfound.fewest fewer hlater hless

theorem searchDigits_ne_none {i : Interval} (hi : i.Around) {exponent magnitude : Int}
    {tries count last : Nat} (hfirst : count ≤ last) (hlast : last < count + tries) {n : Nat}
    (h : i.Spans exponent (n * 10 ^ (magnitude - last))) :
    searchDigits i exponent magnitude tries count ≠ none := by
  induction tries generalizing count with
  | zero => omega
  | succ tries ih =>
    rw [searchDigits]
    split
    · nofun
    · next hm =>
      rcases Nat.eq_or_lt_of_le hfirst with rfl | hlater
      · have hpos := gridScale_pos exponent (magnitude - count)
        have hnone := nearest?_eq_none hi hpos.1 hpos.2 hm n
        rw [(holds_iff ..).mpr h] at hnone
        cases hnone
      · exact ih hlater (by omega)

/-- How many digits a number has tells between which powers of ten it is. -/
theorem length_toDigits_spec {n : Nat} (hn : 0 < n) :
    10 ^ ((Nat.toDigits 10 n).length - 1) ≤ n ∧ n < 10 ^ (Nat.toDigits 10 n).length := by
  have hpos : 0 < (Nat.toDigits 10 n).length := List.length_pos_iff.mpr Nat.toDigits_ne_nil
  refine ⟨?_, (Nat.length_toDigits_le_iff (by decide) hpos).mp le_rfl⟩
  rcases Nat.eq_or_lt_of_le hpos with hone | hmore
  · rw [← hone]
    exact hn
  · refine not_lt.mp fun hless => ?_
    have hshort := (Nat.length_toDigits_le_iff (by decide) (by omega)).mpr hless
    omega

/-- On the finest grid a number has an integer part, which is not zero. -/
theorem wholePart_spec {s : Nat} {e : Int} (hs : 0 < s) (he : leastExponent ≤ e) {whole : Nat}
    (hwhole : whole =
      4 * s * (gridScale e (-placesReach)).1 / (gridScale e (-placesReach)).2) :
    (whole : ℚ) ≤ value s e * 10 ^ placesReach ∧ value s e * 10 ^ placesReach < whole + 1 ∧
      0 < whole := by
  obtain ⟨-, hden⟩ := gridScale_pos e (-placesReach)
  have hdiv := gridScale_div e (-placesReach)
  generalize gridScale e (-placesReach) = scale at *
  have hquot : ((4 * s * scale.1 : Nat) : ℚ) / scale.2 = value s e * 10 ^ placesReach := by
    push_cast
    rw [mul_div_assoc, hdiv, value, zpow_sub₀ two_ne_zero, zpow_neg, zpow_natCast]
    field_simp
    norm_num
  have hceil : value s e * 10 ^ placesReach < whole + 1 := by
    rw [← hquot, div_lt_iff₀ (by exact_mod_cast hden), hwhole]
    have hmul : 4 * s * scale.1 < (4 * s * scale.1 / scale.2 + 1) * scale.2 := by
      rw [Nat.add_mul, Nat.one_mul]
      exact Nat.lt_div_mul_add hden
    exact_mod_cast hmul
  refine ⟨by rw [← hquot, hwhole]; exact Nat.cast_div_le, hceil, ?_⟩
  have hsig : (1 : ℚ) ≤ s := by exact_mod_cast hs
  have hpow : (2 : ℚ) ^ (-(1075 : ℕ) : ℤ) ≤ 2 ^ e :=
    zpow_le_zpow_right₀ one_le_two (le_trans (by decide) he)
  have hreach : (10 : ℚ) ^ decimalReach ≤ 10 ^ placesReach :=
    pow_le_pow_right₀ (by norm_num) (by decide)
  have hone : (1 : ℚ) ≤ value s e * 10 ^ placesReach := by
    calc (1 : ℚ) = 1 * 2 ^ (-(1075 : ℕ) : ℤ) * 2 ^ (1075 : ℕ) := by
          rw [zpow_neg, zpow_natCast, one_mul, inv_mul_cancel₀ (by positivity)]
      _ ≤ s * 2 ^ e * 10 ^ placesReach := by
          gcongr
          exact two_pow_le_reach.trans hreach
  have hlt : (0 : ℚ) < whole := by linarith
  exact_mod_cast hlt

/-- The magnitude is the power of ten just above a number. -/
theorem magnitude_spec {s : Nat} {e : Int} (hs : 0 < s) (he : leastExponent ≤ e) :
    (10 : ℚ) ^ (magnitude s e - 1) ≤ value s e ∧ value s e < 10 ^ magnitude s e := by
  obtain ⟨hfloor, hceil, hpos⟩ := wholePart_spec hs he rfl
  obtain ⟨hlow, hhigh⟩ := length_toDigits_spec hpos
  have hcount : 0 < (Nat.toDigits 10
      (4 * s * (gridScale e (-placesReach)).1 / (gridScale e (-placesReach)).2)).length :=
    List.length_pos_iff.mpr Nat.toDigits_ne_nil
  rw [magnitude]
  dsimp only
  generalize 4 * s * (gridScale e (-placesReach)).1 / (gridScale e (-placesReach)).2 = whole at *
  generalize (Nat.toDigits 10 whole).length = count at *
  set y : ℚ := value s e * 10 ^ placesReach with hy
  have hvalue : value s e = y / 10 ^ placesReach := by
    rw [hy, mul_div_cancel_right₀ _ (by positivity)]
  have hlow : (10 : ℚ) ^ (count - 1) ≤ whole := by exact_mod_cast hlow
  have hhigh : (whole + 1 : ℚ) ≤ 10 ^ count := by exact_mod_cast hhigh
  rw [hvalue]
  constructor
  · rw [le_div_iff₀ (by positivity), ← zpow_natCast, ← zpow_add₀ (by norm_num)]
    have hexp : (count : ℤ) - placesReach - 1 + placesReach = (count - 1 : ℕ) := by omega
    rw [hexp, zpow_natCast]
    exact hlow.trans hfloor
  · rw [div_lt_iff₀ (by positivity), ← zpow_natCast, ← zpow_add₀ (by norm_num), sub_add_cancel,
      zpow_natCast]
    exact hceil.trans_le hhigh

/-- How far the next smaller number is away. -/
def gap (significand : Nat) (exponent : Int) : ℚ :=
  if significand = 2 ^ (precision - 1) ∧ leastExponent < exponent then 2 ^ exponent / 2
  else 2 ^ exponent

theorem gap_bounds (s : Nat) (e : Int) : 0 < gap s e ∧ gap s e ≤ 2 ^ e := by
  have hunit : (0 : ℚ) < 2 ^ e := by positivity
  rw [gap]
  split
  · exact ⟨by positivity, by linarith⟩
  · exact ⟨hunit, le_rfl⟩

/-- An interval reaches half the way to the next numbers. -/
theorem value_bounds {s : Nat} (hs : 0 < s) (e : Int) :
    value (interval s e).low (e - 2) = value s e - gap s e / 2 ∧
      value (interval s e).high (e - 2) = value s e + 2 ^ e / 2 := by
  have hquarter : (2 : ℚ) ^ e = 4 * 2 ^ (e - 2) := by
    rw [zpow_sub₀ two_ne_zero]
    ring
  constructor
  · simp only [interval, gap, value, Nat.pow_eq, Bool.and_eq_true, decide_eq_true_eq]
    split
    · rw [Nat.cast_sub (by omega), hquarter]
      push_cast
      ring
    · rw [Nat.cast_sub (by omega), hquarter]
      push_cast
      ring
  · simp only [interval, value]
    rw [hquarter]
    push_cast
    ring

/-- The bounds belong to the interval if the significand is even. -/
theorem spans_interval {s : Nat} (hs : 0 < s) (e : Int) {x : ℚ} (h : (interval s e).Spans e x) :
    (value s e - gap s e / 2 ≤ x ∧ x ≤ value s e + 2 ^ e / 2) ∧
      (x = value s e - gap s e / 2 ∨ x = value s e + 2 ^ e / 2 → s % 2 = 0) := by
  obtain ⟨hlow, hhigh⟩ := value_bounds hs e
  rw [Interval.Spans, hlow, hhigh] at h
  split at h
  · next hclosed => exact ⟨h, fun _ => beq_iff_eq.mp hclosed⟩
  · refine ⟨⟨h.1.le, h.2.le⟩, fun htie => ?_⟩
    exact absurd htie (not_or.mpr ⟨h.1.ne', h.2.ne⟩)

/-- An interval is wider than a unit of the grid of seventeen digits. -/
theorem unit_lt_width {s : Nat} {e : Int} (hs : 0 < s) (h : Fits s e) :
    (10 : ℚ) ^ (magnitude s e - mostDigits) < gap s e / 2 + 2 ^ e / 2 := by
  have hunit : (0 : ℚ) < 2 ^ e := by positivity
  have hsmall : (10 : ℚ) ^ (magnitude s e - mostDigits) * 10 ^ 16 ≤ s * 2 ^ e := by
    refine le_trans (le_of_eq ?_) (magnitude_spec hs h.2).1
    rw [← zpow_natCast, ← zpow_add₀ (by norm_num)]
    congr 1
    rw [mostDigits]
    ring
  have hshort : (s : ℚ) < 2 ^ precision := by exact_mod_cast h.1
  rw [precision] at hshort
  rw [gap]
  split
  · next hpower =>
    have hcast : (s : ℚ) = 2 ^ 52 := by rw [hpower.1, precision]; norm_num
    rw [hcast] at hsmall
    linarith
  · nlinarith

/-- A multiple of a unit lies strictly between bounds that are more than a unit apart. -/
theorem exists_multiple {unit low high : ℚ} (hunit : 0 < unit) (hlow : 0 ≤ low)
    (hwidth : low + unit < high) : ∃ n : Nat, low < n * unit ∧ n * unit < high := by
  refine ⟨⌊low / unit⌋₊ + 1, ?_, ?_⟩
  · rw [← div_lt_iff₀ hunit]
    exact_mod_cast Nat.lt_floor_add_one (low / unit)
  · have hbelow : (⌊low / unit⌋₊ : ℚ) * unit ≤ low :=
      (le_div_iff₀ hunit).mp (Nat.floor_le (by positivity))
    push_cast
    linarith

theorem exists_spans {s : Nat} {e : Int} (hs : 0 < s) (h : Fits s e) :
    ∃ n : Nat, (interval s e).Spans e (n * 10 ^ (magnitude s e - mostDigits)) := by
  obtain ⟨hlow, hhigh⟩ := value_bounds hs e
  have hnonneg : 0 ≤ value (interval s e).low (e - 2) := by
    rw [value]
    positivity
  have hwidth : value (interval s e).low (e - 2) + 10 ^ (magnitude s e - mostDigits) <
      value (interval s e).high (e - 2) := by
    linarith [unit_lt_width hs h]
  obtain ⟨n, hbelow, habove⟩ := exists_multiple (by positivity) hnonneg hwidth
  refine ⟨n, ?_⟩
  rw [Interval.Spans]
  split
  · exact ⟨hbelow.le, habove.le⟩
  · exact ⟨hbelow, habove⟩

theorem value_of_le (s : Nat) {e e' : Int} (h : e ≤ e') :
    value s e' = value (s * 2 ^ (e' - e).toNat) e := by
  rw [value, value, Nat.cast_mul, Nat.cast_pow, Nat.cast_ofNat, ← zpow_natCast,
    Int.toNat_of_nonneg (by omega), mul_assoc, ← zpow_add₀ two_ne_zero, sub_add_cancel]

theorem value_add_le_of_lt {a b : Nat} {e : Int} (h : value a e < value b e) :
    value a e + 2 ^ e ≤ value b e := by
  have hunit : (0 : ℚ) < 2 ^ e := by positivity
  have hnat : a + 1 ≤ b := by exact_mod_cast lt_of_mul_lt_mul_right h hunit.le
  have hcast : (a + 1 : ℚ) ≤ b := by exact_mod_cast hnat
  calc value a e + 2 ^ e = (a + 1) * 2 ^ e := by rw [value]; ring
    _ ≤ value b e := mul_le_mul_of_nonneg_right hcast hunit.le

theorem Canonical.add_le_of_lt {s s' : Nat} {e e' : Int} (h : Canonical s e)
    (h' : Canonical s' e') (hlt : value s e < value s' e') :
    value s e + 2 ^ e ≤ value s' e' := by
  rcases le_or_gt e e' with hle | hless
  · rw [value_of_le s' hle] at hlt ⊢
    exact value_add_le_of_lt hlt
  · obtain ⟨hbelow, habove⟩ := h.value_lt h'.fits hless
    have hunit : (0 : ℚ) < 2 ^ e := by positivity
    linarith

theorem Canonical.add_gap_le_of_lt {s s' : Nat} {e e' : Int} (h : Canonical s e)
    (h' : Canonical s' e') (hlt : value s' e' < value s e) :
    value s' e' + gap s e ≤ value s e := by
  have hgap := (gap_bounds s e).2
  rcases le_or_gt e e' with hle | hless
  · rw [value_of_le s' hle] at hlt ⊢
    linarith [value_add_le_of_lt hlt]
  · obtain ⟨hbelow, habove⟩ := h.value_lt h'.fits hless
    have hleast : leastExponent < e := lt_of_le_of_lt h'.fits.2 hless
    rw [gap]
    split_ifs with hpower
    · linarith
    · have hne : value (2 ^ (precision - 1)) e ≠ value s e := fun heq => by
        have hunit : (2 : ℚ) ^ e ≠ 0 := by positivity
        exact hpower ⟨by exact_mod_cast (mul_right_cancel₀ hunit heq).symm, hleast⟩
      have hunit : (0 : ℚ) < 2 ^ e := by positivity
      linarith [value_add_le_of_lt (lt_of_le_of_ne habove hne)]

theorem Canonical.odd_above {s s' : Nat} {e e' : Int} (h : Canonical s e) (h' : Canonical s' e')
    (heven : s % 2 = 0) (heq : value s' e' = value s e + 2 ^ e) : s' % 2 = 1 := by
  have hshort := h.fits.1
  rw [precision] at hshort
  have hnext : Canonical (s + 1) e := by
    refine ⟨⟨?_, h.fits.2⟩, h.greatest, h.full.imp_right fun hfull => by omega⟩
    rw [precision]
    omega
  have hvalue : value (s + 1) e = value s e + 2 ^ e := by
    rw [value, value, Nat.cast_succ]
    ring
  have := (h'.unique hnext (heq.trans hvalue.symm)).1
  omega

theorem Canonical.odd_below {s s' : Nat} {e e' : Int} (h : Canonical s e) (h' : Canonical s' e')
    (hs : 0 < s) (heven : s % 2 = 0) (heq : value s' e' = value s e - gap s e) : s' % 2 = 1 := by
  rw [gap] at heq
  split_ifs at heq with hpower
  · obtain ⟨hfull, hleast⟩ := hpower
    have hnext : Canonical (2 ^ precision - 1) (e - 1) :=
      ⟨⟨by decide, by omega⟩, (Int.sub_le_self _ (by decide)).trans h.greatest, .inr (by decide)⟩
    have hvalue : value (2 ^ precision - 1) (e - 1) = value s e - 2 ^ e / 2 := by
      rw [value, value, hfull, zpow_sub_one₀ two_ne_zero]
      norm_num [precision]
      ring
    have := (h'.unique hnext (heq.trans hvalue.symm)).1
    rw [this]
    decide
  · have hnext : Canonical (s - 1) e := by
      refine ⟨⟨(Nat.sub_le _ _).trans_lt h.fits.1, h.fits.2⟩, h.greatest, ?_⟩
      rcases lt_or_ge leastExponent e with hless | hle
      · have hfull := h.full.resolve_left (by omega)
        have hne : s ≠ 2 ^ (precision - 1) := fun hs' => hpower ⟨hs', hless⟩
        exact .inr (by omega)
      · exact .inl (Int.le_antisymm hle h.fits.2)
    have hvalue : value (s - 1) e = value s e - 2 ^ e := by
      rw [value, value, Nat.cast_pred hs]
      ring
    have := (h'.unique hnext (heq.trans hvalue.symm)).1
    omega

/-- No other number is nearest to what lies in the interval of a number. -/
theorem Canonical.eq_of_spans {s s' : Nat} {e e' : Int} (h : Canonical s e) (hs : 0 < s) {x : ℚ}
    (hx : (interval s e).Spans e x) (h' : Canonical s' e') (hnear : Nearest x s' e') :
    s' = s ∧ e' = e := by
  obtain ⟨⟨hlow, hhigh⟩, htie⟩ := spans_interval hs e hx
  have hclose := hnear.closest s e h.fits
  have heven := hnear.even s e h.fits
  have hunit : (0 : ℚ) < 2 ^ e := by positivity
  have hgap := (gap_bounds s e).1
  obtain hless | heq | hmore := lt_trichotomy (value s' e') (value s e)
  · -- As near as the number itself is only the next smaller one, and that is odd.
    have hfar := h.add_gap_le_of_lt h' hless
    rw [abs_of_pos (show 0 < x - value s' e' by linarith)] at hclose heven
    have hside : x - value s e < 0 := by
      refine not_le.mp fun hside => ?_
      rw [abs_of_nonneg hside] at hclose
      linarith
    rw [abs_of_neg hside] at hclose heven
    have hodd := h.odd_below h' hs (htie (.inl (by linarith))) (by linarith)
    rcases heven (by linarith) with heq | heven
    · exact absurd heq hless.ne'
    · omega
  · exact h'.unique h heq
  · have hfar := h.add_le_of_lt h' hmore
    rw [abs_of_neg (show x - value s' e' < 0 by linarith)] at hclose heven
    have hside : 0 < x - value s e := by
      refine not_le.mp fun hside => ?_
      rw [abs_of_nonpos hside] at hclose
      linarith
    rw [abs_of_pos hside] at hclose heven
    have hodd := h.odd_above h' (htie (.inr (by linarith))) (by linarith)
    rcases heven (by linarith) with heq | heven
    · exact absurd heq hmore.ne
    · omega

/-- A decimal number in the interval of a number is read as that number. -/
theorem ofDecimal_of_spans (negative : Bool) {s : Nat} {e : Int} (h : Canonical s e) (hs : 0 < s)
    {n : Nat} {place : Int} (hx : (interval s e).Spans e (n * 10 ^ place)) :
    ofDecimal negative n place = finite negative s e := by
  obtain ⟨⟨hlow, hhigh⟩, htie⟩ := spans_interval hs e hx
  have hunit : (0 : ℚ) < 2 ^ e := by positivity
  have hsig : (1 : ℚ) ≤ s := by exact_mod_cast hs
  have hn : 0 < n := by
    refine Nat.pos_of_ne_zero fun hzero => ?_
    rw [hzero, Nat.cast_zero, zero_mul, value] at hlow
    nlinarith [(gap_bounds s e).2]
  obtain ⟨s', e', heq, h', hnear⟩ | ⟨-, hlarge⟩ := ofDecimal_spec negative hn place
  · obtain ⟨rfl, rfl⟩ := h.eq_of_spans hs hx h' hnear
    exact heq
  · -- The last of all intervals ends where infinity begins, and does not hold its end.
    exfalso
    have hshort : (s + 1 : ℚ) ≤ 2 ^ precision := by exact_mod_cast h.fits.1
    have hpow : (2 : ℚ) ^ e ≤ 2 ^ greatestExponent := zpow_le_zpow_right₀ one_le_two h.greatest
    generalize (2 : ℚ) ^ greatestExponent = unit at hpow hlarge
    have hhalf : value s e + 2 ^ e / 2 = (s + 1 / 2) * 2 ^ e := by rw [value]; ring
    have hend : (s + 1 / 2 : ℚ) * 2 ^ e ≤ (2 ^ precision - 1 / 2) * unit :=
      mul_le_mul (by linarith) hpow hunit.le (by linarith)
    have hx := le_antisymm hhigh (hhalf ▸ hend.trans hlarge)
    have heven := htie (.inr hx)
    have htwo : s + 2 ≤ 2 ^ precision := by
      have hlt := h.fits.1
      rw [precision] at hlt ⊢
      omega
    have htwo : (s + 2 : ℚ) ≤ 2 ^ precision := by exact_mod_cast htwo
    rw [hx, hhalf] at hlarge
    nlinarith

/-- What digits stand for, the first of them behind the point. -/
def Digits.value (d : Digits) : ℚ :=
  Nat.ofDigitChars 10 d.digits 0 * 10 ^ (d.point - d.digits.length)

/-- The zeros that are left out at the end are made up for by the point. -/
theorem value_dropTrailingZeros (n : Nat) (place : Int) :
    Digits.value ⟨dropTrailingZeros (Nat.toDigits 10 n), (Nat.toDigits 10 n).length + place⟩ =
      n * 10 ^ place := by
  obtain ⟨k, hk⟩ := Text.exists_append_replicate '0' (Nat.toDigits 10 n)
  rw [← dropTrailingZeros] at hk
  have hn : n = 10 ^ k * Nat.ofDigitChars 10 (dropTrailingZeros (Nat.toDigits 10 n)) 0 := by
    have hread := congrArg (Nat.ofDigitChars 10 · 0) hk
    rwa [Nat.ofDigitChars_ten_toDigits, Nat.ofDigitChars_append, Nat.ofDigitChars_replicate_zero]
      at hread
  have hlength := congrArg List.length hk
  rw [List.length_append, List.length_replicate] at hlength
  have hplace : ((Nat.toDigits 10 n).length + place : ℤ) -
      (dropTrailingZeros (Nat.toDigits 10 n)).length = k + place := by
    omega
  have hcast : (n : ℚ) =
      10 ^ k * (Nat.ofDigitChars 10 (dropTrailingZeros (Nat.toDigits 10 n)) 0 : Nat) := by
    exact_mod_cast hn
  rw [Digits.value]
  dsimp only
  rw [hplace, zpow_add₀ (by norm_num), zpow_natCast, hcast]
  ring

/-- The digits written for a number are the fewest that lie in its interval, and are read as the
number. -/
theorem shortest_spec (negative : Bool) {s : Nat} {e : Int} (h : Canonical s e) (hs : 0 < s) :
    (∃ n count : Nat, count ≤ mostDigits ∧ Found (interval s e) e (magnitude s e) 1 n count ∧
      (shortest s e).value = n * 10 ^ (magnitude s e - count)) ∧
    ofDecimal negative (Nat.ofDigitChars 10 (shortest s e).digits 0)
      ((shortest s e).point - (shortest s e).digits.length) = finite negative s e := by
  have hi := around_interval hs e
  obtain ⟨m, hm⟩ := exists_spans hs h.fits
  have hsome : searchDigits (interval s e) e (magnitude s e) mostDigits 1 ≠ none :=
    searchDigits_ne_none hi (by decide) (by decide) hm
  obtain ⟨⟨n, place⟩, hfound⟩ := Option.ne_none_iff_exists'.mp hsome
  obtain ⟨count, rfl, hspec⟩ := found_of_searchDigits hi hfound
  have hvalue : (shortest s e).value = n * 10 ^ (magnitude s e - count) := by
    rw [shortest, hfound]
    exact value_dropTrailingZeros n _
  refine ⟨⟨n, count, not_lt.mp fun hless => ?_, hspec, hvalue⟩, ?_⟩
  · exact hspec.fewest mostDigits (by decide) hless m hm
  · have hspans := hspec.spans
    rw [← hvalue] at hspans
    exact ofDecimal_of_spans negative h hs hspans

/-- The number nearest to a tenth has one digit. -/
example : (shortest 7205759403792794 (-56)).digits = ['1'] ∧
    (shortest 7205759403792794 (-56)).point = 0 := by
  decide +kernel

end CWriter.Double
