import Mathlib.Algebra.Order.Ring.Nat
import Mathlib.Data.Nat.Log
import Mathlib.Tactic.Positivity

/-!
# Doubles that stay finite

How large a sum of rounding steps can make a double, read off core's model of doubles. Rounding at
most doubles a magnitude, dividing by two or more takes that back, and a magnitude that is far from
the largest double is not packed as infinity. Products may overflow to infinity, but never give what
is no number.
-/

namespace NewsSearch.Decimal

open Float.Model Float.Model.UnpackedFloat

/-! ## Magnitudes -/

/-- The magnitude `m · 2 ^ e` is below `2 ^ t`. So is the unit `2 ^ e`, also where `m` is zero. -/
def Fits (t : Int) (m : Nat) (e : Int) : Prop := m.log2 + e < t

/-- Zero, or a finite double below `2 ^ t`. -/
inductive Bounded (t : Int) : UnpackedFloat → Prop
  | zero (s : Sign) : Bounded t (.zero s)
  | finite (s : Sign) {m : Nat} {e : Int} (hm : 0 < m) (h : Fits t m e) :
    Bounded t (.finite s m e hm)

/-- Infinity, or a finite double that is `2 ^ l` or more. -/
inductive AtLeast (l : Int) : UnpackedFloat → Prop
  | infinity (s : Sign) : AtLeast l (.infinity s)
  | finite (s : Sign) {m : Nat} {e : Int} (hm : 0 < m) (h : l ≤ m.log2 + e) :
    AtLeast l (.finite s m e hm)

variable {t t' l r : Int} {u v : UnpackedFloat}

theorem Bounded.isFinite (h : Bounded t u) :
    u.isFinite = true := by
  cases h <;> rfl

theorem Bounded.mono (h : Bounded t u) (ht : t ≤ t') :
    Bounded t' u := by
  cases h with
  | zero s => exact .zero s
  | finite s hm h => exact .finite s hm (Int.lt_of_lt_of_le h ht)

theorem exists_bounded (h : u.isFinite = true) :
    ∃ t : Int, -1000 < t ∧ Bounded t u := by
  cases u with
  | infinity _ | notANumber => cases h
  | zero s => exact ⟨0, by decide, .zero s⟩
  | finite s m e hm =>
    exact ⟨max 0 (m.log2 + e + 1), by omega, .finite s hm (by unfold Fits; omega)⟩

/-! ## Logarithms -/

theorem log2_le_of_lt {n k : Nat} (h : n < 2 ^ (k + 1)) : n.log2 ≤ k := by
  by_cases hn : n = 0
  · simp [hn]
  · exact Nat.le_of_lt_succ ((Nat.log2_lt hn).mpr h)

theorem log2_mono {m n : Nat} (h : m ≤ n) : m.log2 ≤ n.log2 :=
  log2_le_of_lt (Nat.lt_of_le_of_lt h Nat.lt_log2_self)

theorem log2_succ_le (n : Nat) : (n + 1).log2 ≤ n.log2 + 1 := by
  refine log2_le_of_lt ?_
  have h := @Nat.lt_log2_self n
  rw [Nat.pow_succ]
  omega

theorem log2_mul_le (m n : Nat) : (m * n).log2 ≤ m.log2 + n.log2 + 1 := by
  refine log2_le_of_lt ?_
  calc m * n < 2 ^ (m.log2 + 1) * 2 ^ (n.log2 + 1) :=
        Nat.mul_lt_mul'' Nat.lt_log2_self Nat.lt_log2_self
    _ = 2 ^ (m.log2 + n.log2 + 1 + 1) := by rw [← Nat.pow_add]; congr 1; omega

theorem log2_shiftLeft {m : Nat} (hm : m ≠ 0) (s : Nat) : (m <<< s).log2 = m.log2 + s := by
  have hpos : m <<< s ≠ 0 := by simp [Nat.shiftLeft_eq, hm]
  refine (Nat.log2_eq_iff hpos).mpr ⟨?_, ?_⟩
  · rw [Nat.shiftLeft_eq, Nat.pow_add]
    exact Nat.mul_le_mul_right _ (Nat.log2_self_le hm)
  · rw [Nat.shiftLeft_eq, Nat.add_right_comm, Nat.pow_add]
    exact Nat.mul_lt_mul_of_pos_right Nat.lt_log2_self (Nat.two_pow_pos s)

/-- A quotient has the difference of the logarithms, at most. -/
theorem log2_div_le {m n : Nat} (hn : n ≠ 0) : (m / n).log2 ≤ m.log2 - n.log2 := by
  refine log2_le_of_lt ((Nat.div_lt_iff_lt_mul (Nat.pos_of_ne_zero hn)).mpr ?_)
  calc m < 2 ^ (m.log2 + 1) := Nat.lt_log2_self
    _ ≤ 2 ^ (m.log2 - n.log2 + 1 + n.log2) := Nat.pow_le_pow_right (by decide) (by omega)
    _ = 2 ^ (m.log2 - n.log2 + 1) * 2 ^ n.log2 := Nat.pow_add ..
    _ ≤ 2 ^ (m.log2 - n.log2 + 1) * n := Nat.mul_le_mul_left _ (Nat.log2_self_le hn)

theorem log2_div_two_pow (m k : Nat) : (m / 2 ^ k).log2 = m.log2 - k := by
  rcases Nat.eq_zero_or_pos (m / 2 ^ k) with h | h
  · have hlt := (Nat.div_eq_zero_iff_lt (Nat.two_pow_pos k)).mp h
    rw [h, Nat.log2_zero]
    by_cases hm : m = 0
    · simp [hm]
    · have hlog := (Nat.log2_lt hm).mpr hlt
      omega
  · have hle : 2 ^ k ≤ m := (Nat.div_pos_iff.mp h).2
    have hm : m ≠ 0 := fun hm => absurd (hm ▸ hle) (Nat.not_le.mpr (Nat.two_pow_pos k))
    have hk := (Nat.le_log2 hm).mpr hle
    refine (Nat.log2_eq_iff h.ne').mpr ⟨?_, ?_⟩
    · rw [Nat.le_div_iff_mul_le (Nat.two_pow_pos k), ← Nat.pow_add, Nat.sub_add_cancel hk]
      exact Nat.log2_self_le hm
    · rw [Nat.div_lt_iff_lt_mul (Nat.two_pow_pos k), ← Nat.pow_add]
      exact Nat.lt_of_lt_of_le Nat.lt_log2_self (Nat.pow_le_pow_right (by decide) (by omega))

/-! ## Rounding -/

theorem mantissa_shiftRight (x : ExtendedMantissa) (k : Nat) :
    (x >>> k).mantissa = x.mantissa / 2 ^ k := by
  induction k with
  | zero => simp [HShiftRight.hShiftRight, Nat.repeat]
  | succ k ih =>
    change (x >>> k).mantissa / 2 = _
    rw [ih, Nat.div_div_eq_div_mul, Nat.pow_succ]

theorem mantissa_ofMantissaAndAccuracy (m : Nat) (a : Accuracy) :
    (ExtendedMantissa.ofMantissaAndAccuracy m a).mantissa = m := by
  cases a with
  | exact => rfl
  | inexact o => cases o <;> rfl

theorem roundedMantissa_bounds (x : ExtendedMantissa) :
    x.mantissa ≤ x.roundedMantissa ∧ x.roundedMantissa ≤ x.mantissa + 1 := by
  unfold ExtendedMantissa.roundedMantissa
  cases x.accuracy with
  | exact => exact ⟨Nat.le_refl _, Nat.le_succ _⟩
  | inexact o => cases o <;> simp only [Accuracy.roundToNearestEven] <;> omega

theorem targetExponent_eq (t : Int) :
    Format.binary64.targetExponent t = max (t - 53) (-1074) := rfl

/-- What a shift towards the last place of a double does to the logarithm and the exponent. -/
theorem shiftToTargetExponent_spec (m : Nat) (e : Int) (a : Accuracy) :
    ∃ k : Nat, k = (max ((m.log2 : Int) + 1 + e - 53) (-1074) - e).toNat ∧
      (shiftToTargetExponent Format.binary64 m e a).1.mantissa.log2 = m.log2 - k ∧
      (shiftToTargetExponent Format.binary64 m e a).2 = e + k := by
  refine ⟨_, rfl, ?_, rfl⟩
  simp only [shiftToTargetExponent, shiftToExponent, mantissa_shiftRight,
    mantissa_ofMantissaAndAccuracy, targetExponent_eq, totalExponent, log2_div_two_pow]

theorem bounded_roundWithAccuracy {m : Nat} {e : Int} (h : Fits t m e) (ht : -1074 < t)
    (s : Sign) (a : Accuracy) :
    Bounded (t + 1) (roundWithAccuracy Format.binary64 s m e a) := by
  obtain ⟨k, hk, hlog, hexponent⟩ := shiftToTargetExponent_spec m e a
  unfold roundWithAccuracy
  generalize shiftToTargetExponent Format.binary64 m e a = first at hlog hexponent ⊢
  have hrounded := log2_mono (roundedMantissa_bounds first.1).2
  have hsucc := log2_succ_le first.1.mantissa
  obtain ⟨j, hj, hlog', hexponent'⟩ :=
    shiftToTargetExponent_spec first.1.roundedMantissa first.2 .exact
  dsimp only
  generalize shiftToTargetExponent Format.binary64 first.1.roundedMantissa first.2 .exact = second
    at hlog' hexponent' ⊢
  by_cases hzero : second.1.mantissa = 0
  · rw [dif_pos hzero]
    exact .zero s
  · rw [dif_neg hzero]
    refine .finite s _ ?_
    unfold Fits at h ⊢
    omega

/-- A mantissa with at least the bits of a double is rounded to one of just these, and to no smaller
magnitude. -/
theorem full_roundWithAccuracy {m : Nat} {e : Int} (hm : 52 ≤ m.log2) (hl : l ≤ m.log2 + e)
    (hlow : 0 ≤ l) (s : Sign) (a : Accuracy) :
    ∃ m' e' hpos, roundWithAccuracy Format.binary64 s m e a = .finite s m' e' hpos ∧
      m'.log2 = 52 ∧ l ≤ 52 + e' := by
  obtain ⟨k, hk, hlog, hexponent⟩ := shiftToTargetExponent_spec m e a
  unfold roundWithAccuracy
  generalize shiftToTargetExponent Format.binary64 m e a = first at hlog hexponent ⊢
  have hrounded := log2_mono (roundedMantissa_bounds first.1).1
  obtain ⟨j, hj, hlog', hexponent'⟩ :=
    shiftToTargetExponent_spec first.1.roundedMantissa first.2 .exact
  dsimp only
  rw [dif_neg fun hzero => ?_]
  · exact ⟨_, _, _, rfl, by omega, by omega⟩
  · rw [hzero, Nat.log2_zero] at hlog'
    omega

/-! ## Packing -/

theorem log2_toNat_le {w : Nat} (b : BitVec (w + 1)) : b.toNat.log2 ≤ w := log2_le_of_lt b.isLt

/-- What the bits of an exponent and of a mantissa make. -/
inductive Unpacks (b : BitVec 11) (m : BitVec 52) : UnpackedFloat → Prop
  | infinity (s : Sign) (hb : b = -1#11) : Unpacks b m (.infinity s)
  | notANumber (hb : b = -1#11) (hm : m ≠ 0#52) : Unpacks b m .notANumber
  | zero (s : Sign) (hb : b ≠ -1#11) (hzero : b = 0#11) : Unpacks b m (.zero s)
  | subnormal (s : Sign) {e : Int} (hb : b ≠ -1#11) (hzero : b = 0#11) (he : e = -1074)
      (hm : 0 < m.toNat) : Unpacks b m (.finite s m.toNat e hm)
  | normal (s : Sign) (hb : b ≠ -1#11) (hzero : b ≠ 0#11) (hm : 0 < (1#1 ++ m).toNat) :
    Unpacks b m (.finite s (1#1 ++ m).toNat (b.toNat - 1075) hm)

-- `delta`, as the equation that `unfold` makes is already part of larger libraries.
theorem unpacks (b : BitVec 64) :
    Unpacks (@unpackExponent Format.binary64 b) (@unpackMantissa Format.binary64 b)
      (UnpackedFloat.unpack Format.binary64 b) := by
  delta UnpackedFloat.unpack
  dsimp only
  by_cases hb : @unpackExponent Format.binary64 b = -1#11
  · rw [if_pos hb]
    by_cases hm : @unpackMantissa Format.binary64 b = 0#52
    · rw [if_pos hm]
      exact .infinity _ hb
    · rw [if_neg hm]
      exact .notANumber hb hm
  · rw [if_neg hb]
    by_cases hzero : @unpackExponent Format.binary64 b = 0#11
    · rw [if_pos hzero]
      by_cases hm : @unpackMantissa Format.binary64 b = 0#52
      · rw [dif_pos hm]
        exact .zero _ hb hzero
      · rw [dif_neg hm]
        exact .subnormal _ hb hzero (by rw [hzero]; rfl) _
    · rw [if_neg hzero]
      exact .normal _ hb hzero _

theorem unpacks_packComponents (s : Sign) (b : BitVec 11) (m : BitVec 52) :
    Unpacks b m (UnpackedFloat.unpack Format.binary64 (packComponents Format.binary64 s b m)) := by
  have h := unpacks (packComponents Format.binary64 s b m)
  rwa [unpackExponent_packComponents, unpackMantissa_packComponents] at h

/-- Any exponent but the highest is that of a finite double. -/
theorem Unpacks.bounded {b : BitVec 11} {m : BitVec 52} (h : Unpacks b m u) (hb : b ≠ -1#11)
    (hlow : -1000 < t) (ht : (b.toNat : Int) - 1023 < t) : Bounded t u := by
  cases h with
  | infinity s heq => exact absurd heq hb
  | notANumber heq => exact absurd heq hb
  | zero s => exact .zero s
  | subnormal s _ _ he hm =>
    have hlog := log2_toNat_le m
    refine .finite s hm ?_
    change (m.toNat.log2 : Int) + _ < t
    omega
  | normal s _ _ hm =>
    have hlog := log2_toNat_le (1#1 ++ m)
    refine .finite s hm ?_
    change ((1#1 ++ m).toNat.log2 : Int) + (b.toNat - 1075) < t
    omega

theorem bounded_unpack_packComponents {b : BitVec 11} (hb : b ≠ -1#11)
    (hlow : -1000 < t) (ht : (b.toNat : Int) - 1023 < t) (s : Sign) (m : BitVec 52) :
    Bounded t (UnpackedFloat.unpack Format.binary64 (packComponents Format.binary64 s b m)) :=
  (unpacks_packComponents s b m).bounded hb hlow ht

theorem toNat_ofNat_exponent {n : Nat} (h : n + 1 < 2048) :
    BitVec.ofNat 11 n ≠ -1#11 ∧ (BitVec.ofNat 11 n).toNat = n := by
  have hnat : (BitVec.ofNat 11 n).toNat = n := by
    rw [BitVec.toNat_ofNat, Nat.mod_eq_of_lt (by omega)]
  refine ⟨fun heq => ?_, hnat⟩
  have hmax : (-1#11).toNat = 2047 := rfl
  rw [heq] at hnat
  omega

theorem unpack_packedInfinity (s : Sign) :
    ∃ s', UnpackedFloat.unpack Format.binary64 (packedInfinity Format.binary64 s) =
      .infinity s' := by
  have h := unpacks_packComponents s (-1#11) 0#52
  change Unpacks _ _ (UnpackedFloat.unpack Format.binary64 (packedInfinity Format.binary64 s)) at h
  generalize UnpackedFloat.unpack Format.binary64 (packedInfinity Format.binary64 s) = u at h ⊢
  cases h with
  | infinity s' => exact ⟨s', rfl⟩
  | notANumber _ hm => exact absurd rfl hm
  | zero _ hb => exact absurd rfl hb
  | subnormal _ hb => exact absurd rfl hb
  | normal _ hb => exact absurd rfl hb

/-- How a finite double is packed: as infinity beyond the largest exponent, and otherwise with a
leading bit that is left out, if it has that bit. -/
theorem pack_finite (s : Sign) {m : Nat} (e : Int) (hm : 0 < m) :
    UnpackedFloat.pack Format.binary64 (.finite s m e hm) =
      if 2048 ≤ (e + 1075).toNat + 1 then packedInfinity Format.binary64 s
      else if m.log2 + 1 = 53 then
        packComponents Format.binary64 s (BitVec.ofNat 11 (e + 1075).toNat) (BitVec.ofNat 52 m)
      else packComponents Format.binary64 s 0#11 (BitVec.ofNat 52 m) := by
  have hbias : e + (Format.binary64.exponentBias : Int) + (52 : Nat) = e + 1075 := by
    change e + 1023 + 52 = e + 1075
    omega
  rw [← hbias]
  rfl

/-- A finite double is packed as a finite one that is no larger, or as infinity if its exponent is
beyond the largest. -/
theorem bounded_pack_or_isInf (h : Bounded t u)
    (hlow : -1000 < t) :
    Bounded t (Float.Model.pack u).unpack ∨
      (∃ s m e hm, u = .finite s m e hm ∧ 972 ≤ e) ∧ (Float.Model.pack u).unpack.isInf = true := by
  change Bounded t (UnpackedFloat.unpack Format.binary64 (UnpackedFloat.pack Format.binary64 u)) ∨
    _ ∧
    (UnpackedFloat.unpack Format.binary64 (UnpackedFloat.pack Format.binary64 u)).isInf = true
  cases h with
  | zero s =>
    exact .inl (bounded_unpack_packComponents (by decide) hlow (by simpa using by omega) s 0)
  | @finite s m e hm h =>
    rw [pack_finite]
    by_cases hbig : 2048 ≤ (e + 1075).toNat + 1
    · obtain ⟨s', hs'⟩ := unpack_packedInfinity s
      rw [if_pos hbig]
      exact .inr ⟨⟨s, m, e, hm, rfl, by omega⟩, by rw [hs']; rfl⟩
    · obtain ⟨hne, hnat⟩ := toNat_ofNat_exponent (Nat.lt_of_not_le hbig)
      unfold Fits at h
      rw [if_neg hbig]
      left
      split
      case isTrue => exact bounded_unpack_packComponents hne hlow (by omega) s _
      case isFalse =>
        exact bounded_unpack_packComponents (by decide) hlow (by rw [BitVec.toNat_zero]; omega) s _

theorem bounded_pack (h : Bounded t u) (hlow : -1000 < t)
    (hhigh : t ≤ 972) : Bounded t (Float.Model.pack u).unpack := by
  refine (bounded_pack_or_isInf h hlow).resolve_right ?_
  rintro ⟨⟨s, m, e, hm, rfl, he⟩, -⟩
  cases h with
  | finite _ _ h =>
    unfold Fits at h
    omega

theorem atLeast_pack {s : Sign} {m : Nat} {e : Int} (hm : 0 < m) (hlog : m.log2 = 52)
    (hl : l ≤ 52 + e) (hlow : 0 ≤ l) : AtLeast l (Float.Model.pack (.finite s m e hm)).unpack := by
  change AtLeast l
    (UnpackedFloat.unpack Format.binary64 (UnpackedFloat.pack Format.binary64 (.finite s m e hm)))
  rw [pack_finite, hlog]
  split
  case isTrue =>
    obtain ⟨s', hs'⟩ := unpack_packedInfinity s
    rw [hs']
    exact .infinity s'
  case isFalse hfits =>
    obtain ⟨hne, hnat⟩ := toNat_ofNat_exponent (Nat.lt_of_not_le hfits)
    have hzero : BitVec.ofNat 11 (e + 1075).toNat ≠ 0#11 := fun heq => by
      rw [heq] at hnat
      have hnat : 0 = (e + 1075).toNat := hnat
      omega
    rw [if_pos rfl]
    have h := unpacks_packComponents s (BitVec.ofNat 11 (e + 1075).toNat) (BitVec.ofNat 52 m)
    generalize UnpackedFloat.unpack Format.binary64 _ = u at h ⊢
    cases h with
    | infinity _ hb => exact absurd hb hne
    | notANumber hb => exact absurd hb hne
    | zero _ _ hb => exact absurd hb hzero
    | subnormal _ _ hb => exact absurd hb hzero
    | normal s _ _ hpos =>
      have hfull : 2 ^ 52 ≤ (1#1 ++ BitVec.ofNat 52 m).toNat := by
        rw [BitVec.toNat_append]
        exact Nat.left_le_or
      have hlead := (Nat.le_log2 (by omega)).mpr hfull
      refine .finite s hpos ?_
      omega

/-- The exponent of a double is not beyond the largest. -/
theorem exponent_lt_of_unpack {b : BitVec 64} {s : Sign} {m : Nat} {e : Int} {hm : 0 < m}
    (h : UnpackedFloat.unpack Format.binary64 b = .finite s m e hm) : e < 972 := by
  have hunpacks := unpacks b
  rw [h] at hunpacks
  cases hunpacks with
  | subnormal _ _ _ he => omega
  | normal _ hne =>
    have hlt := (@unpackExponent Format.binary64 b).isLt
    have hmax : (@unpackExponent Format.binary64 b).toNat ≠ 2047 := fun hnat =>
      hne (BitVec.eq_of_toNat_eq hnat)
    change (@unpackExponent Format.binary64 b).toNat < 2048 at hlt
    omega

/-! ## Products and quotients -/

theorem bounded_mul (hu : Bounded t u)
    (hv : Bounded r v) (ht : -1074 < t + r) :
    Bounded (t + r + 1) (UnpackedFloat.mul Format.binary64 u v) := by
  cases hu with
  | zero s => cases hv <;> exact .zero _
  | @finite s m e _ hu =>
    cases hv with
    | zero s' => exact .zero _
    | @finite s' m' e' _ hv =>
      have hlog := log2_mul_le m m'
      refine bounded_roundWithAccuracy ?_ ht (s * s') .exact
      unfold Fits at hu hv ⊢
      omega

theorem isFinite_mul (hu : u.isFinite = true)
    (hv : v.isFinite = true) : (UnpackedFloat.mul Format.binary64 u v).isFinite = true := by
  obtain ⟨t, ht, hu⟩ := exists_bounded hu
  obtain ⟨r, hr, hv⟩ := exists_bounded hv
  refine (bounded_mul (hu.mono (Int.le_max_left t 0)) (hv.mono (Int.le_max_left r 0)) ?_).isFinite
  omega

/-- The quotient's magnitude, before it is rounded. -/
theorem fits_divCore {m m' : Nat} {e e' : Int} (hm : 0 < m) (h : Fits t m e)
    (hm' : 0 < m') (hl : l ≤ m'.log2 + e') (ht : -1074 < t - l) :
    Fits (t - l) (divCore Format.binary64 m e m' e').1 (divCore Format.binary64 m e m' e').2.1 := by
  unfold Fits at h ⊢
  simp only [divCore, targetExponent_eq, totalExponent]
  generalize hs : (e - e' - min (e - e') _).toNat = s
  have hquotient := @log2_div_le (m <<< s) m' hm'.ne'
  rw [log2_shiftLeft hm.ne'] at hquotient
  omega

/-- Rounding a quotient makes up for one power of two in the divisor. -/
theorem bounded_div (hu : Bounded t u)
    (hv : AtLeast l v) (ht : -1074 < t - l) :
    Bounded (t - l + 1) (UnpackedFloat.div Format.binary64 u v) := by
  cases hv with
  | infinity s' => cases hu <;> exact .zero _
  | finite s' hm' hv =>
    cases hu with
    | zero s => exact .zero _
    | finite s hm hu =>
      exact bounded_roundWithAccuracy (fits_divCore hm hu hm' hv ht) ht (s / s') _

/-! ## Doubles -/

/-- A double that is finite and below `2 ^ t`. -/
def Below (t : Int) (x : Float) : Prop := Bounded t x.toModel.unpack

theorem Below.isFinite {x : Float} (h : Below t x) : x.isFinite = true :=
  Bounded.isFinite h

theorem Below.mono {x : Float} (h : Below t x) (ht : t ≤ t') : Below t' x :=
  Bounded.mono h ht

theorem below_div {x y : Float} (hx : Below t x) (hy : AtLeast l y.toModel.unpack)
    (hlow : -1000 < t - l) (hhigh : t - l < 972) : Below (t - l + 1) (x / y) :=
  bounded_pack (bounded_div hx hy (by omega)) (by omega) (by omega)

/-- A product overflows to infinity, but is always a number. -/
theorem isFinite_mul_of_not_isInf {x y : Float} (hx : x.isFinite = true) (hy : y.isFinite = true)
    (h : (x * y).isInf = false) : (x * y).isFinite = true := by
  obtain ⟨t, ht, hbounded⟩ := exists_bounded (isFinite_mul hx hy)
  rcases bounded_pack_or_isInf hbounded ht with hpack | ⟨-, hinf⟩
  · exact hpack.isFinite
  · have hinf : (x * y).isInf = true := hinf
    rw [h] at hinf
    cases hinf

theorem isFinite_neg {x : Float} (h : x.isFinite = true) : (-x).isFinite = true := by
  have hfinite : x.toModel.unpack.isFinite = true := h
  have hexponent {s m e hm} : x.toModel.unpack = .finite s m e hm → e < 972 :=
    exponent_lt_of_unpack
  change (Float.Model.pack x.toModel.unpack.neg).unpack.isFinite = true
  generalize x.toModel.unpack = u at hfinite hexponent
  obtain ⟨t, ht, hu⟩ := exists_bounded hfinite
  have hneg : Bounded t u.neg := by
    cases hu with
    | zero s => exact .zero _
    | finite s hm hfits => exact .finite _ hm hfits
  rcases bounded_pack_or_isInf hneg ht with hpack | ⟨⟨s, m, e, hm, heq, he⟩, -⟩
  · exact hpack.isFinite
  · cases hu with
    | zero _ => cases heq
    | finite _ _ _ =>
      cases heq
      exact absurd (hexponent rfl) (Int.not_lt.mpr he)

/-! ## Whole numbers -/

theorem log2_lt_of_lt {n : Nat} (h : n < UInt64.size) : n.log2 < 64 :=
  Nat.lt_succ_of_le (log2_le_of_lt h)

theorem bounded_normalize {n : Nat} (h : n < UInt64.size) :
    Bounded 65 (UnpackedFloat.normalize Format.binary64 n 0 .positive) := by
  have hlog := log2_lt_of_lt h
  unfold UnpackedFloat.normalize
  split
  case h_1 hneg => exact absurd (compare_lt_iff_lt.mp hneg) (by omega)
  case h_2 => exact .zero _
  case h_3 hpos =>
    have hn : n ≠ 0 := by
      rintro rfl
      cases hpos
    unfold UnpackedFloat.round decreaseExponent
    refine bounded_roundWithAccuracy (t := 64) ?_ (by decide) .positive .exact
    rw [Int.toNat_natCast]
    unfold Fits
    rw [log2_shiftLeft hn]
    omega

theorem below_toFloat (n : UInt64) : Below 65 n.toFloat :=
  bounded_pack (bounded_normalize n.toNat_lt_size) (by decide) (by decide)

theorem below_one : Below 1 Float.exactlyRepresentablePowersOfTen[0] := by
  have hone : Float.exactlyRepresentablePowersOfTen[0].toModel.unpack =
    .finite .positive (2 ^ 52) (-52) (by decide) := rfl
  unfold Below
  rw [hone]
  exact .finite _ _ (by unfold Fits; decide)

theorem ofScientific_eq {n k : Nat} (hn : n ≠ 0) (hk : k ≤ 2048) :
    ∃ h h', UnpackedFloat.ofScientific Format.binary64 n k =
      UnpackedFloat.mul Format.binary64 (.finite .positive (n <<< 53) (-53) h)
        (.finite .positive (10 ^ k) 0 h') := by
  have hlarge : ¬ (k : Int) > 2 ^ Format.binary64.exponentBits := by
    change ¬ (k : Int) > 2048
    omega
  have hsmall : ¬ (k : Int) < -(2 ^ Format.binary64.exponentBits + n.log2) := by
    change ¬ (k : Int) < -(2048 + n.log2)
    omega
  have hpos : (0 : Int) ≤ k := by omega
  unfold UnpackedFloat.ofScientific
  rw [dif_neg hn, if_neg hlarge, if_neg hsmall, if_pos hpos]
  exact ⟨_, _, rfl⟩

theorem bounded_ofScientific {n : Nat} (h : n < UInt64.size) :
    Bounded 66 (UnpackedFloat.ofScientific Format.binary64 n 0) := by
  have hlog := log2_lt_of_lt h
  by_cases hn : n = 0
  · rw [UnpackedFloat.ofScientific, dif_pos hn]
    exact .zero _
  · obtain ⟨hpos, hpos', heq⟩ := ofScientific_eq hn (Nat.zero_le 2048)
    have heq : UnpackedFloat.ofScientific Format.binary64 n 0 = _ := heq
    rw [heq]
    refine bounded_mul (t := 64) (r := 1) (.finite _ hpos ?_) (.finite _ hpos' ?_) (by decide)
    · unfold Fits
      rw [log2_shiftLeft hn]
      omega
    · unfold Fits
      decide

theorem below_ofNat {n : Nat} (h : n < UInt64.size) : Below 67 (Float.ofNat n) := by
  change Below 67 (Float.ofScientific n false 0)
  unfold Float.ofScientific
  split
  · exact bounded_pack (bounded_mul (below_toFloat _) below_one (by decide)) (by decide) (by decide)
  · exact (bounded_pack (bounded_ofScientific h) (by decide) (by decide)).mono (by decide)

/-! ## Powers of ten -/

instance (l : Int) (u : UnpackedFloat) : Decidable (AtLeast l u) :=
  match u with
  | .infinity s => isTrue (.infinity s)
  | .finite s m e hm =>
    if h : l ≤ m.log2 + e then isTrue (.finite s hm h)
    else isFalse fun hl => by cases hl; contradiction
  | .zero _ | .notANumber => isFalse nofun

/-- A finite double that is one or more, and two or more if it stands for a power above the first. -/
structure IsPower (k : Nat) (x : Float) : Prop where
  isFinite : x.isFinite = true
  atLeast : AtLeast (min k 1) x.toModel.unpack

instance (k : Nat) (x : Float) : Decidable (IsPower k x) :=
  decidable_of_iff (x.isFinite = true ∧ AtLeast (min k 1) x.toModel.unpack)
    ⟨fun h => ⟨h.1, h.2⟩, fun h => ⟨h.1, h.2⟩⟩

/-- The powers of ten that core looks up. -/
theorem isPower_small : ∀ k < 23, IsPower k (Float.ofScientific 1 false k) := by
  decide +kernel

theorem isPower_last : IsPower 308 (Float.ofScientific 1 false 308) := by
  decide +kernel

theorem log2_power_le {k : Nat} (hk : k ≤ 153 + 154) : (10 ^ k).log2 ≤ 1020 := by
  have hmul := log2_mul_le (10 ^ 153) (10 ^ 154)
  have hlow : (10 ^ 153).log2 = 508 := by decide +kernel
  have hhigh : (10 ^ 154).log2 = 511 := by decide +kernel
  rw [hlow, hhigh, ← Nat.pow_add] at hmul
  exact Nat.le_trans (log2_mono (Nat.pow_le_pow_right (by decide) hk)) hmul

/-- A power of ten that core computes has all the bits of a double before it is rounded. -/
theorem isPower_large {k : Nat} (hk : k ≤ 307) (hpos : 0 < k) :
    IsPower k (.ofModel (Float.Model.ofScientific 1 k)) := by
  obtain ⟨hone, hten, heq⟩ := ofScientific_eq (n := 1) (by decide) (k := k) (by omega)
  have hlog : (1 <<< 53 * 10 ^ k).log2 = (10 ^ k).log2 + 53 := by
    rw [Nat.one_shiftLeft, Nat.mul_comm, ← Nat.shiftLeft_eq, log2_shiftLeft (by positivity)]
  have hlow : (10 ^ 1).log2 ≤ (10 ^ k).log2 := log2_mono (Nat.pow_le_pow_right (by decide) hpos)
  have hten : (10 ^ 1).log2 = 3 := by decide
  have hhigh := log2_power_le (k := k) (by omega)
  have hbounded : Bounded (1021 + 1)
      (roundWithAccuracy Format.binary64 (.positive * .positive) (1 <<< 53 * 10 ^ k) (-53 + 0)
        .exact) :=
    bounded_roundWithAccuracy (by unfold Fits; omega) (by decide) _ _
  obtain ⟨m, e, hm, hround, hfull, hle⟩ := full_roundWithAccuracy (m := 1 <<< 53 * 10 ^ k)
    (e := -53 + 0) (l := min k 1) (by omega) (by omega) (by omega) (.positive * .positive) .exact
  have hpack : Float.Model.ofScientific 1 k =
      Float.Model.pack (.finite (.positive * .positive) m e hm) := by
    change Float.Model.pack (UnpackedFloat.ofScientific Format.binary64 1 k) = _
    rw [heq, ← hround]
    rfl
  rw [hround] at hbounded
  rw [hpack]
  refine ⟨?_, atLeast_pack hm hfull hle (by omega)⟩
  rcases bounded_pack_or_isInf hbounded (by decide) with hfinite | ⟨⟨s', m', e', hm', heq', he'⟩, -⟩
  · exact hfinite.isFinite
  · cases heq'
    cases hbounded with
    | finite _ _ h =>
      unfold Fits at h
      omega

theorem isPower_ofScientific {k : Nat} (hk : k ≤ 308) :
    IsPower k (Float.ofScientific 1 false k) := by
  by_cases hsmall : k < 23
  · exact isPower_small k hsmall
  · by_cases hlast : k = 308
    · rw [hlast]
      exact isPower_last
    · rw [Float.ofScientific, dif_neg (by omega)]
      exact isPower_large (by omega) (by omega)

end NewsSearch.Decimal
