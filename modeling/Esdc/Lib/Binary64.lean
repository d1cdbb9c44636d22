import Mathlib
import Esdc.Lib.Trunc

/-! The arithmetic of doubles on rational numbers, without an overflow. -/

namespace binary64

/-- The exponent of the last of the 53 digits. -/
def exponent (x : ℚ) : ℤ := max (Int.log 2 |x| - 52) (-1074)

/-- The distance of the doubles around a number. -/
def ulp (x : ℚ) : ℚ := 2 ^ exponent x

/-- The nearest integer, in the middle of two the even one. -/
def nearest (x : ℚ) : ℤ :=
  let below := ⌊x⌋
  if x - below < 1 / 2 then below
  else if 1 / 2 < x - below then below + 1
  else if Even below then below
  else below + 1

def round (x : ℚ) : ℚ := nearest (x / ulp x) * ulp x

theorem ulp_pos (x : ℚ) : 0 < ulp x := zpow_pos (by norm_num) _

theorem nearest_intCast (z : ℤ) : nearest z = z := by
  unfold nearest
  simp

theorem le_nearest {z : ℤ} {x : ℚ} (hle : z ≤ x) : z ≤ nearest x := by
  have hfloor : z ≤ ⌊x⌋ := Int.le_floor.mpr hle
  unfold nearest
  dsimp only
  split_ifs <;> omega

theorem nearest_le {z : ℤ} {x : ℚ} (hle : x ≤ z) : nearest x ≤ z := by
  by_cases heq : (⌊x⌋ : ℚ) = x
  · rw [← heq, nearest_intCast]
    rw [← heq] at hle
    exact_mod_cast hle
  · have hlt : (⌊x⌋ : ℚ) < z := lt_of_lt_of_le (lt_of_le_of_ne (Int.floor_le x) heq) hle
    have hfloor : ⌊x⌋ < z := by exact_mod_cast hlt
    unfold nearest
    dsimp only
    split_ifs <;> omega

/-- A multiple of the distance is not crossed. -/
theorem le_round {z : ℤ} {x : ℚ} (hle : z * ulp x ≤ x) : z * ulp x ≤ round x := by
  have hz : z ≤ nearest (x / ulp x) := le_nearest ((le_div_iff₀ (ulp_pos x)).mpr hle)
  exact mul_le_mul_of_nonneg_right (by exact_mod_cast hz) (ulp_pos x).le

theorem round_le {z : ℤ} {x : ℚ} (hle : x ≤ z * ulp x) : round x ≤ z * ulp x := by
  have hz : nearest (x / ulp x) ≤ z := nearest_le ((div_le_iff₀ (ulp_pos x)).mpr hle)
  exact mul_le_mul_of_nonneg_right (by exact_mod_cast hz) (ulp_pos x).le

theorem round_of_multiple {z : ℤ} {x : ℚ} (heq : x = z * ulp x) : round x = x :=
  le_antisymm ((round_le heq.le).trans heq.ge) (heq.le.trans (le_round heq.ge))

theorem round_nonneg {x : ℚ} (hx : 0 ≤ x) : 0 ≤ round x := by
  have h := le_round (z := 0) (x := x) (by simpa using hx)
  simpa using h

/-- The numbers with 53 digits. -/
def Representable (x : ℚ) : Prop := ∃ k e : ℤ, x = k * 2 ^ e ∧ |k| ≤ 2 ^ 53 ∧ -1074 ≤ e

/-- The first digit of a number with 53 digits is not further left. -/
theorem exponent_le {x : ℚ} {e : ℤ} (hne : x ≠ 0) (hx : |x| < 2 ^ (e + 53)) (he : -1074 ≤ e) : exponent x ≤ e := by
  have hlog : Int.log 2 |x| < e + 53 := by
    apply (Int.lt_zpow_iff_log_lt (b := 2) (by norm_num) (abs_pos.mpr hne)).mp
    exact_mod_cast hx
  exact max_le_iff.mpr ⟨by omega, he⟩

theorem multiple_of_exponent_le {x : ℚ} {k e : ℤ} (he : exponent x ≤ e) : ∃ z : ℤ, (k * 2 ^ e : ℚ) = z * ulp x := by
  refine ⟨k * 2 ^ (e - exponent x).toNat, ?_⟩
  have hsplit : (2 : ℚ) ^ e = 2 ^ (e - exponent x).toNat * 2 ^ exponent x := by
    rw [← zpow_natCast, ← zpow_add₀ (by norm_num), Int.toNat_of_nonneg (by omega)]
    congr 1
    omega
  push_cast
  rw [ulp, mul_assoc, ← hsplit]

theorem Representable.round_eq {x : ℚ} (hx : Representable x) : round x = x := by
  obtain ⟨k, e, heq, hk, he⟩ := hx
  rcases eq_or_ne x 0 with rfl | hne
  · exact round_of_multiple (z := 0) (by simp)
  have habs : |x| = |k| * 2 ^ e := by
    rw [heq, abs_mul, abs_of_pos (zpow_pos (by norm_num : (0 : ℚ) < 2) e), Int.cast_abs]
  have hmultiple : ∃ z : ℤ, x = z * ulp x := by
    rcases hk.lt_or_eq with hlt | hlast
    · have hcast : ((|k| : ℤ) : ℚ) < 2 ^ 53 := by exact_mod_cast hlt
      have hexponent : exponent x ≤ e := by
        refine exponent_le hne ?_ he
        rw [habs, zpow_add₀ (by norm_num), mul_comm (2 ^ e : ℚ)]
        exact mul_lt_mul_of_pos_right (by exact_mod_cast hcast) (zpow_pos (by norm_num) e)
      obtain ⟨z, hz⟩ := multiple_of_exponent_le (k := k) hexponent
      exact ⟨z, heq.trans hz⟩
    · -- the last mantissa is the first one of the next exponent
      have heven : k = k / 2 * 2 := by
        rcases abs_eq_abs.mp (hlast.trans (abs_of_pos (by norm_num : (0 : ℤ) < 2 ^ 53)).symm) with h | h
        · rw [h]
          norm_num
        · rw [h]
          norm_num
      have hnext : x = ((k / 2 : ℤ) : ℚ) * 2 ^ (e + 1) := by
        rw [heq, zpow_add_one₀ (by norm_num)]
        conv_lhs => rw [heven]
        push_cast
        ring
      have hexponent : exponent x ≤ e + 1 := by
        refine exponent_le hne ?_ (by omega)
        have hcast : ((|k| : ℤ) : ℚ) = 2 ^ (53 : ℤ) := by exact_mod_cast hlast
        rw [habs, hcast, ← zpow_add₀ (by norm_num)]
        exact zpow_lt_zpow_right₀ (by norm_num) (by omega)
      obtain ⟨z, hz⟩ := multiple_of_exponent_le (k := k / 2) hexponent
      exact ⟨z, hnext.trans hz⟩
  obtain ⟨z, hz⟩ := hmultiple
  exact round_of_multiple hz

theorem representable_round (x : ℚ) : Representable (round x) := by
  have hx : |x / ulp x| ≤ 2 ^ 53 := by
    rw [abs_div, abs_of_pos (ulp_pos x), div_le_iff₀ (ulp_pos x)]
    have hlog : |x| < 2 ^ (Int.log 2 |x| + 1) := by
      have h := Int.lt_zpow_succ_log_self (b := 2) (by norm_num) |x|
      exact_mod_cast h
    have hexponent : Int.log 2 |x| + 1 ≤ 53 + exponent x := by
      have h := le_max_left (Int.log 2 |x| - 52) (-1074)
      rw [exponent]
      omega
    calc |x| ≤ 2 ^ (Int.log 2 |x| + 1) := hlog.le
      _ ≤ 2 ^ (53 + exponent x) := zpow_le_zpow_right₀ (by norm_num) hexponent
      _ = 2 ^ 53 * ulp x := by rw [zpow_add₀ (by norm_num), ulp]; norm_num
  obtain ⟨hlow, hhigh⟩ := abs_le.mp hx
  refine ⟨nearest (x / ulp x), exponent x, rfl, abs_le.mpr ⟨?_, ?_⟩, le_max_right _ _⟩
  · exact le_nearest (by exact_mod_cast hlow)
  · exact nearest_le (by exact_mod_cast hhigh)

theorem representable_intCast {z : ℤ} (hz : |z| ≤ 2 ^ 53) : Representable z := ⟨z, 0, by simp, hz, by norm_num⟩

theorem round_intCast {z : ℤ} (hz : |z| ≤ 2 ^ 53) : round z = z := (representable_intCast hz).round_eq

/-- A part of a number that is taken from it leaves no more digits. -/
theorem Representable.sub_natCast {x : ℚ} (hx : Representable x) {n : ℕ} (hn : n ≤ x) (hbits : x ≤ 2 ^ 53) :
    Representable (x - n) := by
  obtain ⟨k, e, rfl, hk, he⟩ := hx
  rcases le_or_gt e 0 with hneg | hpos
  · have hone : (2 : ℚ) ^ (-e).toNat * 2 ^ e = 1 := by
      rw [← zpow_natCast, ← zpow_add₀ (by norm_num), Int.toNat_of_nonneg (by omega)]
      simp
    have hsub : (k * 2 ^ e - n : ℚ) = ((k - n * 2 ^ (-e).toNat : ℤ) : ℚ) * 2 ^ e := by
      push_cast
      rw [sub_mul, mul_assoc, hone, mul_one]
    have hnonneg : 0 ≤ k - n * 2 ^ (-e).toNat := by
      have h : (0 : ℚ) ≤ ((k - n * 2 ^ (-e).toNat : ℤ) : ℚ) * 2 ^ e := by
        rw [← hsub]
        exact sub_nonneg.mpr hn
      exact_mod_cast nonneg_of_mul_nonneg_left h (zpow_pos (by norm_num) e)
    refine ⟨_, e, hsub, ?_, he⟩
    have hpart : (0 : ℤ) ≤ n * 2 ^ (-e).toNat := by positivity
    rw [abs_of_nonneg hnonneg]
    exact (by omega : k - n * 2 ^ (-e).toNat ≤ k).trans ((le_abs_self k).trans hk)
  · have hwhole : (k * 2 ^ e - n : ℚ) = ((k * 2 ^ e.toNat - n : ℤ) : ℚ) := by
      have hpow : (2 : ℚ) ^ e = 2 ^ e.toNat := by
        rw [← zpow_natCast, Int.toNat_of_nonneg hpos.le]
      push_cast
      rw [hpow]
    have hlow : (0 : ℚ) ≤ ((k * 2 ^ e.toNat - n : ℤ) : ℚ) := by
      rw [← hwhole]
      exact sub_nonneg.mpr hn
    have hhigh : ((k * 2 ^ e.toNat - n : ℤ) : ℚ) ≤ ((2 ^ 53 : ℤ) : ℚ) := by
      rw [← hwhole]
      push_cast
      exact (sub_le_self _ (Nat.cast_nonneg n)).trans hbits
    rw [hwhole]
    refine representable_intCast (abs_le.mpr ⟨?_, by exact_mod_cast hhigh⟩)
    have h : (0 : ℤ) ≤ k * 2 ^ e.toNat - n := by exact_mod_cast hlow
    omega

/-- The integers with 53 digits are not crossed. -/
theorem intCast_le_round {z : ℤ} {x : ℚ} (hx : |x| < 2 ^ 53) (hle : z ≤ x) : z ≤ round x := by
  rcases eq_or_ne x 0 with rfl | hne
  · exact hle.trans (round_nonneg le_rfl)
  obtain ⟨k, hk⟩ := multiple_of_exponent_le (k := z) (exponent_le (e := 0) hne (by simpa using hx) (by norm_num))
  rw [zpow_zero, mul_one] at hk
  rw [hk] at hle ⊢
  exact le_round hle

theorem round_le_intCast {z : ℤ} {x : ℚ} (hx : |x| < 2 ^ 53) (hle : x ≤ z) : round x ≤ z := by
  rcases eq_or_ne x 0 with rfl | hne
  · rwa [Representable.round_eq ⟨0, 0, by simp, by norm_num, by norm_num⟩]
  obtain ⟨k, hk⟩ := multiple_of_exponent_le (k := z) (exponent_le (e := 0) hne (by simpa using hx) (by norm_num))
  rw [zpow_zero, mul_one] at hk
  rw [hk] at hle ⊢
  exact round_le hle

section subtract

/-- An integer, as a double, is taken from a double. -/
def sub (x : ℚ) (n : ℕ) : ℚ := round (x - round n)

/-- One after the other -/
def subs (x : ℚ) (ns : List ℕ) : ℚ := ns.foldl sub x

/-- Below zero there are more digits before the point: once the fraction is rounded off downwards. -/
def loses_fraction : ℚ → List ℕ → Prop
  | _, [] => False
  | x, n :: ns => (x - n < 0 ∧ (⌊x - n⌋ : ℚ) ≠ x - n ∧ sub x n = ⌊x - n⌋) ∨ loses_fraction (sub x n) ns

theorem sub_eq {x : ℚ} {n : ℕ} (hn : n ≤ 2 ^ 53) : sub x n = round (x - n) := by
  have h : round n = n := by
    have h := round_intCast (z := n) (by rw [abs_of_nonneg (by positivity)]; exact_mod_cast hn)
    exact_mod_cast h
  rw [sub, h]

theorem sub_intCast {z : ℤ} {n : ℕ} (hbits : |z| + n ≤ 2 ^ 53) : sub z n = ((z - n : ℤ) : ℚ) := by
  have habs := abs_sub z n
  have hn : |(n : ℤ)| = n := abs_of_nonneg (by positivity)
  have hz := abs_nonneg z
  rw [sub_eq (by exact_mod_cast (by omega : (n : ℤ) ≤ 2 ^ 53))]
  have h := round_intCast (z := z - n) (by omega)
  push_cast at h ⊢
  exact h

/-- A whole number stays one. -/
theorem subs_intCast {z : ℤ} {ns : List ℕ} (hbits : |z| + ns.sum ≤ 2 ^ 53) :
    subs z ns = ((z - ns.sum : ℤ) : ℚ) ∧ ¬ loses_fraction z ns := by
  induction ns generalizing z with
  | nil => exact ⟨by simp [subs], id⟩
  | cons n ns ih =>
    rw [List.sum_cons, Nat.cast_add] at hbits
    have hsub : sub z n = ((z - n : ℤ) : ℚ) := sub_intCast (by omega)
    have habs := abs_sub z n
    have hn : |(n : ℤ)| = n := abs_of_nonneg (by positivity)
    obtain ⟨hsubs, hloses⟩ := ih (z := z - n) (by omega)
    constructor
    · rw [subs, List.foldl_cons, hsub, ← subs, hsubs, List.sum_cons, Nat.cast_add]
      congr 1
      ring
    · rw [loses_fraction, hsub]
      rintro (⟨-, hne, -⟩ | h)
      · apply hne
        rw [show (z - n : ℚ) = ((z - n : ℤ) : ℚ) by push_cast; rfl, Int.floor_intCast]
      · exact hloses h

/-- As long as there is enough, nothing is rounded. -/
theorem subs_of_sum_le {x : ℚ} {ns : List ℕ} (hx : Representable x) (hbits : x ≤ 2 ^ 53) (hsum : (ns.sum : ℚ) ≤ x) :
    subs x ns = x - ns.sum := by
  induction ns generalizing x with
  | nil => simp [subs]
  | cons n ns ih =>
    rw [List.sum_cons, Nat.cast_add] at hsum
    have hns : (0 : ℚ) ≤ ns.sum := Nat.cast_nonneg _
    have hn : (n : ℚ) ≤ x := by linarith
    have hpos : (0 : ℚ) ≤ n := Nat.cast_nonneg _
    have hleft := hx.sub_natCast hn hbits
    have hsub : sub x n = x - n := by
      rw [sub_eq (by exact_mod_cast hn.trans hbits), hleft.round_eq]
    rw [subs, List.foldl_cons, hsub, ← subs, ih hleft (by linarith) (by linarith), List.sum_cons, Nat.cast_add]
    ring

/-- Below zero the whole number is missed by one, unless the fraction has been lost. -/
theorem trunc_subs_of_lt {x : ℚ} {ns : List ℕ} (hx : Representable x ∨ x < 0) (hne : (⌊x⌋ : ℚ) ≠ x)
    (hbits : |⌊x⌋| + ns.sum < 2 ^ 53 - 1) (hsum : x < ns.sum) :
    ⌊x⌋ - ns.sum ≤ trunc (subs x ns) ∧ (trunc (subs x ns) = ⌊x⌋ - ns.sum ↔ loses_fraction x ns) := by
  induction ns generalizing x with
  | nil =>
    have hneg : ¬ 0 ≤ x := not_le.mpr (by simpa using hsum)
    have hceil : ⌈x⌉ = ⌊x⌋ + 1 :=
      le_antisymm (Int.ceil_le_floor_add_one x) (Int.lt_ceil.mpr (lt_of_le_of_ne (Int.floor_le x) hne))
    have htrunc : trunc (subs x []) = ⌊x⌋ + 1 := by
      rw [subs, List.foldl_nil, trunc, if_neg hneg, hceil]
    rw [htrunc, List.sum_nil]
    exact ⟨by omega, iff_of_false (by omega) id⟩
  | cons n ns ih =>
    rw [List.sum_cons, Nat.cast_add] at hbits hsum ⊢
    have hsubs : subs x (n :: ns) = subs (sub x n) ns := rfl
    have habs := abs_sub ⌊x⌋ (n : ℤ)
    have hn : |(n : ℤ)| = n := abs_of_nonneg (by positivity)
    have hz := abs_nonneg ⌊x⌋
    have hfloor : ⌊x - n⌋ = ⌊x⌋ - n := Int.floor_sub_natCast x n
    have hne' : (⌊x - n⌋ : ℚ) ≠ x - n := by
      rw [hfloor]
      push_cast
      exact fun h => hne (sub_left_injective h)
    have hround : sub x n = round (x - n) := sub_eq (by exact_mod_cast (by omega : (n : ℤ) ≤ 2 ^ 53))
    rw [hsubs, loses_fraction]
    rcases lt_or_ge (x - n) 0 with hneg | hpos
    · -- the rounded remainder stays between the two whole numbers
      have hlow := Int.floor_le (x - n)
      have hhigh := (Int.lt_floor_add_one (x - n)).le
      have hsmall : |x - n| < 2 ^ 53 := by
        have hfar : -|⌊x⌋| ≤ ⌊x⌋ := neg_abs_le ⌊x⌋
        have hcast : ((-2 ^ 53 : ℤ) : ℚ) < ⌊x - n⌋ := by
          rw [hfloor]
          exact Int.cast_lt.mpr (by omega)
        rw [abs_of_neg hneg]
        push_cast at hcast
        linarith
      have hge := intCast_le_round hsmall hlow
      have hle := round_le_intCast (z := ⌊x - n⌋ + 1) hsmall (by exact_mod_cast hhigh)
      rw [← hround, hfloor] at hge hle
      by_cases hlost : sub x n = ⌊x - n⌋
      · rw [hlost, hfloor] at *
        have hbits : |⌊x⌋ - n| + (ns.sum : ℤ) ≤ 2 ^ 53 := by omega
        obtain ⟨hwhole, -⟩ := subs_intCast hbits
        rw [hwhole, trunc_intCast]
        exact ⟨by omega, iff_of_true (by omega) (.inl ⟨hneg, hne', by push_cast; rfl⟩)⟩
      · by_cases hup : sub x n = ((⌊x⌋ - n + 1 : ℤ) : ℚ)
        · have hmissed : |⌊x⌋ - n + 1| ≤ |⌊x⌋ - n| + 1 := abs_add_le _ _
          have hbits : |⌊x⌋ - n + 1| + (ns.sum : ℤ) ≤ 2 ^ 53 := by omega
          obtain ⟨hwhole, hkept⟩ := subs_intCast hbits
          rw [hup, hwhole, trunc_intCast]
          refine ⟨by omega, iff_of_false (by omega) ?_⟩
          rintro (⟨-, -, h⟩ | h)
          · exact hlost (hup.trans h)
          · exact hkept h
        · have hfloor' : ⌊sub x n⌋ = ⌊x⌋ - n := by
            rw [Int.floor_eq_iff]
            refine ⟨hge, lt_of_le_of_ne (by push_cast at hle ⊢; exact hle) ?_⟩
            push_cast at hup ⊢
            exact hup
          have hneg' : sub x n < 0 := by
            refine lt_of_le_of_ne ?_ ?_
            · rw [hround]
              have h := round_le_intCast (z := 0) hsmall (by exact_mod_cast hneg.le)
              exact_mod_cast h
            · intro hzero
              have h0 : ⌊x⌋ - n = 0 := by rw [← hfloor', hzero, Int.floor_zero]
              exact hlost (by rw [hzero, hfloor, h0, Int.cast_zero])
          have hsum' : sub x n < ns.sum := lt_of_lt_of_le hneg' (Nat.cast_nonneg _)
          have hstep := ih (x := sub x n) (.inr hneg') (by rw [hfloor', ← hfloor]; exact Ne.symm hlost)
            (by rw [hfloor']; omega) hsum'
          rw [hfloor'] at hstep
          refine ⟨by omega, ?_⟩
          rw [or_iff_right fun h => hlost h.2.2, ← hstep.2]
          constructor
          · intro h
            omega
          · intro h
            omega
    · have hrep : Representable x := hx.resolve_right fun h => by
        have hcast : (0 : ℚ) ≤ n := Nat.cast_nonneg n
        linarith
      have hle : x ≤ 2 ^ 53 := by
        have hcast : (⌊x⌋ : ℚ) + 1 ≤ 2 ^ 53 := by
          exact_mod_cast (by have := le_abs_self ⌊x⌋; omega : ⌊x⌋ + 1 ≤ 2 ^ 53)
        exact (Int.lt_floor_add_one x).le.trans hcast
      have hleft := hrep.sub_natCast (sub_nonneg.mp hpos) hle
      have hexact : sub x n = x - n := by rw [hround, hleft.round_eq]
      have hstep := ih (x := x - n) (.inl hleft) hne' (by rw [hfloor]; omega) (by linarith)
      rw [hfloor] at hstep
      rw [hexact]
      refine ⟨by omega, ?_⟩
      rw [or_iff_right fun h => (not_lt.mpr hpos) h.1, ← hstep.2]
      constructor
      · intro h
        omega
      · intro h
        omega

/-- The whole part of what is left is the rest of the whole part if the number is whole, if there is enough, or if
the fraction is lost on the way. -/
theorem trunc_subs {x : ℚ} {ns : List ℕ} (hx : Representable x) (hnonneg : 0 ≤ x)
    (hbits : x + ns.sum < 2 ^ 53 - 1) :
    trunc x - ns.sum ≤ trunc (subs x ns) ∧
      (trunc (subs x ns) = trunc x - ns.sum ↔ (trunc x : ℚ) = x ∨ (ns.sum : ℚ) ≤ x ∨ loses_fraction x ns) := by
  have htrunc : trunc x = ⌊x⌋ := if_pos hnonneg
  have hfloor : 0 ≤ ⌊x⌋ := Int.floor_nonneg.mpr hnonneg
  have habs : |⌊x⌋| = ⌊x⌋ := abs_of_nonneg hfloor
  have hbits' : ⌊x⌋ + (ns.sum : ℤ) < 2 ^ 53 - 1 := by
    rw [← Int.floor_add_natCast]
    exact Int.floor_lt.mpr (lt_of_lt_of_eq hbits (by norm_num))
  rw [htrunc]
  by_cases hwhole : (⌊x⌋ : ℚ) = x
  · have hbits_floor : |⌊x⌋| + (ns.sum : ℤ) ≤ 2 ^ 53 := by omega
    obtain ⟨hsubs, -⟩ := subs_intCast hbits_floor
    have hleft : trunc (subs x ns) = ⌊x⌋ - ns.sum := by
      rw [← hwhole, hsubs, trunc_intCast, Int.floor_intCast]
    exact ⟨hleft.ge, iff_of_true hleft (.inl hwhole)⟩
  · rcases le_or_gt (ns.sum : ℚ) x with hsum | hsum
    · have hleft : trunc (subs x ns) = ⌊x⌋ - ns.sum := by
        have hns : (0 : ℚ) ≤ ns.sum := Nat.cast_nonneg _
        rw [subs_of_sum_le hx (by linarith) hsum, trunc, if_pos (sub_nonneg.mpr hsum), Int.floor_sub_natCast]
      exact ⟨hleft.ge, iff_of_true hleft (.inr (.inl hsum))⟩
    · obtain ⟨hle, hiff⟩ := trunc_subs_of_lt (.inl hx) hwhole (by omega) hsum
      refine ⟨hle, hiff.trans ⟨fun h => .inr (.inr h), ?_⟩⟩
      rintro (h | h | h)
      · exact absurd h hwhole
      · exact absurd h (not_le.mpr hsum)
      · exact h

end subtract

/-- An integer times a decimal that is made a float -/
def product (n : ℕ) (coef : ℚ) : ℚ := round (round n * round coef)

-- the coefficient is a little less than the decimal
example : product 50 (58 / 100) < 29 := by decide +kernel

theorem product_nonneg (n : ℕ) {coef : ℚ} (hcoef : 0 ≤ coef) : 0 ≤ product n coef :=
  round_nonneg (mul_nonneg (round_nonneg (Nat.cast_nonneg n)) (round_nonneg hcoef))

/-- A number is an integer of any size or a double. -/
inductive Number
  | int (value : ℤ)
  | float (value : ℚ)

namespace Number

def sub : Number → ℕ → Number
  | int value, n => int (value - n)
  | float value, n => float (binary64.sub value n)

def value : Number → ℚ
  | int value => value
  | float value => value

/-- `int()` -/
def to_int : Number → ℤ
  | int value => value
  | float value => trunc value

/-- One after the other -/
def subs (x : Number) (ns : List ℕ) : Number := ns.foldl sub x

@[simp] theorem subs_int (z : ℤ) (ns : List ℕ) : (int z).subs ns = int (z - ns.sum) := by
  induction ns generalizing z with
  | nil => simp [subs]
  | cons n ns ih =>
    rw [subs, List.foldl_cons, sub, ← subs, ih, List.sum_cons, Nat.cast_add]
    congr 1
    ring

@[simp] theorem subs_float (x : ℚ) (ns : List ℕ) : (float x).subs ns = float (binary64.subs x ns) := by
  induction ns generalizing x with
  | nil => rfl
  | cons n ns ih => exact ih _

end Number

end binary64
