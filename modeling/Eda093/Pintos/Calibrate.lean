import Mathlib.Algebra.BigOperators.Group.List
import Mathlib.Tactic.Ring

/-! `timer_calibrate`, with `too_many_loops` a parameter of the machine. -/

namespace Eda093.Pintos

def shiftLeft32 (x : Nat) : Nat := (x <<< 1) % 2 ^ 32

def approximate (tooManyLoops : Nat → Bool) : Nat → Nat → Option Nat
  | 0, _ => none
  | fuel + 1, loopsPerTick =>
    if !tooManyLoops (shiftLeft32 loopsPerTick) then
      if shiftLeft32 loopsPerTick ≠ 0 then approximate tooManyLoops fuel (shiftLeft32 loopsPerTick)
      else none
    else some loopsPerTick

def refine (tooManyLoops : Nat → Bool) (highBit : Nat) : Nat → Nat → Nat → Option Nat
  | 0, _, _ => none
  | fuel + 1, testBit, loopsPerTick =>
    if testBit ≠ highBit >>> 10 then
      refine tooManyLoops highBit fuel (testBit >>> 1)
        (if !tooManyLoops (highBit ||| testBit) then loopsPerTick ||| testBit else loopsPerTick)
    else some loopsPerTick

def timerCalibrate (tooManyLoops : Nat → Bool) (fuel : Nat) : Option Nat := do
  let loopsPerTick ← approximate tooManyLoops fuel (1 <<< 10)
  let highBit := loopsPerTick
  refine tooManyLoops highBit fuel (highBit >>> 1) loopsPerTick

variable {tooManyLoops : Nat → Bool}

lemma shiftLeft32_two_pow {m : Nat} (hm : m ≤ 30) : shiftLeft32 (2 ^ m) = 2 ^ (m + 1) := by
  rw [shiftLeft32, Nat.shiftLeft_eq, ← Nat.pow_succ]
  exact Nat.mod_eq_of_lt (Nat.pow_lt_pow_right (by decide) (by omega))

lemma two_pow_shiftRight (e i : Nat) : 2 ^ (e + i) >>> i = 2 ^ e := by
  rw [Nat.shiftRight_eq_div_pow, Nat.pow_add, Nat.mul_div_cancel _ (Nat.two_pow_pos i)]

lemma mul_or_two_pow (e a : Nat) : 2 ^ (e + 1) * a ||| 2 ^ e = 2 ^ (e + 1) * a + 2 ^ e :=
  (Nat.mul_add_lt_is_or (Nat.pow_lt_pow_right (by decide) (Nat.lt_succ_self e)) a).symm

lemma approximate_two_pow (h31 : tooManyLoops (2 ^ 31) = true) :
    ∀ fuel m, m ≤ 30 → 31 ≤ m + fuel →
      ∃ k, m ≤ k ∧ k ≤ 30 ∧ (∀ i, m ≤ i → i < k → tooManyLoops (2 ^ (i + 1)) = false) ∧
        tooManyLoops (2 ^ (k + 1)) = true ∧ approximate tooManyLoops fuel (2 ^ m) = some (2 ^ k)
  | 0, m, hm, hf => absurd hf (by omega)
  | fuel + 1, m, hm, hf => by
    cases hp : tooManyLoops (2 ^ (m + 1))
    · have hm' : m + 1 ≤ 30 := by
        by_contra h
        obtain rfl : m = 30 := by omega
        exact Bool.false_ne_true (hp.symm.trans h31)
      obtain ⟨k, hmk, hk, hfalse, htrue, hrun⟩ := approximate_two_pow h31 fuel (m + 1) hm' (by omega)
      refine ⟨k, by omega, hk, fun i hi hik => ?_, htrue, ?_⟩
      · rcases Nat.eq_or_lt_of_le hi with rfl | hi
        exacts [hp, hfalse i hi hik]
      · simp [approximate, shiftLeft32_two_pow hm, hp, hrun]
    · exact ⟨m, le_rfl, hm, fun i hi hik => absurd hik (by omega), hp,
        by simp [approximate, shiftLeft32_two_pow hm, hp]⟩

lemma refine_two_pow (b : Nat) :
    ∀ n fuel a, n ≤ 9 → n < fuel →
      refine tooManyLoops (2 ^ (b + 10)) fuel (2 ^ (b + n)) (2 ^ (b + n + 1) * a) =
        some (2 ^ (b + n + 1) * a + ((List.range n).map fun m =>
          if tooManyLoops (2 ^ (b + 10) + 2 ^ (b + (m + 1))) then 0 else 2 ^ (b + (m + 1))).sum)
  | _, 0, _, _, hf => absurd hf (Nat.not_lt_zero _)
  | 0, fuel + 1, a, _, _ => by
    simp [refine, two_pow_shiftRight b 10]
  | n + 1, fuel + 1, a, hn, hf => by
    have hne : 2 ^ (b + (n + 1)) ≠ 2 ^ (b + 10) >>> 10 := by
      rw [two_pow_shiftRight]
      exact (Nat.pow_lt_pow_right (by decide) (by omega)).ne'
    have hhigh : 2 ^ (b + 10) = 2 ^ (b + (n + 1) + 1) * 2 ^ (8 - n) := by
      rw [← Nat.pow_add]; congr 1; omega
    have hbit : 2 ^ (b + 10) ||| 2 ^ (b + (n + 1)) = 2 ^ (b + 10) + 2 ^ (b + (n + 1)) := by
      rw [hhigh, mul_or_two_pow]
    have hnext : 2 ^ (b + (n + 1)) >>> 1 = 2 ^ (b + n) := two_pow_shiftRight (b + n) 1
    have hlow : 2 ^ (b + (n + 1) + 1) * a = 2 ^ (b + n + 1) * (2 * a) := by
      rw [Nat.pow_succ, Nat.mul_assoc]; rfl
    rw [refine, if_pos hne, hnext, hbit, List.range_succ, List.map_append, List.sum_append, hlow]
    cases hp : tooManyLoops (2 ^ (b + 10) + 2 ^ (b + (n + 1)))
    · have hadd : 2 ^ (b + n + 1) * (2 * a) ||| 2 ^ (b + (n + 1)) = 2 ^ (b + n + 1) * (2 * a + 1) := by
        rw [← hlow, mul_or_two_pow]; ring
      rw [Bool.not_false, if_pos rfl, hadd, refine_two_pow b n fuel _ (by omega) (by omega)]
      simp only [List.map_cons, List.map_nil, List.sum_cons, List.sum_nil, hp, Bool.false_eq_true,
        if_false, Option.some.injEq]
      ring
    · rw [Bool.not_true, if_neg (by decide), refine_two_pow b n fuel _ (by omega) (by omega)]
      simp [hp]

def tickOf1536 (loops : Nat) : Bool := 1537 ≤ loops

theorem calibration_overshoots_tick :
    timerCalibrate tickOf1536 21 = some 2046 ∧ tickOf1536 2046 = true ∧
      tickOf1536 1536 = false ∧ tickOf1536 1538 = true := by
  decide

theorem timerCalibrate_keeps_bits_alone (tooManyLoops : Nat → Bool)
    (hmono : ∀ a b, a ≤ b → b < 2 ^ 32 → tooManyLoops a = true → tooManyLoops b = true)
    (h10 : tooManyLoops (2 ^ 10) = false) (h31 : tooManyLoops (2 ^ 31) = true)
    (fuel : Nat) (hfuel : 21 ≤ fuel) :
    ∃ k, 10 ≤ k ∧ k ≤ 30 ∧ tooManyLoops (2 ^ k) = false ∧
      (∀ j, k < j → j ≤ 31 → tooManyLoops (2 ^ j) = true) ∧
      timerCalibrate tooManyLoops fuel = some (2 ^ k + ((List.range 9).map fun m =>
        if tooManyLoops (2 ^ k + 2 ^ (k - 9 + m)) then 0 else 2 ^ (k - 9 + m)).sum) := by
  obtain ⟨k, hk10, hk, hfalse, htrue, hrun⟩ :=
    approximate_two_pow h31 fuel 10 (by omega) (by omega)
  obtain ⟨b, rfl⟩ : ∃ b, k = b + 10 := ⟨k - 10, by omega⟩
  refine ⟨b + 10, hk10, hk, ?_, fun j hj hj31 => ?_, ?_⟩
  · rcases Nat.eq_zero_or_pos b with rfl | hb
    exacts [h10, hfalse (b + 9) (by omega) (by omega)]
  · exact hmono _ _ (Nat.pow_le_pow_right (by decide) hj)
      (Nat.pow_lt_pow_right (by decide) (by omega)) htrue
  · have hexp : ∀ m, b + 10 - 9 + m = b + (m + 1) := fun m => by omega
    have hrefine := @refine_two_pow tooManyLoops b 9 fuel 1 le_rfl (by omega)
    rw [Nat.mul_one] at hrefine
    simp only [timerCalibrate, Nat.one_shiftLeft, hrun, Option.bind_eq_bind, Option.some_bind,
      two_pow_shiftRight (b + 9) 1, hexp]
    exact hrefine

theorem tick_of_1536_keeps_bits_alone :
    ∃ k, 10 ≤ k ∧ k ≤ 30 ∧ tickOf1536 (2 ^ k) = false ∧
      (∀ j, k < j → j ≤ 31 → tickOf1536 (2 ^ j) = true) ∧
      timerCalibrate tickOf1536 21 = some (2 ^ k + ((List.range 9).map fun m =>
        if tickOf1536 (2 ^ k + 2 ^ (k - 9 + m)) then 0 else 2 ^ (k - 9 + m)).sum) :=
  timerCalibrate_keeps_bits_alone tickOf1536
    (fun a b hab _ ha => by simp only [tickOf1536, decide_eq_true_eq] at ha ⊢; omega)
    rfl rfl 21 le_rfl

end Eda093.Pintos
