import Eda093.Pintos.Timer
import Mathlib.Algebra.Order.Ring.Int

/-! `timer_ticks`, `timer_elapsed`, and the sleeps and delays on `int64_t`, where an overflow is a
fault. -/

namespace Eda093.Pintos

def timerTicks (s : Timer) : Int := s.ticks

def timerElapsed (s : Timer) (before : Int) : Int := timerTicks s - before

def interrupts (es : List Event) : Nat := (es.filter fun e => e matches .interrupt).length

namespace Timer

variable {s : Timer} {t : Nat}

@[simp] lemma setLine_ticks (l : Line) : (s.setLine t l).ticks = s.ticks := rfl

@[simp] lemma unblock_ticks : (s.unblock t).ticks = s.ticks := rfl

@[simp] lemma lockAcquire_ticks (next : Line) : (s.lockAcquire t next).ticks = s.ticks := by
  unfold lockAcquire; split <;> rfl

@[simp] lemma lockRelease_ticks : s.lockRelease.ticks = s.ticks := by
  unfold lockRelease; split <;> rfl

@[simp] lemma runLine_ticks : (s.runLine t).ticks = s.ticks := by
  unfold runLine; dsimp only; split <;> (try split) <;> simp

lemma step_ticks (e : Event) : (s.step e).ticks = s.ticks + interrupts [e] := by
  cases e <;> simp only [step, interrupts] <;> (try split_ifs) <;> simp [timerInterrupt]

lemma run_ticks (es : List Event) : (s.run es).ticks = s.ticks + interrupts es := by
  induction es generalizing s with
  | nil => rfl
  | cons e es ih =>
    have hsplit : interrupts (e :: es) = interrupts [e] + interrupts es := by
      simp only [interrupts, List.filter_cons, List.filter_nil]; split <;> simp [Nat.add_comm]
    rw [run, List.foldl_cons, ← run, ih, step_ticks, hsplit, Nat.add_assoc]

end Timer

lemma timerElapsed_counts_interrupts (s : Timer) (es : List Event) :
    timerElapsed (s.run es) (timerTicks s) = interrupts es := by
  simp only [timerElapsed, timerTicks, Timer.run_ticks]
  omega

structure TimerFreq where
  val : Int
  ge : 19 ≤ val
  le : val ≤ 1000

inductive Fault
  | assertion
  | undefined
  deriving DecidableEq, Repr

def InInt64 (x : Int) : Prop := -2 ^ 63 ≤ x ∧ x < 2 ^ 63

instance : DecidablePred InInt64 := fun x => inferInstanceAs (Decidable (-2 ^ 63 ≤ x ∧ x < 2 ^ 63))

def mul64 (a b : Int) : Except Fault Int :=
  if InInt64 (a * b) then .ok (a * b) else .error .undefined

def div64 (a b : Int) : Except Fault Int :=
  if b ≠ 0 ∧ InInt64 (a.tdiv b) then .ok (a.tdiv b) else .error .undefined

def busyWait (loops : Int) : Except Fault Nat :=
  if loops = -2 ^ 63 then .error .undefined
  else if 0 < loops then (busyWait (loops - 1)).map (· + 1)
  else .ok 0
termination_by loops.toNat

def realTimeDelay (freq : TimerFreq) (loopsPerTick : Nat) (num denom : Int) :
    Except Fault Nat := do
  if denom.tmod 1000 ≠ 0 then throw .assertion
  let loops ← mul64 loopsPerTick num
  let loops ← div64 loops 1000
  let loops ← mul64 loops freq.val
  let loops ← div64 loops (denom.tdiv 1000)
  busyWait loops

inductive Wait
  | sleep (ticks : Int)
  | spin (turns : Nat)
  deriving DecidableEq, Repr

def realTimeSleep (freq : TimerFreq) (loopsPerTick : Nat) (intrOn : Bool) (num denom : Int) :
    Except Fault Wait := do
  let ticks ← mul64 num freq.val
  let ticks ← div64 ticks denom
  if !intrOn then throw .assertion
  if 0 < ticks then pure (.sleep ticks)
  else Wait.spin <$> realTimeDelay freq loopsPerTick num denom

section Callers

variable (freq : TimerFreq) (loopsPerTick : Nat) (intrOn : Bool)

def timerMsleep (ms : Int) : Except Fault Wait := realTimeSleep freq loopsPerTick intrOn ms 1000

def timerUsleep (us : Int) : Except Fault Wait :=
  realTimeSleep freq loopsPerTick intrOn us (1000 * 1000)

def timerNsleep (ns : Int) : Except Fault Wait :=
  realTimeSleep freq loopsPerTick intrOn ns (1000 * 1000 * 1000)

def timerMdelay (ms : Int) : Except Fault Nat := realTimeDelay freq loopsPerTick ms 1000

def timerUdelay (us : Int) : Except Fault Nat := realTimeDelay freq loopsPerTick us (1000 * 1000)

def timerNdelay (ns : Int) : Except Fault Nat :=
  realTimeDelay freq loopsPerTick ns (1000 * 1000 * 1000)

end Callers

def delayLoops (freq : TimerFreq) (loopsPerTick : Nat) (num denom : Int) : Int :=
  ((loopsPerTick * num).tdiv 1000 * freq.val).tdiv (denom.tdiv 1000)

variable {a b : Int}

lemma tdiv_between (hb : 0 < b) : min a 0 ≤ a.tdiv b ∧ a.tdiv b ≤ max a 0 := by
  rcases le_total 0 a with ha | ha
  · rw [Int.tdiv_eq_ediv ha hb.le]
    exact ⟨by simp [Int.ediv_nonneg ha hb.le], le_max_of_le_left (Int.ediv_le_self b ha)⟩
  · have h := Int.ediv_le_self b (Int.neg_nonneg_of_nonpos ha)
    have h₀ := Int.ediv_nonneg (Int.neg_nonneg_of_nonpos ha) hb.le
    have e : a.tdiv b = -((-a) / b) := by
      rw [← Int.tdiv_eq_ediv (Int.neg_nonneg_of_nonpos ha) hb.le, Int.neg_tdiv, Int.neg_neg]
    rw [e, min_eq_left ha, max_eq_right ha]
    omega

lemma mul64_ok (h : InInt64 (a * b)) : mul64 a b = .ok (a * b) := if_pos h

lemma div64_ok (hb : 0 < b) (h : InInt64 a) : div64 a b = .ok (a.tdiv b) := by
  have := tdiv_between (a := a) hb
  unfold InInt64 at h
  exact if_pos ⟨hb.ne', by unfold InInt64; omega⟩

lemma busyWait_ok {loops : Int} (h : -2 ^ 63 < loops) : busyWait loops = .ok loops.toNat := by
  induction loops using busyWait.induct with
  | case1 => exact absurd h (by decide)
  | case2 loops hmin hpos ih =>
    rw [busyWait, if_neg hmin, if_pos hpos, ih (by omega)]
    show Except.ok ((loops - 1).toNat + 1) = _
    congr 1
    omega
  | case3 loops hmin hpos => rw [busyWait, if_neg hmin, if_neg hpos]; congr 1; omega

lemma tdiv_thousand_mul (freq : TimerFreq) (h : InInt64 a) :
    -2 ^ 63 < a.tdiv 1000 * freq.val ∧ a.tdiv 1000 * freq.val < 2 ^ 63 := by
  have hF₀ : 0 ≤ freq.val := by have := freq.ge; omega
  have hp (p : Int) (hp : 0 ≤ p) :
      0 ≤ p / 1000 * freq.val ∧ p / 1000 * freq.val ≤ p / 1000 * 1000 :=
    have hq := Int.ediv_nonneg hp (by decide : (0 : Int) ≤ 1000)
    ⟨Int.mul_nonneg hq hF₀, Int.mul_le_mul_of_nonneg_left freq.le hq⟩
  unfold InInt64 at h
  rcases le_total 0 a with ha | ha
  · rw [Int.tdiv_eq_ediv ha (by decide)]
    have := hp a ha
    omega
  · rw [← Int.neg_neg a, Int.neg_tdiv, Int.tdiv_eq_ediv (by omega) (by decide), Int.neg_mul]
    have := hp (-a) (by omega)
    omega

variable {freq : TimerFreq} {loopsPerTick : Nat} {num denom : Int}

lemma denom_thousands (hd : 0 < denom) (hk : denom % 1000 = 0) :
    denom.tmod 1000 = 0 ∧ denom.tdiv 1000 = denom / 1000 ∧ denom = 1000 * (denom / 1000) ∧
      0 < denom / 1000 := by
  rw [Int.tmod_eq_emod hd.le (by decide), Int.tdiv_eq_ediv hd.le (by decide)]
  omega

lemma realTimeDelay_ok (hd : 0 < denom) (hk : denom % 1000 = 0)
    (h : InInt64 (loopsPerTick * num)) :
    realTimeDelay freq loopsPerTick num denom =
      .ok (delayLoops freq loopsPerTick num denom).toNat := by
  obtain ⟨hk', hdiv, -, hd'⟩ := denom_thousands hd hk
  have hc := tdiv_thousand_mul freq h
  have hc' : InInt64 ((loopsPerTick * num).tdiv 1000 * freq.val) := ⟨hc.1.le, hc.2⟩
  have hT := tdiv_between (a := (loopsPerTick * num).tdiv 1000 * freq.val) (hdiv ▸ hd')
  have hT' : -2 ^ 63 < delayLoops freq loopsPerTick num denom := by
    unfold delayLoops InInt64 at *
    omega
  simp only [realTimeDelay, hk', mul64_ok h, div64_ok (by decide : (0 : Int) < 1000) h,
    mul64_ok hc', div64_ok (hdiv ▸ hd') hc', bind, Except.bind, ne_eq, not_true_eq_false, if_false]
  exact busyWait_ok hT'

lemma realTimeDelay_overflow (hk : denom % 1000 = 0) (hd : 0 < denom)
    (h : ¬ InInt64 (loopsPerTick * num)) :
    realTimeDelay freq loopsPerTick num denom = .error .undefined := by
  simp [realTimeDelay, (denom_thousands hd hk).1, mul64, h, bind, Except.bind, pure, Except.pure]

lemma delayLoops_bounds (hd : 0 < denom) (hk : denom % 1000 = 0) :
    ((delayLoops freq loopsPerTick num denom).toNat : Int) * denom ≤
        max 0 (loopsPerTick * num * freq.val) ∧
      loopsPerTick * num * freq.val <
        ((delayLoops freq loopsPerTick num denom).toNat + 1) * denom + 1000 * freq.val := by
  obtain ⟨-, hdiv, hden, hd'⟩ := denom_thousands hd hk
  have hF : 0 < freq.val := by have := freq.ge; omega
  unfold delayLoops
  rw [hdiv]
  set d := denom / 1000
  set X : Int := loopsPerTick * num
  rcases le_total 0 X with hX | hX
  · rw [Int.tdiv_eq_ediv hX (by decide)]
    have hc : 0 ≤ X / 1000 * freq.val := Int.mul_nonneg (Int.ediv_nonneg hX (by decide)) hF.le
    rw [Int.tdiv_eq_ediv hc hd'.le, Int.toNat_of_nonneg (Int.ediv_nonneg hc hd'.le)]
    set T := X / 1000 * freq.val / d
    have e₁ := Int.ediv_mul_le (X / 1000 * freq.val) hd'.ne'
    have e₂ := Int.lt_ediv_add_one_mul_self (X / 1000 * freq.val) hd'
    have e₃ := Int.mul_le_mul_of_nonneg_right
      (Int.ediv_mul_le X (by decide : (1000 : Int) ≠ 0)) hF.le
    have e₄ := Int.mul_lt_mul_of_pos_right
      (Int.lt_ediv_add_one_mul_self X (by decide : (0 : Int) < 1000)) hF
    refine ⟨le_max_of_le_right ?_, ?_⟩
    · calc T * denom = T * d * 1000 := by rw [hden, Int.mul_comm 1000 d, Int.mul_assoc]
        _ ≤ X / 1000 * freq.val * 1000 := Int.mul_le_mul_of_nonneg_right e₁ (by decide)
        _ = X / 1000 * 1000 * freq.val := Int.mul_right_comm _ _ _
        _ ≤ X * freq.val := e₃
    · calc X * freq.val < (X / 1000 + 1) * 1000 * freq.val := e₄
        _ = X / 1000 * freq.val * 1000 + 1000 * freq.val := by
          rw [Int.add_mul, Int.add_mul, Int.one_mul, Int.mul_right_comm]
        _ < (T + 1) * d * 1000 + 1000 * freq.val :=
          Int.add_lt_add_right (Int.mul_lt_mul_of_pos_right e₂ (by decide)) _
        _ = (T + 1) * denom + 1000 * freq.val := by rw [hden, Int.mul_comm 1000 d, Int.mul_assoc]
  · have hq := (tdiv_between (a := X) (by decide : (0 : Int) < 1000)).2
    rw [max_eq_right hX] at hq
    have hc : X.tdiv 1000 * freq.val ≤ 0 := by simpa using Int.mul_le_mul_of_nonneg_right hq hF.le
    have hT := (tdiv_between (a := X.tdiv 1000 * freq.val) hd').2
    rw [max_eq_right hc] at hT
    have hXF : X * freq.val ≤ 0 := by simpa using Int.mul_le_mul_of_nonneg_right hX hF.le
    rw [Int.toNat_eq_zero.mpr hT]
    exact ⟨by simp, by rw [Nat.cast_zero, Int.zero_add, Int.one_mul]; omega⟩

theorem realTimeDelay_spins (freq : TimerFreq) (loopsPerTick : Nat) (num denom : Int)
    (hd : 0 < denom) (hk : denom % 1000 = 0) :
    (InInt64 (loopsPerTick * num) → ∃ turns : Nat,
        realTimeDelay freq loopsPerTick num denom = .ok turns ∧
        turns * denom ≤ max 0 (loopsPerTick * num * freq.val) ∧
        loopsPerTick * num * freq.val < (turns + 1) * denom + 1000 * freq.val) ∧
      (¬ InInt64 (loopsPerTick * num) →
        realTimeDelay freq loopsPerTick num denom = .error .undefined) :=
  ⟨fun h => ⟨_, realTimeDelay_ok hd hk h, delayLoops_bounds hd hk⟩,
    realTimeDelay_overflow hk hd⟩

def freq100 : TimerFreq := ⟨100, by decide, by decide⟩

theorem mdelay_spins :
    (0 : Int) < 1000 ∧ (1000 : Int) % 1000 = 0 ∧
      (InInt64 ((4000000 : Nat) * 20) → ∃ turns : Nat,
        realTimeDelay freq100 4000000 20 1000 = .ok turns ∧
        (turns : Int) * 1000 ≤ max 0 ((4000000 : Nat) * 20 * freq100.val) ∧
        (4000000 : Nat) * 20 * freq100.val < ((turns : Int) + 1) * 1000 + 1000 * freq100.val) ∧
      (¬ InInt64 ((4000000 : Nat) * 20) →
        realTimeDelay freq100 4000000 20 1000 = .error .undefined) :=
  ⟨by decide, by decide, realTimeDelay_spins freq100 4000000 20 1000 (by decide) (by decide)⟩

lemma realTimeSleep_eq (hd : 0 < denom) (hf : InInt64 (num * freq.val)) :
    realTimeSleep freq loopsPerTick true num denom =
      if 0 < (num * freq.val).tdiv denom then .ok (.sleep ((num * freq.val).tdiv denom))
      else Wait.spin <$> realTimeDelay freq loopsPerTick num denom := by
  simp [realTimeSleep, mul64_ok hf, div64_ok hd hf, bind, Except.bind, pure, Except.pure]

lemma turns_eq_zero {turns : Nat} (hd : 0 < denom) (h : (turns : Int) * denom ≤ 0) : turns = 0 := by
  by_contra hne
  exact absurd h (not_le.mpr (Int.mul_pos (by omega) hd))

lemma inInt64_of_short (hl : loopsPerTick < 2 ^ 32) (h32 : denom < 2 ^ 31) (hn : 0 ≤ num)
    (hlt : num * freq.val < denom) : InInt64 (loopsPerTick * num) := by
  have hnum : num ≤ num * freq.val := by
    simpa using Int.mul_le_mul_of_nonneg_left (show 1 ≤ freq.val by have := freq.ge; omega) hn
  have hX := Int.mul_le_mul_of_nonneg_left (show num ≤ 2 ^ 31 by omega)
    (Int.ofNat_nonneg loopsPerTick)
  have hX₀ := Int.mul_nonneg (Int.ofNat_nonneg loopsPerTick) hn
  unfold InInt64
  omega

lemma lt_loopsPerTick {turns : Nat} (hd : 0 < denom) (hlt : num * freq.val < denom)
    (hle : (turns : Int) * denom ≤ loopsPerTick * num * freq.val) :
    turns < loopsPerTick ∨ turns = 0 := by
  rcases Nat.eq_zero_or_pos loopsPerTick with h0 | h0
  · subst h0
    rw [Nat.cast_zero, Int.zero_mul, Int.zero_mul] at hle
    exact .inr (turns_eq_zero hd hle)
  · have hlt' : (loopsPerTick : Int) * num * freq.val < loopsPerTick * denom := by
      rw [Int.mul_assoc]
      exact Int.mul_lt_mul_of_pos_left hlt (by omega)
    exact .inl (Int.ofNat_lt.mp (Int.lt_of_mul_lt_mul_right (hle.trans_lt hlt') hd.le))

theorem realTimeSleep_rounds_down (freq : TimerFreq) (loopsPerTick : Nat) (num denom : Int)
    (hl : loopsPerTick < 2 ^ 32) (hd : 0 < denom) (hk : denom % 1000 = 0) (h32 : denom < 2 ^ 31)
    (hn : 0 ≤ num) (hf : InInt64 (num * freq.val)) :
    (denom ≤ num * freq.val → ∃ ticks,
        realTimeSleep freq loopsPerTick true num denom = .ok (.sleep ticks) ∧
        ticks * denom ≤ num * freq.val ∧ num * freq.val < (ticks + 1) * denom) ∧
      (num * freq.val < denom → ∃ turns : Nat,
        realTimeSleep freq loopsPerTick true num denom = .ok (.spin turns) ∧
        turns * denom ≤ loopsPerTick * num * freq.val ∧ (turns < loopsPerTick ∨ turns = 0)) := by
  have hF : 1 ≤ freq.val := by have := freq.ge; omega
  have hx : 0 ≤ num * freq.val := Int.mul_nonneg hn (by omega)
  rw [realTimeSleep_eq hd hf, Int.tdiv_eq_ediv hx hd.le]
  constructor
  · intro hle
    have hpos : 0 < num * freq.val / denom := (Int.le_ediv_iff_mul_le hd).mpr (by omega)
    exact ⟨_, if_pos hpos, Int.ediv_mul_le _ hd.ne', Int.lt_ediv_add_one_mul_self _ hd⟩
  · intro hlt
    have hin := inInt64_of_short hl h32 hn hlt
    rw [Int.ediv_eq_zero_of_lt hx hlt, if_neg (lt_irrefl 0), realTimeDelay_ok hd hk hin]
    obtain ⟨hle, -⟩ := @delayLoops_bounds freq loopsPerTick num denom hd hk
    rw [max_eq_right (Int.mul_nonneg (Int.mul_nonneg (by omega) hn) (by omega))] at hle
    exact ⟨_, rfl, hle, lt_loopsPerTick hd hlt hle⟩

theorem msleep_rounds_down :
    (4000000 : Nat) < 2 ^ 32 ∧ (0 : Int) < 1000 ∧ (1000 : Int) % 1000 = 0 ∧ (1000 : Int) < 2 ^ 31 ∧
      (0 : Int) ≤ 25 ∧ InInt64 (25 * freq100.val) ∧
      ((1000 : Int) ≤ 25 * freq100.val → ∃ ticks,
        realTimeSleep freq100 4000000 true 25 1000 = .ok (.sleep ticks) ∧
        ticks * 1000 ≤ 25 * freq100.val ∧ 25 * freq100.val < (ticks + 1) * 1000) ∧
      (25 * freq100.val < 1000 → ∃ turns : Nat,
        realTimeSleep freq100 4000000 true 25 1000 = .ok (.spin turns) ∧
        (turns : Int) * 1000 ≤ ((4000000 : Nat) : Int) * 25 * freq100.val ∧
        (turns < 4000000 ∨ turns = 0)) :=
  ⟨by decide, by decide, by decide, by decide, by decide, by decide,
    realTimeSleep_rounds_down freq100 4000000 25 1000 (by decide) (by decide) (by decide)
      (by decide) (by decide) (by decide)⟩

theorem realTimeSleep_nonpositive (freq : TimerFreq) (loopsPerTick : Nat) (num denom : Int)
    (hd : 0 < denom) (hk : denom % 1000 = 0) (hn : num ≤ 0) (hf : InInt64 (num * freq.val)) :
    realTimeSleep freq loopsPerTick true num denom =
      if InInt64 (loopsPerTick * num) then .ok (.spin 0) else .error .undefined := by
  have hF : 0 < freq.val := by have := freq.ge; omega
  have hx : num * freq.val ≤ 0 := by simpa using Int.mul_le_mul_of_nonneg_right hn hF.le
  have ht := (tdiv_between (a := num * freq.val) hd).2
  rw [max_eq_right hx] at ht
  rw [realTimeSleep_eq hd hf, if_neg (not_lt.mpr ht)]
  split_ifs with hin
  · obtain ⟨hle, -⟩ := @delayLoops_bounds freq loopsPerTick num denom hd hk
    have hX : (loopsPerTick : Int) * num * freq.val ≤ 0 := by
      rw [Int.mul_assoc]
      exact Int.mul_nonpos_of_nonneg_of_nonpos (by omega) hx
    rw [max_eq_left hX] at hle
    rw [realTimeDelay_ok hd hk hin, turns_eq_zero hd hle]
    rfl
  · rw [realTimeDelay_overflow hk hd hin]
    rfl

theorem msleep_far_negative_undefined :
    (0 : Int) < 1000 ∧ (1000 : Int) % 1000 = 0 ∧ (-2 ^ 40 : Int) ≤ 0 ∧
      InInt64 (-2 ^ 40 * freq100.val) ∧
      realTimeSleep freq100 (2 ^ 31) true (-2 ^ 40) 1000 =
        if InInt64 (((2 ^ 31 : Nat) : Int) * -2 ^ 40) then .ok (.spin 0) else .error .undefined :=
  ⟨by decide, by decide, by decide, by decide,
    realTimeSleep_nonpositive freq100 (2 ^ 31) (-2 ^ 40) 1000 (by decide) (by decide) (by decide)
      (by decide)⟩

example : timerMsleep freq100 (2 ^ 31) true (-2 ^ 40) = .error .undefined := rfl

end Eda093.Pintos
