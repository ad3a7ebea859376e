import Eda093.Pintos.Timer
import Mathlib.Data.List.Nodup

/-! What `check_alarm` unblocks: every due sleeper, and a lock waiter whose alarm is still listed. -/

namespace Eda093.Pintos

open Timer

def Line.listed : Line → Bool
  | .release | .block | .wake | .reacquire | .remove => true
  | _ => false

def Line.armed : Line → Bool
  | .acquire | .push | .release | .block | .wake | .reacquire | .remove | .finish => true
  | _ => false

def Line.waits : Line → Bool
  | .elsewhere | .acquire | .wake | .reacquire => true
  | _ => false

structure ThreadOk (alarms : List Alarm) (t : Nat) (th : Thread) : Prop where
  listed : th.line.listed → ⟨t, th.alarmTime⟩ ∈ alarms
  armed : th.line.armed → 0 < th.sleepTicks ∧ th.alarmTime = uint32 (th.start + th.sleepTicks)
  blocked : th.blocked → th.line.waits

structure Inv (s : Timer) : Prop where
  threads : ∀ t, ThreadOk s.alarmList t (s.threads t)
  nodup : (s.alarmList.map Alarm.tid).Nodup
  owner : ∀ a ∈ s.alarmList,
    (s.threads a.tid).line.listed ∧ (s.threads a.tid).alarmTime = a.alarmTime

variable {s : Timer} {t : Nat}

lemma Inv.setThread (h : Inv s) {th : Thread} (hth : ThreadOk s.alarmList t th)
    (hown : (s.threads t).line.listed → th.line.listed ∧ th.alarmTime = (s.threads t).alarmTime) :
    Inv (s.setThread t th) where
  threads x := by
    simp only [setThread_threads, setThread_alarmList]
    split_ifs with hx
    · exact hx ▸ hth
    · exact h.threads x
  nodup := h.nodup
  owner a ha := by
    simp only [setThread_threads]
    split_ifs with hx
    · obtain ⟨hl, ht⟩ := h.owner a ha
      rw [hx] at hl ht
      exact ⟨(hown hl).1, (hown hl).2.trans ht⟩
    · exact h.owner a ha

lemma Inv.setLine (h : Inv s) {l : Line} (hl : l.listed = (s.threads t).line.listed)
    (ha : l.armed → (s.threads t).line.armed) (hb : (s.threads t).blocked = false) :
    Inv (s.setLine t l) :=
  h.setThread ⟨fun h' => (h.threads t).listed (hl ▸ h'), fun h' => (h.threads t).armed (ha h'),
    fun h' => by simp [hb] at h'⟩ fun h' => ⟨hl ▸ h', rfl⟩

lemma Inv.unblocked (h : Inv s) {s' : Timer} (hl : s'.alarmList = s.alarmList)
    (ht : ∀ x, s'.threads x = s.threads x ∨ s'.threads x = { s.threads x with blocked := false }) :
    Inv s' where
  threads x := by
    rw [hl]
    rcases ht x with e | e <;> rw [e]
    exacts [h.threads x, ⟨(h.threads x).listed, (h.threads x).armed, fun h' => absurd h' Bool.false_ne_true⟩]
  nodup := hl ▸ h.nodup
  owner a ha := by
    rw [hl] at ha
    rcases ht a.tid with e | e <;> rw [e]
    exacts [h.owner a ha, h.owner a ha]

lemma unblock_threads (w x : Nat) :
    (s.unblock w).threads x = s.threads x ∨ (s.unblock w).threads x = { s.threads x with blocked := false } := by
  by_cases hx : x = w <;> simp [Timer.unblock, hx]

lemma lockRelease_threads (x : Nat) : s.lockRelease.threads x = s.threads x ∨
    s.lockRelease.threads x = { s.threads x with blocked := false } := by
  unfold lockRelease
  split
  exacts [.inl rfl, unblock_threads _ x]

lemma lockRelease_alarmList : s.lockRelease.alarmList = s.alarmList := by
  unfold lockRelease unblock; split <;> rfl

lemma lockRelease_line (x : Nat) : (s.lockRelease.threads x).line = (s.threads x).line := by
  rcases lockRelease_threads (s := s) x with e | e <;> rw [e]

lemma lockRelease_blocked (hb : (s.threads t).blocked = false) :
    (s.lockRelease.threads t).blocked = false := by
  rcases lockRelease_threads (s := s) t with e | e <;> rw [e]
  exact hb

lemma Inv.unblock (h : Inv s) (w : Nat) : Inv (s.unblock w) := h.unblocked rfl (unblock_threads w)

lemma Inv.lockRelease (h : Inv s) : Inv s.lockRelease :=
  h.unblocked lockRelease_alarmList lockRelease_threads

lemma Inv.timerInterrupt (h : Inv s) : Inv s.timerInterrupt :=
  h.unblocked rfl fun x => by
    simp only [Timer.timerInterrupt]
    split_ifs
    exacts [.inr rfl, .inl rfl]

lemma Inv.lockAcquire (h : Inv s) {next : Line} (hw : (s.threads t).line.waits)
    (hl : next.listed = (s.threads t).line.listed) (ha : next.armed → (s.threads t).line.armed)
    (hb : (s.threads t).blocked = false) : Inv (s.lockAcquire t next) := by
  unfold Timer.lockAcquire
  split
  · exact Inv.setLine (s := { s with holder := some t }) ⟨h.threads, h.nodup, h.owner⟩ hl ha hb
  · exact Inv.setThread (s := { s with waiters := s.waiters ++ [t] }) ⟨h.threads, h.nodup, h.owner⟩
      ⟨(h.threads t).listed, (h.threads t).armed, fun _ => hw⟩ fun h' => ⟨h', rfl⟩

lemma Inv.push (h : Inv s) (hl : (s.threads t).line = .push) (hb : (s.threads t).blocked = false) :
    Inv ({ s with alarmList := s.alarmList ++ [Alarm.mk t (s.threads t).alarmTime] }.setLine t .release) := by
  have hnot : ∀ a ∈ s.alarmList, a.tid ≠ t := fun a ha he => by
    simpa [he, hl, Line.listed] using (h.owner a ha).1
  refine ⟨fun x => ?_, ?_, fun a ha => ?_⟩
  · simp only [Timer.setLine, setThread_threads, setThread_alarmList]
    split_ifs with hx
    · subst hx
      exact ⟨fun _ => List.mem_append_right _ (List.mem_singleton_self _),
        fun _ => (h.threads x).armed (by simp [hl, Line.armed]), fun h' => by simp [hb] at h'⟩
    · exact ⟨fun h' => List.mem_append_left _ ((h.threads x).listed h'), (h.threads x).armed,
        (h.threads x).blocked⟩
  · simp only [Timer.setLine, setThread_alarmList, List.map_append, List.map_cons, List.map_nil]
    rw [List.nodup_append_comm]
    exact List.nodup_cons.2 ⟨by simpa using hnot, h.nodup⟩
  · simp only [Timer.setLine, setThread_alarmList, List.mem_append, List.mem_singleton] at ha
    simp only [Timer.setLine, setThread_threads]
    rcases ha with ha | rfl
    · rw [if_neg (hnot a ha)]
      exact h.owner a ha
    · rw [if_pos rfl]
      exact ⟨rfl, rfl⟩

lemma Inv.remove (h : Inv s) (hl : (s.threads t).line = .remove) (hb : (s.threads t).blocked = false) :
    Inv ({ s with alarmList := s.alarmList.erase (Alarm.mk t (s.threads t).alarmTime) }.setLine t .finish) := by
  have hmem := (h.threads t).listed (by simp [hl, Line.listed])
  have hnd : s.alarmList.Nodup := h.nodup.of_map _
  have hother : ∀ a ∈ s.alarmList.erase (Alarm.mk t (s.threads t).alarmTime), a ∈ s.alarmList ∧ a.tid ≠ t :=
    fun a ha => by
      obtain ⟨hne, ha⟩ := hnd.mem_erase_iff.1 ha
      exact ⟨ha, fun he => hne (List.inj_on_of_nodup_map h.nodup ha hmem he)⟩
  refine ⟨fun x => ?_, (List.Sublist.map _ (List.erase_sublist _ _)).nodup h.nodup, fun a ha => ?_⟩
  · simp only [Timer.setLine, setThread_threads, setThread_alarmList]
    split_ifs with hx
    · subst hx
      exact ⟨fun h' => by simp [Line.listed] at h', fun _ => (h.threads x).armed (by simp [hl, Line.armed]),
        fun h' => by simp [hb] at h'⟩
    · exact ⟨fun h' => (List.mem_erase_of_ne fun he => hx (congrArg Alarm.tid he)).2
        ((h.threads x).listed h'), (h.threads x).armed, (h.threads x).blocked⟩
  · obtain ⟨ha, hne⟩ := hother a ha
    simp only [Timer.setLine, setThread_threads, if_neg hne]
    exact h.owner a ha

lemma Inv.runLine (h : Inv s) (hb : (s.threads t).blocked = false) : Inv (s.runLine t) := by
  have ht := h.threads t
  unfold Timer.runLine
  dsimp only
  split <;> rename_i hl
  · exact h
  · exact h.setLine (by simp [hl, Line.listed]) (by simp [Line.armed]) hb
  · split_ifs with hn
    · exact h.setLine (by simp [hl, Line.listed]) (by simp [Line.armed]) hb
    · exact h.setThread ⟨by simp [Line.listed], fun _ => ⟨by dsimp only; omega, rfl⟩,
        fun h' => by simp [hb] at h'⟩ (by simp [hl, Line.listed])
  · exact h.lockAcquire (by simp [hl, Line.waits]) (by simp [hl, Line.listed])
      (by simp [hl, Line.armed]) hb
  · exact h.push hl hb
  · exact h.lockRelease.setLine (by simp [lockRelease_line, hl, Line.listed])
      (by simp [lockRelease_line, hl, Line.armed]) (lockRelease_blocked hb)
  · exact h.setThread ⟨fun _ => ht.listed (by simp [hl, Line.listed]),
      fun _ => ht.armed (by simp [hl, Line.armed]), fun _ => rfl⟩ fun _ => ⟨rfl, rfl⟩
  · exact h.setLine (by simp [hl, Line.listed]) (by simp [hl, Line.armed]) hb
  · exact h.lockAcquire (by simp [hl, Line.waits]) (by simp [hl, Line.listed])
      (by simp [hl, Line.armed]) hb
  · exact h.remove hl hb
  · exact h.lockRelease.setLine (by simp [lockRelease_line, hl, Line.listed])
      (by simp [Line.armed]) (lockRelease_blocked hb)

lemma Inv.step (h : Inv s) (e : Event) : Inv (s.step e) := by
  cases e with
  | sleep t n =>
    simp only [Timer.step]
    split_ifs with hc
    exacts [h.setThread ⟨by simp [Line.listed], by simp [Line.armed], by simp [hc.2]⟩
      (by simp [hc.1, Line.listed]), h]
  | run t =>
    simp only [Timer.step]
    split_ifs with hb
    exacts [h, h.runLine (by simpa using hb)]
  | blockElsewhere t =>
    simp only [Timer.step]
    split_ifs with hc
    exacts [h.setThread ⟨by simp [Line.listed], by simp [Line.armed], fun _ => rfl⟩
      (by simp [hc.1, Line.listed]), h]
  | unblockElsewhere t =>
    simp only [Timer.step]
    split_ifs
    exacts [h.unblock t, h]
  | interrupt => exact h.timerInterrupt

lemma Reachable.inv {s : Timer} (hr : Reachable s) : Inv s := by
  induction hr with
  | init => exact ⟨fun _ => ⟨nofun, nofun, nofun⟩, List.nodup_nil, nofun⟩
  | step e _ ih => exact ih.step e

lemma uint32_le {x : Int} (hx : 0 ≤ x) : (uint32 x : Int) ≤ x := by
  unfold uint32
  omega

theorem interrupt_wakes_due_sleepers {s : Timer} (hr : Reachable s) (t : Nat) :
    ¬ ((s.timerInterrupt.threads t).blocked = true ∧ (s.timerInterrupt.threads t).line = .wake ∧
      (s.timerInterrupt.threads t).start + (s.timerInterrupt.threads t).sleepTicks ≤
        s.timerInterrupt.ticks) := by
  rintro ⟨hb, hl, hle⟩
  have ht := hr.inv.threads t
  simp only [Timer.timerInterrupt] at hb hl hle
  split_ifs at hb hl hle with hc
  simp only [checkAlarm, hb, Bool.true_and, due, List.any_eq_true, Bool.and_eq_true,
    beq_iff_eq, decide_eq_true_eq, not_exists, not_and] at hc
  have hmem := ht.listed (by simp [hl, Line.listed])
  obtain ⟨hn, htime⟩ := ht.armed (by simp [hl, Line.armed])
  have hlt : ¬ (s.threads t).alarmTime ≤ s.ticks + 1 := hc _ hmem rfl
  have := uint32_le (x := (s.threads t).start + (s.threads t).sleepTicks) (by omega)
  rw [← htime] at this
  omega

def shortSleepTrace : List Event := [.sleep 0 1, .run 0, .run 0, .run 0, .run 0, .run 0]

theorem short_sleep_woken_when_due :
    ((Timer.init.run shortSleepTrace).threads 0).blocked = true ∧
      ((Timer.init.run shortSleepTrace).threads 0).line = .wake ∧
      ((Timer.init.run shortSleepTrace).threads 0).start +
          ((Timer.init.run shortSleepTrace).threads 0).sleepTicks ≤
        (Timer.init.run shortSleepTrace).timerInterrupt.ticks ∧
      ¬ (((Timer.init.run shortSleepTrace).timerInterrupt.threads 0).blocked = true ∧
        ((Timer.init.run shortSleepTrace).timerInterrupt.threads 0).line = .wake ∧
        ((Timer.init.run shortSleepTrace).timerInterrupt.threads 0).start +
            ((Timer.init.run shortSleepTrace).timerInterrupt.threads 0).sleepTicks ≤
          (Timer.init.run shortSleepTrace).timerInterrupt.ticks) :=
  ⟨by decide, by decide, by decide, interrupt_wakes_due_sleepers (Reachable.init.run _) 0⟩

lemma Inv.unblocks (h : Inv s) (hu : s.unblocks t = true) :
    ((s.threads t).line = .wake ∨ (s.threads t).line = .reacquire) ∧ 0 < (s.threads t).sleepTicks ∧
      uint32 ((s.threads t).start + (s.threads t).sleepTicks) ≤ s.ticks + 1 := by
  simp only [Timer.unblocks, checkAlarm, due, Bool.and_eq_true, List.any_eq_true, beq_iff_eq,
    decide_eq_true_eq] at hu
  obtain ⟨hb, a, ha, rfl, hdue⟩ := hu
  obtain ⟨hl, htime⟩ := h.owner a ha
  have hline : ∀ l : Line, l.waits → l.listed → l = .wake ∨ l = .reacquire := by
    intro l; cases l <;> decide
  have hw := hline _ ((h.threads a.tid).blocked hb) hl
  obtain ⟨hn, harm⟩ := (h.threads a.tid).armed (by rcases hw with e | e <;> simp [e, Line.armed])
  exact ⟨hw, hn, harm ▸ htime ▸ hdue⟩

theorem interrupt_unblocks_only_due {s : Timer} (hr : Reachable s) {t : Nat}
    (hu : s.unblocks t = true) :
    ((s.threads t).line = .wake ∨ (s.threads t).line = .reacquire) ∧ 0 < (s.threads t).sleepTicks ∧
      uint32 ((s.threads t).start + (s.threads t).sleepTicks) ≤ s.ticks + 1 :=
  hr.inv.unblocks hu

theorem short_sleep_unblocked_when_due :
    (((Timer.init.run shortSleepTrace).threads 0).line = .wake ∨
        ((Timer.init.run shortSleepTrace).threads 0).line = .reacquire) ∧
      0 < ((Timer.init.run shortSleepTrace).threads 0).sleepTicks ∧
      uint32 (((Timer.init.run shortSleepTrace).threads 0).start +
        ((Timer.init.run shortSleepTrace).threads 0).sleepTicks) ≤
        (Timer.init.run shortSleepTrace).ticks + 1 :=
  interrupt_unblocks_only_due (Reachable.init.run _) (by decide)

theorem alarm_list_matches_sleepers {s : Timer} (hr : Reachable s) :
    (s.alarmList.map Alarm.tid).Nodup ∧ ∀ a, a ∈ s.alarmList ↔
      (s.threads a.tid).line.listed = true ∧ (s.threads a.tid).alarmTime = a.alarmTime := by
  have h := hr.inv
  refine ⟨h.nodup, fun a => ⟨h.owner a, fun ⟨hl, ht⟩ => ?_⟩⟩
  have := (h.threads a.tid).listed hl
  rwa [ht] at this

theorem short_sleep_alarm_listed :
    ((Timer.init.run shortSleepTrace).alarmList.map Alarm.tid).Nodup ∧
      ∀ a, a ∈ (Timer.init.run shortSleepTrace).alarmList ↔
        ((Timer.init.run shortSleepTrace).threads a.tid).line.listed = true ∧
          ((Timer.init.run shortSleepTrace).threads a.tid).alarmTime = a.alarmTime :=
  alarm_list_matches_sleepers (Reachable.init.run _)

theorem interrupt_never_wakes_early {s : Timer} (hr : Reachable s) {t : Nat}
    (hu : s.unblocks t = true)
    (hwrap : (s.threads t).start + (s.threads t).sleepTicks < 2 ^ 32) :
    (s.threads t).start + (s.threads t).sleepTicks ≤ s.ticks + 1 := by
  obtain ⟨-, hn, hle⟩ := hr.inv.unblocks hu
  have hx : uint32 ((s.threads t).start + (s.threads t).sleepTicks) =
      (s.threads t).start + (s.threads t).sleepTicks := by
    unfold uint32
    omega
  omega

theorem short_sleep_not_woken_early :
    (((Timer.init.run shortSleepTrace).threads 0).start +
        ((Timer.init.run shortSleepTrace).threads 0).sleepTicks < 2 ^ 32) ∧
      ((Timer.init.run shortSleepTrace).threads 0).start +
        ((Timer.init.run shortSleepTrace).threads 0).sleepTicks ≤
        (Timer.init.run shortSleepTrace).ticks + 1 :=
  ⟨by decide, interrupt_never_wakes_early (Reachable.init.run _) (by decide) (by decide)⟩

def lockWaiterTrace : List Event :=
  [.sleep 0 1, .run 0, .run 0, .run 0, .run 0, .run 0, .interrupt,
    .sleep 1 5, .run 1, .run 1, .run 0, .run 0]

theorem alarm_unblocks_lock_waiter :
    Reachable (Timer.init.run lockWaiterTrace) ∧
      ((Timer.init.run lockWaiterTrace).threads 0).line = .reacquire ∧
      ((Timer.init.run lockWaiterTrace).threads 0).blocked = true ∧
      (Timer.init.run lockWaiterTrace).holder = some 1 ∧
      (Timer.init.run lockWaiterTrace).unblocks 0 = true :=
  ⟨Reachable.init.run _, by decide, by decide, by decide, by decide⟩

def longSleepTrace : List Event := [.sleep 0 (2 ^ 32), .run 0, .run 0, .run 0, .run 0, .run 0]

theorem long_sleep_wakes_at_first_tick :
    Reachable (Timer.init.run longSleepTrace) ∧
      ((Timer.init.run longSleepTrace).threads 0).line = .wake ∧
      (Timer.init.run longSleepTrace).unblocks 0 = true ∧
      ((Timer.init.run longSleepTrace).ticks + 1 : Int) <
        ((Timer.init.run longSleepTrace).threads 0).start +
          ((Timer.init.run longSleepTrace).threads 0).sleepTicks :=
  ⟨Reachable.init.run _, by decide, by decide, by decide⟩

end Eda093.Pintos
