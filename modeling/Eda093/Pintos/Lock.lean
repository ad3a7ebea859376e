import Eda093.Pintos.Alarm

/-! `alarm_lock` and the critical sections of `timer_sleep` on `alarm_list`. -/

namespace Eda093.Pintos

open Timer

def Line.holds : Line → Bool
  | .push | .release | .remove | .finish => true
  | _ => false

def Excl (s : Timer) : Prop := ∀ u, (s.threads u).line.holds ↔ s.holder = some u

variable {s : Timer} {t : Nat}

lemma lockAcquire_alarmList (next : Line) : (s.lockAcquire t next).alarmList = s.alarmList := by
  unfold Timer.lockAcquire
  split <;> rfl

lemma lockRelease_holder : s.lockRelease.holder = none := by
  unfold Timer.lockRelease unblock
  split <;> rfl

lemma Excl.setThread (h : Excl s) {th : Thread} (hh : th.line.holds = (s.threads t).line.holds) :
    Excl (s.setThread t th) := fun u => by
  simp only [setThread_threads, setThread_holder]
  split_ifs with hu
  · subst hu
    rw [hh]
    exact h u
  · exact h u

lemma Excl.setLine (h : Excl s) {l : Line} (hh : l.holds = (s.threads t).line.holds) :
    Excl (s.setLine t l) :=
  h.setThread hh

lemma Excl.of_lines (h : Excl s) {s' : Timer} (hl : ∀ u, (s'.threads u).line = (s.threads u).line)
    (hh : s'.holder = s.holder) : Excl s' := fun u => by
  rw [hl, hh]
  exact h u

lemma Excl.lockAcquire (h : Excl s) (hl : (s.threads t).line.holds = false) {next : Line}
    (hn : next.holds = true) : Excl (s.lockAcquire t next) := by
  unfold Timer.lockAcquire
  split
  · next hfree =>
    intro u
    simp only [Timer.setLine, setThread_threads, setThread_holder]
    split_ifs with hu
    · subst hu
      simp [hn]
    · rw [h u, hfree]
      simp [Ne.symm hu]
  · exact Excl.setThread (s := { s with waiters := s.waiters ++ [t] }) h rfl

lemma Excl.lockRelease (h : Excl s) (hl : (s.threads t).line.holds = true) {next : Line}
    (hn : next.holds = false) : Excl (s.lockRelease.setLine t next) := by
  have ht : s.holder = some t := (h t).1 hl
  intro u
  simp only [Timer.setLine, setThread_threads, setThread_holder, lockRelease_holder]
  split_ifs with hu
  · subst hu
    simp [hn]
  · rw [lockRelease_line, h u, ht]
    simp [Ne.symm hu]

lemma Excl.runLine (h : Excl s) (t : Nat) : Excl (s.runLine t) := by
  unfold Timer.runLine
  dsimp only
  split <;> rename_i hl
  · exact h
  · exact h.setLine (by simp [hl, Line.holds])
  · split_ifs
    exacts [h.setLine (by simp [hl, Line.holds]), h.setThread (by simp [hl, Line.holds])]
  · exact h.lockAcquire (by simp [hl, Line.holds]) rfl
  · exact Excl.setLine (s := { s with alarmList := _ }) h (by simp [hl, Line.holds])
  · exact h.lockRelease (by simp [hl, Line.holds]) rfl
  · exact h.setThread (by simp [hl, Line.holds])
  · exact h.setLine (by simp [hl, Line.holds])
  · exact h.lockAcquire (by simp [hl, Line.holds]) rfl
  · exact Excl.setLine (s := { s with alarmList := _ }) h (by simp [hl, Line.holds])
  · exact h.lockRelease (by simp [hl, Line.holds]) rfl

lemma Excl.step (h : Excl s) (e : Event) : Excl (s.step e) := by
  cases e with
  | sleep t n =>
    simp only [Timer.step]
    split_ifs with hc
    exacts [h.setThread (by simp [hc.1, Line.holds]), h]
  | run t =>
    simp only [Timer.step]
    split_ifs
    exacts [h, h.runLine t]
  | blockElsewhere t =>
    simp only [Timer.step]
    split_ifs with hc
    exacts [h.setThread (by simp [hc.1, Line.holds]), h]
  | unblockElsewhere t =>
    simp only [Timer.step]
    split_ifs
    · exact h.of_lines (fun u => by rcases unblock_threads (s := s) t u with e | e <;> rw [e]) rfl
    · exact h
  | interrupt =>
    refine h.of_lines (fun u => ?_) rfl
    simp only [Timer.step, Timer.timerInterrupt]
    split_ifs <;> rfl

lemma Reachable.excl {s : Timer} (hr : Reachable s) : Excl s := by
  induction hr with
  | init => exact fun _ => ⟨nofun, nofun⟩
  | step e _ ih => exact ih.step e

theorem alarm_lock_exclusive {s : Timer} (hr : Reachable s) :
    (∀ u, (s.threads u).line.holds = true ↔ s.holder = some u) ∧
      ∀ t u, (s.threads t).line.holds = true → (s.threads u).line.holds = true → t = u :=
  have h := hr.excl
  ⟨h, fun t u ht hu => Option.some.inj (((h t).1 ht).symm.trans ((h u).1 hu))⟩

theorem lock_waiter_sees_one_holder :
    ((Timer.init.run lockWaiterTrace).threads 0).line = .reacquire ∧
      ((Timer.init.run lockWaiterTrace).threads 0).blocked = true ∧
      ((Timer.init.run lockWaiterTrace).threads 1).line.holds = true ∧
      (∀ u, ((Timer.init.run lockWaiterTrace).threads u).line.holds = true ↔
        (Timer.init.run lockWaiterTrace).holder = some u) ∧
      ∀ t u, ((Timer.init.run lockWaiterTrace).threads t).line.holds = true →
        ((Timer.init.run lockWaiterTrace).threads u).line.holds = true → t = u :=
  ⟨by decide, by decide, by decide, alarm_lock_exclusive (Reachable.init.run _)⟩

def pushTrace : List Event := [.sleep 0 1, .run 0, .run 0]

lemma runLine_alarmList (hc : (s.runLine t).alarmList ≠ s.alarmList) :
    (s.threads t).line.holds = true := by
  unfold Timer.runLine at hc
  dsimp only at hc
  split at hc <;> rename_i hl
  all_goals first
    | exact (hc rfl).elim
    | exact (hc (lockAcquire_alarmList _)).elim
    | exact (hc lockRelease_alarmList).elim
    | (split_ifs at hc <;> exact (hc rfl).elim)
    | simp [hl, Line.holds]

theorem alarm_list_changed_by_holder {s : Timer} (hr : Reachable s) (e : Event)
    (hc : (s.step e).alarmList ≠ s.alarmList) : ∃ t, e = .run t ∧ s.holder = some t := by
  cases e with
  | run t =>
    simp only [Timer.step] at hc
    split_ifs at hc
    · exact (hc rfl).elim
    · exact ⟨t, rfl, (hr.excl t).1 (runLine_alarmList hc)⟩
  | interrupt => exact (hc rfl).elim
  | _ =>
    simp only [Timer.step] at hc
    split_ifs at hc <;> exact (hc rfl).elim

theorem push_by_holder :
    ∃ t, Event.run 0 = .run t ∧ (Timer.init.run pushTrace).holder = some t :=
  alarm_list_changed_by_holder (Reachable.init.run _) _ (by decide)

end Eda093.Pintos
