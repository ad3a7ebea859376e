import Mathlib.Logic.Function.Basic
import Mathlib.Algebra.Group.Int

/-! The Pintos alarm clock: threads running `timer_sleep` line by line, `alarm_lock` and the timer
interrupt. -/

namespace Eda093.Pintos

inductive Line
  | outside
  | elsewhere
  | entry
  | acquire
  | push
  | release
  | block
  | wake
  | reacquire
  | remove
  | finish
  deriving DecidableEq, Repr

structure Thread where
  line : Line
  blocked : Bool
  sleepTicks : Int
  start : Nat
  alarmTime : Nat
  deriving DecidableEq, Repr

structure Alarm where
  tid : Nat
  alarmTime : Nat
  deriving DecidableEq, Repr

structure Timer where
  ticks : Nat
  alarmList : List Alarm
  holder : Option Nat
  waiters : List Nat
  threads : Nat → Thread

def uint32 (x : Int) : Nat := (x % 2 ^ 32).toNat

inductive Event
  | sleep (t : Nat) (n : Int)
  | run (t : Nat)
  | blockElsewhere (t : Nat)
  | unblockElsewhere (t : Nat)
  | interrupt

namespace Timer

def init : Timer :=
  ⟨0, [], none, [], fun _ => ⟨.outside, false, 0, 0, 0⟩⟩

def setThread (s : Timer) (t : Nat) (th : Thread) : Timer :=
  { s with threads := Function.update s.threads t th }

def setLine (s : Timer) (t : Nat) (line : Line) : Timer :=
  s.setThread t { s.threads t with line := line }

def unblock (s : Timer) (t : Nat) : Timer :=
  s.setThread t { s.threads t with blocked := false }

def lockAcquire (s : Timer) (t : Nat) (next : Line) : Timer :=
  match s.holder with
  | none => { s with holder := some t }.setLine t next
  | some _ => { s with waiters := s.waiters ++ [t] }.setThread t { s.threads t with blocked := true }

def lockRelease (s : Timer) : Timer :=
  match s.waiters with
  | [] => { s with holder := none }
  | w :: ws => { s with holder := none, waiters := ws }.unblock w

def due (s : Timer) (t : Nat) : Bool :=
  s.alarmList.any fun a => a.tid == t && decide (a.alarmTime ≤ s.ticks)

def checkAlarm (s : Timer) (t : Nat) : Bool := (s.threads t).blocked && s.due t

def timerInterrupt (s : Timer) : Timer :=
  let s := { s with ticks := s.ticks + 1 }
  { s with threads := fun t =>
      if s.checkAlarm t then { s.threads t with blocked := false } else s.threads t }

def unblocks (s : Timer) (t : Nat) : Bool := ({ s with ticks := s.ticks + 1 } : Timer).checkAlarm t

def runLine (s : Timer) (t : Nat) : Timer :=
  let th := s.threads t
  match th.line with
  | .outside => s
  | .elsewhere => s.setLine t .outside
  | .entry =>
    if th.sleepTicks ≤ 0 then s.setLine t .outside
    else s.setThread t
      { th with line := .acquire, start := s.ticks, alarmTime := uint32 (s.ticks + th.sleepTicks) }
  | .acquire => s.lockAcquire t .push
  | .push => { s with alarmList := s.alarmList ++ [Alarm.mk t th.alarmTime] }.setLine t .release
  | .release => s.lockRelease.setLine t .block
  | .block => s.setThread t { th with line := .wake, blocked := true }
  | .wake => s.setLine t .reacquire
  | .reacquire => s.lockAcquire t .remove
  | .remove => { s with alarmList := s.alarmList.erase (Alarm.mk t th.alarmTime) }.setLine t .finish
  | .finish => s.lockRelease.setLine t .outside

def step (s : Timer) : Event → Timer
  | .sleep t n =>
    if (s.threads t).line = .outside ∧ (s.threads t).blocked = false then
      s.setThread t { s.threads t with line := .entry, sleepTicks := n }
    else s
  | .run t => if (s.threads t).blocked then s else s.runLine t
  | .blockElsewhere t =>
    if (s.threads t).line = .outside ∧ (s.threads t).blocked = false then
      s.setThread t { s.threads t with line := .elsewhere, blocked := true }
    else s
  | .unblockElsewhere t =>
    if (s.threads t).line = .elsewhere then s.unblock t else s
  | .interrupt => s.timerInterrupt

def run (s : Timer) (es : List Event) : Timer := es.foldl step s

@[simp] lemma setThread_threads (s : Timer) (t : Nat) (th : Thread) (x : Nat) :
    (s.setThread t th).threads x = if x = t then th else s.threads x := by
  simp [setThread, Function.update_apply]

@[simp] lemma setThread_alarmList (s : Timer) (t : Nat) (th : Thread) :
    (s.setThread t th).alarmList = s.alarmList := rfl

@[simp] lemma setThread_ticks (s : Timer) (t : Nat) (th : Thread) :
    (s.setThread t th).ticks = s.ticks := rfl

@[simp] lemma setThread_holder (s : Timer) (t : Nat) (th : Thread) :
    (s.setThread t th).holder = s.holder := rfl

end Timer

inductive Reachable : Timer → Prop
  | init : Reachable .init
  | step {s : Timer} (e : Event) : Reachable s → Reachable (s.step e)

lemma Reachable.run {s : Timer} (h : Reachable s) (es : List Event) : Reachable (s.run es) := by
  induction es generalizing s with
  | nil => exact h
  | cons e es ih => exact ih (h.step e)

end Eda093.Pintos
