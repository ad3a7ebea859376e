import Eda093.Lsh.Wiring

/-! When every system call succeeds, each child is wired to its neighbours and each pipe end is
held by the one process that uses it. -/

namespace Eda093.Lsh

def Holds (sh : Shell) : Option Nat → Nat → Obj → Prop
  | none, fd, x => sh.fds.get fd = some x
  | some i, fd, x => ∃ c ∈ sh.procs[i]?, c.fds.get fd = some x

def Shell.Fresh (sh : Shell) : Prop := ∀ p fd x, Holds sh p fd x → x.id < sh.next

variable {sh sh' : Shell}

lemma holds_new_iff {new : List Child} {y : Obj} (hfresh : sh.Fresh) (hy : sh.next ≤ y.id)
    (hfds : ∀ x, sh'.fds.get x = sh.fds.get x) (hprocs : sh'.procs = sh.procs ++ new)
    (p : Option Nat) (fd : Nat) :
    Holds sh' p fd y ↔ ∃ i c, p = some (sh.procs.length + i) ∧ new[i]? = some c ∧
      c.fds.get fd = some y := by
  constructor
  · intro h
    cases p with
    | none => exact absurd (hfresh none fd y (by rwa [Holds, ← hfds])) (by omega)
    | some i =>
      obtain ⟨c, hc, hget⟩ := h
      rw [hprocs] at hc
      by_cases hi : i < sh.procs.length
      · rw [List.getElem?_append_left hi] at hc
        exact absurd (hfresh (some i) fd y ⟨c, hc, hget⟩) (by omega)
      · rw [List.getElem?_append_right (by omega)] at hc
        exact ⟨i - sh.procs.length, c, by congr; omega, hc, hget⟩
  · rintro ⟨i, c, rfl, hc, hget⟩
    exact ⟨c, by rwa [hprocs, List.getElem?_append_right (by omega), Nat.add_sub_cancel_left], hget⟩

lemma Redirected.ne_fresh {path : Option String} {access : Access} {fd n : Nat} {x : Obj}
    {kind : Kind} (h : Redirected path access (sh.fds.get fd) x) (hfresh : sh.Fresh)
    (hn : sh.next ≤ n) (hk : ∀ p a, kind ≠ .file p a) : x ≠ ⟨n, kind⟩ := by
  rintro rfl
  cases path with
  | some p => exact hk p access h
  | none => exact absurd (hfresh none fd _ h) (by simp only; omega)

lemma wiredTable_pipe {orig : Nat → Option Obj} {inSrc out y : Obj} {lastIn next m k x : Nat}
    (hin : inSrc ≠ y) (hout : out ≠ y) (horig : ∀ x, orig x ≠ some y)
    (h : wiredTable orig inSrc out lastIn next m k x = some y) :
    x = 0 ∧ k ≠ 0 ∧ y = ⟨next + (m - 1 - k), .pipeRead⟩ ∨
      x = 1 ∧ k + 1 ≠ m ∧ y = ⟨next + (m - 2 - k), .pipeWrite⟩ := by
  unfold wiredTable at h
  by_cases h0 : x = 0
  · subst h0
    simp only [if_true, Option.some.injEq] at h
    split_ifs at h with hk
    exacts [absurd h hin, .inl ⟨rfl, hk, h.symm⟩]
  by_cases h1 : x = 1
  · subst h1
    simp only [Nat.one_ne_zero, if_true, if_false, Option.some.injEq] at h
    split_ifs at h with hk
    exacts [absurd h hout, .inr ⟨rfl, hk, h.symm⟩]
  · simp only [h0, h1, if_false, base] at h
    split_ifs at h
    exacts [absurd h (horig x), absurd (Option.some.inj h) hin, absurd h (horig x)]

def Wired (cmd : Command) (sh sh' : Shell) : Prop :=
  let n := cmd.pgm.length
  ∃ (inSrc out : Obj) (pipe : Nat → Nat) (new : List Child),
    Redirected cmd.rstdin .rdonly (sh.fds.get 0) inSrc ∧
    Redirected cmd.rstdout (.creat outputMode) (sh.fds.get 1) out ∧
    sh'.procs = sh.procs ++ new ∧ new.length = n ∧
    (∀ k < n, ∃ c ∈ new[n - 1 - k]?, cmd.pgm[n - 1 - k]? = some c.argv ∧
      c.fds.get 0 = some (if k = 0 then inSrc else ⟨pipe (k - 1), .pipeRead⟩) ∧
      c.fds.get 1 = some (if k = n - 1 then out else ⟨pipe k, .pipeWrite⟩)) ∧
    (∀ k₁ < n - 1, ∀ k₂ < n - 1, pipe k₁ = pipe k₂ → k₁ = k₂) ∧
    ∀ k < n - 1, ∀ p fd,
      (Holds sh' p fd ⟨pipe k, .pipeWrite⟩ ↔ p = some (sh.procs.length + (n - 1 - k)) ∧ fd = 1) ∧
      (Holds sh' p fd ⟨pipe k, .pipeRead⟩ ↔ p = some (sh.procs.length + (n - 2 - k)) ∧ fd = 0)

lemma runCommand_pipeline (o : Outcomes) (parseResult : Int) (cmd : Command) (sh : Shell)
    (hne : cmd.pgm ≠ []) (hext : ∀ a ∈ cmd.pgm, a.name ≠ "exit" ∧ a.name ≠ "cd")
    (hstd : ∀ fd < 3, sh.fds.get fd ≠ none) (hopen : o.openErr = none)
    (hcreat : o.creatErr = none) (hpipe : ∀ j, o.pipeOk j = true)
    (hfork : ∀ j, o.forkOk j = true) :
    ∃ inSrc out lastIn next new,
      Redirected cmd.rstdin .rdonly (sh.fds.get 0) inSrc ∧
      Redirected cmd.rstdout (.creat outputMode) (sh.fds.get 1) out ∧
      (cmd.rstdin = none ∧ lastIn = 0 ∨ cmd.rstdin ≠ none ∧ 3 ≤ lastIn ∧ sh.fds.get lastIn = none) ∧
      sh.next ≤ next ∧ (∀ x, (runCommand o parseResult cmd sh).2.fds.get x = sh.fds.get x) ∧
      (runCommand o parseResult cmd sh).2.procs = sh.procs ++ new ∧
      new.length = cmd.pgm.length ∧
      ∀ i c, new[i]? = some c → cmd.pgm[i]? = some c.argv ∧
        ∀ x, c.fds.get x = wiredTable sh.fds.get inSrc out lastIn next cmd.pgm.length
          (cmd.pgm.length - 1 - i) x := by
  obtain ⟨l, sh₁, inSrc, out, hred, hh, hin, hout, hlast, hnext, hprocs, -⟩ :=
    redirect_ok cmd hopen hcreat hstd
  obtain ⟨l', sh₂, hrun⟩ : ∃ l' sh', launchLoop o 0 cmd.pgm l sh₁ = .done l' sh' :=
    launchLoop_done fun a ha => (hext a ha).1
  obtain ⟨hfds, -, hwire⟩ := launchLoop_wires hext hpipe hfork hh hne hrun
  obtain ⟨-, new, hnew, hlen, hargv⟩ := launchLoop_forks hext hpipe hfork hrun
  have hrc : runCommand o parseResult cmd sh = (.returns, waitChildren cmd l' sh₂) := by
    simp only [runCommand, hred, hrun]
  obtain ⟨_, _, _, _, hw⟩ := waitChildren_frame cmd l' sh₂
  have hinput : cmd.rstdin = none ∧ l.lastIn = 0 ∨
      cmd.rstdin ≠ none ∧ 3 ≤ l.lastIn ∧ sh.fds.get l.lastIn = none := by
    rcases hh.input with ⟨h0, -⟩ | ⟨h3, hfree⟩
    · exact .inl ⟨hlast.2 h0, h0⟩
    · exact .inr ⟨fun h => by have := hlast.1 h; omega, h3, hfree⟩
  refine ⟨inSrc, out, l.lastIn, sh₁.next, new, hin, hout, hinput, hnext, ?_, ?_, hlen, ?_⟩
  · rw [hrc, hw]; exact hfds
  · rw [hrc, hw, hnew, hprocs]
  · refine fun i c hc => ⟨(hargv i c hc).1, hwire i c ?_⟩
    rwa [hnew, hprocs, List.getElem?_append_right (Nat.le_add_right _ _), Nat.add_sub_cancel_left]

lemma wiredTable_pipeWrite_iff {orig : Nat → Option Obj} {inSrc out : Obj} {lastIn next n k i x : Nat}
    (hin : inSrc ≠ ⟨next + (n - 2 - k), .pipeWrite⟩) (hout : out ≠ ⟨next + (n - 2 - k), .pipeWrite⟩)
    (horig : ∀ x, orig x ≠ some ⟨next + (n - 2 - k), .pipeWrite⟩) (hk : k < n - 1) (hi : i < n) :
    wiredTable orig inSrc out lastIn next n (n - 1 - i) x = some ⟨next + (n - 2 - k), .pipeWrite⟩ ↔
      i = n - 1 - k ∧ x = 1 := by
  constructor
  · intro h
    rcases wiredTable_pipe hin hout horig h with ⟨-, -, h⟩ | ⟨rfl, h1, h⟩
    · simp at h
    · simp only [Obj.mk.injEq, and_true] at h
      omega
  · rintro ⟨rfl, rfl⟩
    have e : n - 1 - (n - 1 - k) = k := by omega
    simp only [wiredTable, e, if_neg Nat.one_ne_zero, if_true, if_neg (show k + 1 ≠ n by omega)]

lemma wiredTable_pipeRead_iff {orig : Nat → Option Obj} {inSrc out : Obj} {lastIn next n k i x : Nat}
    (hin : inSrc ≠ ⟨next + (n - 2 - k), .pipeRead⟩) (hout : out ≠ ⟨next + (n - 2 - k), .pipeRead⟩)
    (horig : ∀ x, orig x ≠ some ⟨next + (n - 2 - k), .pipeRead⟩) (hk : k < n - 1) (hi : i < n) :
    wiredTable orig inSrc out lastIn next n (n - 1 - i) x = some ⟨next + (n - 2 - k), .pipeRead⟩ ↔
      i = n - 2 - k ∧ x = 0 := by
  constructor
  · intro h
    rcases wiredTable_pipe hin hout horig h with ⟨rfl, h0, h⟩ | ⟨-, -, h⟩
    · simp only [Obj.mk.injEq, and_true] at h
      omega
    · simp at h
  · rintro ⟨rfl, rfl⟩
    have e : n - 1 - (n - 2 - k) = k + 1 := by omega
    simp only [wiredTable, e, if_true, if_neg (Nat.succ_ne_zero k),
      show n - 1 - (k + 1) = n - 2 - k by omega]

lemma holds_wired_iff {new : List Child} {inSrc out y : Obj} {lastIn next n : Nat}
    (hfresh : sh.Fresh) (hy : sh.next ≤ y.id) (hfds : ∀ x, sh'.fds.get x = sh.fds.get x)
    (hprocs : sh'.procs = sh.procs ++ new) (hlen : new.length = n)
    (hnew : ∀ i c, new[i]? = some c →
      ∀ x, c.fds.get x = wiredTable sh.fds.get inSrc out lastIn next n (n - 1 - i) x)
    (p : Option Nat) (fd : Nat) :
    Holds sh' p fd y ↔ ∃ i < n, p = some (sh.procs.length + i) ∧
      wiredTable sh.fds.get inSrc out lastIn next n (n - 1 - i) fd = some y := by
  rw [holds_new_iff hfresh hy hfds hprocs]
  constructor
  · rintro ⟨i, c, rfl, hc, hget⟩
    exact ⟨i, hlen ▸ (List.getElem?_eq_some_iff.1 hc).1, rfl, hnew i c hc fd ▸ hget⟩
  · rintro ⟨i, hi, rfl, h⟩
    have hc : new[i]? = some new[i] := List.getElem?_eq_getElem (by omega)
    exact ⟨i, new[i], rfl, hc, (hnew i _ hc fd).trans h⟩

lemma runCommand_wired (o : Outcomes) (parseResult : Int) (cmd : Command) (sh : Shell)
    (hne : cmd.pgm ≠ []) (hext : ∀ a ∈ cmd.pgm, a.name ≠ "exit" ∧ a.name ≠ "cd")
    (hstd : ∀ fd < 3, sh.fds.get fd ≠ none) (hfresh : sh.Fresh) (hopen : o.openErr = none)
    (hcreat : o.creatErr = none) (hpipe : ∀ j, o.pipeOk j = true)
    (hfork : ∀ j, o.forkOk j = true) :
    Wired cmd sh (runCommand o parseResult cmd sh).2 := by
  obtain ⟨inSrc, out, lastIn, next, new, hin, hout, -, hnext, hfds, hprocs, hlen, hnew⟩ :=
    runCommand_pipeline o parseResult cmd sh hne hext hstd hopen hcreat hpipe hfork
  set n := cmd.pgm.length
  have hwire i c (hc : new[i]? = some c) := (hnew i c hc).2
  have hold {k : Nat} (kind : Kind) (hk : ∀ p a, kind ≠ .file p a) :=
    holds_wired_iff (y := ⟨next + (n - 2 - k), kind⟩) hfresh (by simp only; omega) hfds hprocs hlen
      hwire
  have hnot {k : Nat} (kind : Kind) (hk : ∀ p a, kind ≠ .file p a) :
      inSrc ≠ ⟨next + (n - 2 - k), kind⟩ ∧ out ≠ ⟨next + (n - 2 - k), kind⟩ ∧
        ∀ x, sh.fds.get x ≠ some ⟨next + (n - 2 - k), kind⟩ :=
    ⟨hin.ne_fresh hfresh (by omega) hk, hout.ne_fresh hfresh (by omega) hk,
      fun x h => absurd (hfresh none x _ h) (by simp only; omega)⟩
  refine ⟨inSrc, out, fun k => next + (n - 2 - k), new, hin, hout, hprocs, hlen, ?_,
    fun k₁ hk₁ k₂ hk₂ h => by simp only at h; omega, fun k hk p fd => ⟨?_, ?_⟩⟩
  · intro k hk
    have hc : new[n - 1 - k]? = some new[n - 1 - k] := List.getElem?_eq_getElem (by omega)
    have e : n - 1 - (n - 1 - k) = k := by omega
    refine ⟨_, hc, (hnew _ _ hc).1, ?_, ?_⟩
    · rw [hwire _ _ hc, e, wiredTable_zero]
      by_cases hk0 : k = 0
      · simp [hk0]
      · simp only [hk0, if_false, Option.some.injEq, Obj.mk.injEq, and_true]
        omega
    · rw [hwire _ _ hc, e, wiredTable_one]
      by_cases hkn : k + 1 = n
      · rw [if_pos hkn, if_pos (show k = n - 1 by omega)]
      · rw [if_neg hkn, if_neg (show k ≠ n - 1 by omega)]
  · obtain ⟨hi, ho, hr⟩ := hnot (k := k) .pipeWrite (by simp)
    rw [hold .pipeWrite (by simp)]
    constructor
    · rintro ⟨i, hi', rfl, h⟩
      obtain ⟨rfl, rfl⟩ := (wiredTable_pipeWrite_iff hi ho hr hk hi').1 h
      exact ⟨rfl, rfl⟩
    · rintro ⟨rfl, rfl⟩
      exact ⟨n - 1 - k, by omega, rfl, (wiredTable_pipeWrite_iff hi ho hr hk (by omega)).2 ⟨rfl, rfl⟩⟩
  · obtain ⟨hi, ho, hr⟩ := hnot (k := k) .pipeRead (by simp)
    rw [hold .pipeRead (by simp)]
    constructor
    · rintro ⟨i, hi', rfl, h⟩
      obtain ⟨rfl, rfl⟩ := (wiredTable_pipeRead_iff hi ho hr hk hi').1 h
      exact ⟨rfl, rfl⟩
    · rintro ⟨rfl, rfl⟩
      exact ⟨n - 2 - k, by omega, rfl, (wiredTable_pipeRead_iff hi ho hr hk (by omega)).2 ⟨rfl, rfl⟩⟩

lemma init_fresh (cwd : String) (pid : Nat) : (Shell.init cwd pid).Fresh := by
  rintro (_ | i) fd x h
  · rcases fd with _ | _ | _ | fd <;> simp [Holds, Shell.init, FdTable.ofList] at h <;>
      simp [← h, Shell.init]
  · simp [Holds, Shell.init] at h

def catWc : Command := ⟨[⟨"wc", []⟩, ⟨"cat", []⟩], some "in.txt", none, false⟩

lemma runCommand_input_downstream (o : Outcomes) (parseResult : Int) (cmd : Command) (sh : Shell)
    (hne : cmd.pgm ≠ []) (hext : ∀ a ∈ cmd.pgm, a.name ≠ "exit" ∧ a.name ≠ "cd")
    (hstd : ∀ fd < 3, sh.fds.get fd ≠ none) (hopen : o.openErr = none)
    (hcreat : o.creatErr = none) (hpipe : ∀ j, o.pipeOk j = true)
    (hfork : ∀ j, o.forkOk j = true) (hin : cmd.rstdin ≠ none) :
    ∃ fd x, 3 ≤ fd ∧ sh.fds.get fd = none ∧ Redirected cmd.rstdin .rdonly (sh.fds.get 0) x ∧
      ∀ i c, (runCommand o parseResult cmd sh).2.procs[sh.procs.length + i]? = some c →
        i + 1 < cmd.pgm.length → c.fds.get fd = some x := by
  obtain ⟨inSrc, out, lastIn, next, new, hred, -, hinput, -, -, hprocs, -, hnew⟩ :=
    runCommand_pipeline o parseResult cmd sh hne hext hstd hopen hcreat hpipe hfork
  obtain ⟨h, -⟩ | ⟨-, h3, hfree⟩ := hinput
  · exact absurd h hin
  refine ⟨lastIn, inSrc, h3, hfree, hred, fun i c hc hi => ?_⟩
  rw [hprocs, List.getElem?_append_right (Nat.le_add_right _ _), Nat.add_sub_cancel_left] at hc
  rw [(hnew i c hc).2, wiredTable, if_neg (by omega), if_neg (by omega), if_neg (by omega), base,
    if_pos ⟨by omega, rfl⟩]

theorem cat_wc_leaks_input :
    ((runCommand .succeed 0 catWc (Shell.init "/" 100)).2.procs.map
      fun c => (c.argv.name, c.fds.get 3)) =
      [("wc", some ⟨3, .file "in.txt" .rdonly⟩), ("cat", none)] := by
  decide

end Eda093.Lsh
