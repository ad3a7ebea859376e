import Eda093.Lsh.Control
import Mathlib.Tactic.Set

/-! With every system call succeeding, each child reads the pipe from its left neighbour and writes
the pipe to its right one. -/

namespace Eda093.Lsh

variable {o : Outcomes} {orig : Nat → Option Obj} {inSrc out : Obj} {lastIn j : Nat}
  {command : Argv} {l : Locals} {sh : Shell}

def base (orig : Nat → Option Obj) (inSrc : Obj) (lastIn x : Nat) : Option Obj :=
  if lastIn ≠ 0 ∧ x = lastIn then some inSrc else orig x

structure LoopHead (orig : Nat → Option Obj) (inSrc out : Obj) (l : Locals) (sh : Shell) :
    Prop where
  std : ∀ fd < 3, orig fd ≠ none
  input : l.lastIn = 0 ∧ orig 0 = some inSrc ∨ 3 ≤ l.lastIn ∧ orig l.lastIn = none
  output : l.childOut = 1 ∧ orig 1 = some out ∨
    3 ≤ l.childOut ∧ l.childOut ≠ l.lastIn ∧ orig l.childOut = none
  fds : ∀ x, sh.fds.get x = if x = l.childOut then some out else base orig inSrc l.lastIn x

lemma LoopHead.free (h : LoopHead orig inSrc out l sh) {x : Nat} (hx : sh.fds.get x = none) :
    3 ≤ x ∧ x ≠ l.childOut ∧ x ≠ l.lastIn ∧ orig x = none := by
  rw [h.fds] at hx
  split_ifs at hx with hc
  simp only [base] at hx
  split_ifs at hx with hb
  have h3 : 3 ≤ x := by
    by_contra h3
    exact h.std x (by omega) hx
  exact ⟨h3, hc, fun e => hb ⟨by omega, e⟩, hx⟩

lemma LoopHead.base_one (h : LoopHead orig inSrc out l sh) : base orig inSrc l.lastIn 1 = orig 1 := by
  rcases h.input with ⟨h0, _⟩ | ⟨h3, _⟩ <;> simp only [base] <;> split_ifs <;> first | rfl | omega

def wiredTable (orig : Nat → Option Obj) (inSrc out : Obj) (lastIn next m k x : Nat) :
    Option Obj :=
  if x = 0 then some (if k = 0 then inSrc else ⟨next + (m - 1 - k), .pipeRead⟩)
  else if x = 1 then some (if k + 1 = m then out else ⟨next + (m - 2 - k), .pipeWrite⟩)
  else if k = 0 then orig x else base orig inSrc lastIn x

lemma wiredTable_zero {next m k : Nat} : wiredTable orig inSrc out lastIn next m k 0 =
    some (if k = 0 then inSrc else ⟨next + (m - 1 - k), .pipeRead⟩) := rfl

lemma wiredTable_one {next m k : Nat} : wiredTable orig inSrc out lastIn next m k 1 =
    some (if k + 1 = m then out else ⟨next + (m - 2 - k), .pipeWrite⟩) := rfl

lemma wiredTable_succ {next m k : Nat} (hk : k < m) (x : Nat) :
    wiredTable orig inSrc ⟨next, .pipeWrite⟩ lastIn (next + 1) m k x =
      wiredTable orig inSrc out lastIn next (m + 1) k x := by
  unfold wiredTable
  by_cases h0 : x = 0
  · by_cases hk0 : k = 0
    · simp [h0, hk0]
    · simp only [h0, hk0, if_true, if_false, Option.some.injEq, Obj.mk.injEq, and_true]
      omega
  by_cases h1 : x = 1
  · by_cases hkm : k + 1 = m
    · simp only [h1, hkm, Nat.one_ne_zero, if_true, if_false, show m ≠ m + 1 by omega,
        Option.some.injEq, Obj.mk.injEq, and_true]
      omega
    · simp only [h1, hkm, Nat.one_ne_zero, if_true, if_false, show k + 1 ≠ m + 1 by omega,
        Option.some.injEq, Obj.mk.injEq, and_true]
      omega
  · simp only [h0, h1, if_false]

lemma childFds_piped {B : Nat → Option Obj} {t : FdTable} {r w : Nat} {rd wr : Obj}
    (ht : ∀ x, t.get x = if x = w then some wr else if x = r then some rd
      else if x = l.childOut then some out else B x)
    (hin : l.childIn = r) (hr : 3 ≤ r) (hw : 3 ≤ w) (hrw : r ≠ w)
    (hc : l.childOut = 1 ∧ B 1 = some out ∨
      3 ≤ l.childOut ∧ l.childOut ≠ r ∧ l.childOut ≠ w ∧ B l.childOut = none)
    (hBr : B r = none) (hBw : B w = none) (x : Nat) :
    (childFds (some (r, w)) l t).get x =
      if x = 0 then some rd else if x = 1 then some out else B x := by
  have hrd : (t.close w).get r = some rd := by simp [ht, hrw]
  have hw1 : w ≠ 1 := by omega
  have hr0 : r ≠ 0 := by omega
  have hwr : w ≠ r := Ne.symm hrw
  rcases hc with ⟨hc, hB1⟩ | ⟨hc3, hcr, hcw, hBc⟩
  · simp only [childFds, hin, hc, hw1, hr0, ne_eq, not_false_eq_true, ite_true, ite_false,
      not_true_eq_false]
    rw [FdTable.get_dup2_close hrd, FdTable.get_close, ht, hc]
    by_cases hxr : x = r
    · simp [hxr, hr0, show r ≠ 1 by omega, hrw, hBr]
    by_cases hxw : x = w
    · simp [hxw, hwr, show w ≠ 0 by omega, hw1, hBw]
    by_cases h0 : x = 0
    · simp [h0, hr0.symm]
    by_cases h1 : x = 1
    · simp [h1, show (1 : Nat) ≠ r by omega, hw1.symm, hB1]
    · simp [hxr, hxw, h0, h1]
  · have hc1 : l.childOut ≠ 1 := by omega
    have hc0 : l.childOut ≠ 0 := by omega
    have hout : (((t.close w).dup2 r 0).close r).get l.childOut = some out := by
      rw [FdTable.get_dup2_close hrd]
      simp [ht, hcr, hcw, hc0]
    simp only [childFds, hin, hc1, hw1, hr0, ne_eq, not_false_eq_true, ite_true]
    rw [FdTable.get_dup2_close hout, FdTable.get_dup2_close hrd, FdTable.get_close, ht]
    by_cases hxc : x = l.childOut
    · simp [hxc, hc0, hc1, hBc]
    by_cases hxr : x = r
    · simp [hxr, hr0, show r ≠ 1 by omega, hrw, hBr]
    by_cases hxw : x = w
    · simp [hxw, hwr, show w ≠ 0 by omega, hw1, hBw]
    by_cases h0 : x = 0
    · simp [h0, hr0.symm, hc0.symm]
    by_cases h1 : x = 1
    · simp [h1, hc1.symm]
    · simp [hxc, hxr, hxw, h0, h1]

lemma childFds_leftmost (h : LoopHead orig inSrc out l sh) (x : Nat) :
    (childFds none { l with childIn := l.lastIn } sh.fds).get x =
      if x = 0 then some inSrc else if x = 1 then some out else orig x := by
  have hfds := h.fds
  have hout : sh.fds.get l.childOut = some out := by simp [hfds]
  rcases h.input with ⟨h0, hsrc⟩ | ⟨h3, hfree⟩ <;> rcases h.output with ⟨h1, ho⟩ | ⟨hc3, hcl, hc⟩
  · simp only [childFds, h0, h1, ne_eq, not_true_eq_false, ite_false, hfds, base]
    by_cases hx0 : x = 0
    · simp [hx0, hsrc]
    by_cases hx1 : x = 1
    · simp [hx1]
    · simp [hx0, hx1]
  · have hc1 : l.childOut ≠ 1 := by omega
    simp only [childFds, h0, hc1, ne_eq, not_true_eq_false, not_false_eq_true, ite_false, ite_true]
    rw [FdTable.get_dup2_close hout, hfds]
    simp only [base, h0]
    by_cases hxc : x = l.childOut
    · simp [hxc, show l.childOut ≠ 0 by omega, hc1, hc]
    by_cases hx0 : x = 0
    · simp [hx0, hsrc, show (0 : Nat) ≠ l.childOut by omega]
    by_cases hx1 : x = 1
    · simp [hx1, show (1 : Nat) ≠ l.childOut by omega]
    · simp [hxc, hx0, hx1]
  · have hl0 : l.lastIn ≠ 0 := by omega
    have hl1 : l.lastIn ≠ 1 := by omega
    have hin : sh.fds.get l.lastIn = some inSrc := by simp [hfds, base, hl0, h1, hl1]
    simp only [childFds, h1, hl0, ne_eq, not_true_eq_false, not_false_eq_true, ite_false, ite_true]
    rw [FdTable.get_dup2_close hin, hfds]
    simp only [base, h1]
    by_cases hxl : x = l.lastIn
    · simp [hxl, hl0, hl1, hfree]
    by_cases hx0 : x = 0
    · simp [hx0, hl0.symm]
    by_cases hx1 : x = 1
    · simp [hx1, hl1.symm]
    · simp [hxl, hx0, hx1]
  · have hl0 : l.lastIn ≠ 0 := by omega
    have hc1 : l.childOut ≠ 1 := by omega
    have hc0 : l.childOut ≠ 0 := by omega
    have hin : sh.fds.get l.lastIn = some inSrc := by simp [hfds, base, hl0, Ne.symm hcl]
    have hout' : ((sh.fds.dup2 l.lastIn 0).close l.lastIn).get l.childOut = some out := by
      rw [FdTable.get_dup2_close hin]; simp [hcl, hc0, hout]
    simp only [childFds, hc1, hl0, ne_eq, not_false_eq_true, ite_true]
    rw [FdTable.get_dup2_close hout', FdTable.get_dup2_close hin, hfds]
    simp only [base]
    by_cases hxc : x = l.childOut
    · simp [hxc, hc0, hc1, hc]
    by_cases hxl : x = l.lastIn
    · simp [hxl, hl0, show l.lastIn ≠ 1 by omega, hfree]
    by_cases hx0 : x = 0
    · simp [hx0, hl0.symm, hc0.symm]
    by_cases hx1 : x = 1
    · simp [hx1, hc1.symm, show (1 : Nat) ≠ l.lastIn by omega]
    · simp [hxc, hxl, hx0, hx1]

lemma LoopHead.closed (h : LoopHead orig inSrc out l sh) (x : Nat) :
    (if l.lastIn ≠ 0 ∧ x = l.lastIn then none
      else if l.childOut ≠ 1 ∧ x = l.childOut then none else sh.fds.get x) = orig x := by
  rw [h.fds]
  by_cases hxc : x = l.childOut
  · subst hxc
    rcases h.output with ⟨h1, ho⟩ | ⟨hc3, hcl, hc⟩
    · have hl : ¬ (l.lastIn ≠ 0 ∧ 1 = l.lastIn) := by rcases h.input with ⟨h0, -⟩ | ⟨h3, -⟩ <;> omega
      simp [h1, ho, hl]
    · simp [hcl, show l.childOut ≠ 1 by omega, hc]
  by_cases hxl : x = l.lastIn
  · subst hxl
    rcases h.input with ⟨h0, hs⟩ | ⟨h3, hf⟩
    · have hc : ¬ (l.childOut ≠ 1 ∧ l.lastIn = l.childOut) := by
        rcases h.output with ⟨h1, -⟩ | ⟨hc3, -, -⟩ <;> omega
      have h0c : (0 : Nat) ≠ l.childOut := by rcases h.output with ⟨h1, -⟩ | ⟨hc3, -, -⟩ <;> omega
      simp [h0, h0c, base]
    · simp [show l.lastIn ≠ 0 by omega, hf]
  · simp [hxc, hxl, base]

lemma LoopHead.piped (h : LoopHead orig inSrc out l sh) {l₁ : Locals} (c : Nat → Child)
    (hin : l₁.lastIn = l.lastIn) (hout : l₁.childOut = sh.pipe.2.1) :
    LoopHead orig inSrc ⟨sh.next, .pipeWrite⟩ l₁
      (parentClose { l with childIn := sh.pipe.1 } (sh.pipe.2.2.spawn c)) := by
  obtain ⟨hwr, hw⟩ := sh.pipe_snd_fst
  obtain ⟨hw3, hwc, hwl, hwo⟩ := h.free hw
  obtain ⟨hr3, hrc, hrl, hro⟩ := h.free sh.get_pipe_fst
  refine ⟨h.std, hin ▸ h.input, Or.inr ⟨hout ▸ hw3, hout ▸ hin ▸ hwl, hout ▸ hwo⟩, fun x => ?_⟩
  rw [parentClose_fds, Shell.spawn_fds, Shell.pipe_fds, h.fds, hin, hout]
  have hr0 : sh.pipe.1 ≠ 0 := by omega
  by_cases hxw : x = sh.pipe.2.1
  · simp [hxw, hwr, hwc]
  by_cases hxr : x = sh.pipe.1
  · simp [hxr, hr0, hwr.symm, base, hrl, hro]
  by_cases hxc : x = l.childOut
  · subst hxc
    rcases h.output with ⟨h1, ho⟩ | ⟨hc3, hcl, hc⟩
    · have h1w : (1 : Nat) ≠ sh.pipe.2.1 := h1 ▸ hxw
      have h1r : (1 : Nat) ≠ sh.pipe.1 := h1 ▸ hxr
      simp [h1, h1w, h1r, ← ho, h.base_one]
    · simp [hxw, hxr, show l.childOut ≠ 1 by omega, base, hcl, hc]
  · simp [hxw, hxr, hxc]

lemma LoopHead.piped_child (h : LoopHead orig inSrc out l sh) (m x : Nat) :
    (childFds (some (sh.pipe.1, sh.pipe.2.1)) { l with childIn := sh.pipe.1 } sh.pipe.2.2.fds).get x =
      wiredTable orig inSrc out l.lastIn sh.next (m + 2) (m + 1) x := by
  obtain ⟨hwr, hw⟩ := sh.pipe_snd_fst
  obtain ⟨hw3, hwc, hwl, hwo⟩ := h.free hw
  obtain ⟨hr3, hrc, hrl, hro⟩ := h.free sh.get_pipe_fst
  have hB : ∀ y, y ≠ l.lastIn → base orig inSrc l.lastIn y = orig y := fun y hy => by
    simp [base, hy]
  have ht : ∀ y, sh.pipe.2.2.fds.get y = if y = sh.pipe.2.1 then some ⟨sh.next, .pipeWrite⟩
      else if y = sh.pipe.1 then some ⟨sh.next, .pipeRead⟩
      else if y = l.childOut then some out else base orig inSrc l.lastIn y := fun y => by
    rw [Shell.pipe_fds, h.fds]
  have hc : l.childOut = 1 ∧ base orig inSrc l.lastIn 1 = some out ∨ 3 ≤ l.childOut ∧
      l.childOut ≠ sh.pipe.1 ∧ l.childOut ≠ sh.pipe.2.1 ∧
      base orig inSrc l.lastIn l.childOut = none := by
    rcases h.output with ⟨h1, ho⟩ | ⟨hc3, hcl, hc⟩
    · exact Or.inl ⟨h1, h.base_one ▸ ho⟩
    · exact Or.inr ⟨hc3, Ne.symm hrc, Ne.symm hwc, hB _ hcl ▸ hc⟩
  rw [childFds_piped (l := { l with childIn := sh.pipe.1 }) ht rfl hr3 hw3 (Ne.symm hwr) hc
    (hB _ hrl ▸ hro) (hB _ hwl ▸ hwo)]
  simp [wiredTable]

theorem launchLoop_wires {pgm : List Argv} {l' : Locals} {sh' : Shell}
    (hext : ∀ a ∈ pgm, a.name ≠ "exit" ∧ a.name ≠ "cd")
    (hpipe : ∀ j, o.pipeOk j = true) (hfork : ∀ j, o.forkOk j = true)
    (h : LoopHead orig inSrc out l sh) (hne : pgm ≠ [])
    (hrun : launchLoop o j pgm l sh = .done l' sh') :
    (∀ x, sh'.fds.get x = orig x) ∧ sh'.next = sh.next + (pgm.length - 1) ∧
    ∀ i c, sh'.procs[sh.procs.length + i]? = some c → ∀ x,
      c.fds.get x = wiredTable orig inSrc out l.lastIn sh.next pgm.length (pgm.length - 1 - i) x := by
  induction pgm generalizing j l sh out with
  | nil => exact absurd rfl hne
  | cons command rest ih =>
    obtain ⟨hx, hc⟩ := hext command (List.mem_cons_self _ _)
    cases rest with
    | nil =>
      rw [launchLoop_next (launch_leftmost hx hc), forkStage_snd_ok (hfork j)] at hrun
      obtain ⟨-, rfl⟩ := Launched.done.inj hrun
      refine ⟨fun x => by rw [parentClose_fds]; exact h.closed x, by simp, fun i c hi x => ?_⟩
      simp only [parentClose_procs, Shell.spawn_procs, List.getElem?_append_right (Nat.le_add_right _ _),
        Nat.add_sub_cancel_left] at hi
      cases i with
      | zero =>
        obtain rfl := Option.some.inj (List.getElem?_cons_zero.symm.trans hi)
        rw [childRun_fds, childFds_leftmost h]
        simp [wiredTable]
      | succ i => simp at hi
    | cons command' rest' =>
      rw [launchLoop_next (launch_piped hx hc (hpipe j)), forkStage_snd_ok (hfork j)] at hrun
      set lc : Locals := { l with childIn := sh.pipe.1 }
      set child := childRun o j command (some (sh.pipe.1, sh.pipe.2.1)) lc sh.pipe.2.2.fds sh.pipe.2.2.cwd
      set sh₁ := parentClose lc (sh.pipe.2.2.spawn child)
      set l₁ : Locals := { (forkStage o j command (some (sh.pipe.1, sh.pipe.2.1)) lc sh.pipe.2.2).1 with
        index := l.index + 1 }
      have h₁ : LoopHead orig inSrc ⟨sh.next, .pipeWrite⟩ l₁ sh₁ := h.piped _ (by simp [l₁]) (by simp [l₁])
      obtain ⟨hfds, hnext, hprocs⟩ :=
        ih (fun a ha => hext a (List.mem_cons_of_mem _ ha)) h₁ (List.cons_ne_nil _ _) hrun
      have hs : Spawned sh₁ (launchLoop o (j + 1) (command' :: rest') l₁ sh₁).shell :=
        launchLoop_spawned _
      rw [hrun] at hs
      obtain ⟨new, hnew, -⟩ := hs
      change sh'.procs = _ at hnew
      have hlen : sh₁.procs.length = sh.procs.length + 1 := by simp [sh₁]
      refine ⟨hfds, by rw [hnext]; simp [sh₁]; omega, fun i c hi x => ?_⟩
      cases i with
      | zero =>
        rw [hnew, List.getElem?_append_left (by omega)] at hi
        simp only [sh₁, parentClose_procs, Shell.spawn_procs, Shell.pipe_procs, Nat.add_zero,
          List.getElem?_concat_length, Option.some.injEq] at hi
        subst hi
        rw [childRun_fds, h.piped_child rest'.length x]
        rfl
      | succ i =>
        have hi' : sh'.procs[sh₁.procs.length + i]? = some c := by
          rw [hlen, Nat.add_right_comm, Nat.add_assoc]; exact hi
        have e1 : l₁.lastIn = l.lastIn := by simp [l₁]
        have e2 : sh₁.next = sh.next + 1 := by simp [sh₁]
        have hk : (command :: command' :: rest').length - 1 - (i + 1) =
            (command' :: rest').length - 1 - i := by simp
        rw [hprocs i c hi' x, e1, e2, hk]
        exact wiredTable_succ (by simp; omega) x

def Redirected (path : Option String) (access : Access) (inherited : Option Obj) (x : Obj) : Prop :=
  match path with
  | some p => x.kind = .file p access
  | none => inherited = some x

lemma redirect_ok (cmd : Command) (ho : o.openErr = none) (hc : o.creatErr = none)
    (hstd : ∀ fd < 3, sh.fds.get fd ≠ none) :
    ∃ l sh₁ inSrc out, redirect o cmd sh = .ok (l, sh₁) ∧ LoopHead sh.fds.get inSrc out l sh₁ ∧
      Redirected cmd.rstdin .rdonly (sh.fds.get 0) inSrc ∧
      Redirected cmd.rstdout (.creat outputMode) (sh.fds.get 1) out ∧
      (cmd.rstdin = none ↔ l.lastIn = 0) ∧
      sh.next ≤ sh₁.next ∧ sh₁.procs = sh.procs ∧ sh₁.lastPid = sh.lastPid ∧
      l.commandCounter = cmd.pgm.length ∧ l.commandPids = List.replicate cmd.pgm.length none ∧
      l.index = 0 := by
  obtain ⟨i0, hi0⟩ := Option.ne_none_iff_exists'.mp (hstd 0 (by omega))
  obtain ⟨i1, hi1⟩ := Option.ne_none_iff_exists'.mp (hstd 1 (by omega))
  have ha := FdTable.three_le_lowestFree hstd
  have hfa := sh.fds.get_lowestFree
  rcases cmd with ⟨pgm, _ | p, _ | q, bg⟩ <;>
    simp only [redirect, openInput, openOutput, ho, hc, Shell.openFile, countCommands_eq_length]
  · refine ⟨_, _, i0, i1, rfl, ⟨hstd, .inl ⟨rfl, hi0⟩, .inl ⟨rfl, hi1⟩, fun x => ?_⟩,
      hi0, hi1, by simp, Nat.le_refl _, rfl, rfl, rfl, rfl, rfl⟩
    by_cases hx : x = 1 <;> simp [hx, hi1, base]
  · refine ⟨_, _, i0, ⟨sh.next, .file q (.creat outputMode)⟩, rfl,
      ⟨hstd, .inl ⟨rfl, hi0⟩, .inr ⟨ha, by simp only; omega, hfa⟩, fun x => ?_⟩,
      hi0, rfl, by simp, by simp, rfl, rfl, rfl, rfl, rfl⟩
    by_cases hx : x = sh.fds.lowestFree <;> simp [hx, base]
  · refine ⟨_, _, ⟨sh.next, .file p .rdonly⟩, i1, rfl,
      ⟨hstd, .inr ⟨ha, hfa⟩, .inl ⟨rfl, hi1⟩, fun x => ?_⟩,
      rfl, hi1, by simp; omega, by simp, rfl, rfl, rfl, rfl, rfl⟩
    by_cases hx : x = 1
    · simp [hx, hi1, show (1 : Nat) ≠ sh.fds.lowestFree by omega]
    · by_cases hxa : x = sh.fds.lowestFree <;>
        simp [hx, hxa, base, show sh.fds.lowestFree ≠ 0 by omega, show sh.fds.lowestFree ≠ 1 by omega]
  · have hstd' : ∀ fd < 3,
        (sh.fds.set sh.fds.lowestFree (some ⟨sh.next, .file p .rdonly⟩)).get fd ≠ none :=
      fun fd h => by simp only [FdTable.get_set]; split_ifs <;> simp_all
    have hb := FdTable.three_le_lowestFree hstd'
    have hfb := FdTable.get_lowestFree (sh.fds.set sh.fds.lowestFree (some ⟨sh.next, .file p .rdonly⟩))
    simp only [FdTable.get_set] at hfb
    split_ifs at hfb with hba
    refine ⟨_, _, ⟨sh.next, .file p .rdonly⟩, ⟨sh.next + 1, .file q (.creat outputMode)⟩, rfl,
      ⟨hstd, .inr ⟨ha, hfa⟩, .inr ⟨hb, hba, hfb⟩, fun x => ?_⟩,
      rfl, rfl, by simp; omega, by simp only; omega, rfl, rfl, rfl, rfl, rfl⟩
    by_cases hxb : x = (sh.fds.set sh.fds.lowestFree (some ⟨sh.next, .file p .rdonly⟩)).lowestFree
    · simp [hxb]
    · by_cases hxa : x = sh.fds.lowestFree <;>
        simp [hxb, hxa, base, show sh.fds.lowestFree ≠ 0 by omega]

lemma launch_forks (hx : command.name ≠ "exit") (hc : command.name ≠ "cd")
    (hp : o.pipeOk j = true) (hf : o.forkOk j = true) (onLast : Bool) :
    ∃ l₁ sh₁ c, launch o j command onLast l sh = .next l₁ sh₁ ∧ sh₁.lastPid = sh.lastPid + 1 ∧
      sh₁.procs = sh.procs ++ [c] ∧ c.argv = command ∧ c.pid = sh.lastPid + 1 ∧
      l₁.commandCounter = l.commandCounter ∧ l₁.lastIn = l.lastIn ∧ l₁.index = l.index + 1 ∧
      l₁.commandPids = l.commandPids.set l.index (some ((sh.lastPid + 1 : Nat) : Int)) := by
  cases onLast
  · rw [launch_piped hx hc hp, forkStage_snd_ok hf]
    exact ⟨_, _, childRun o j command (some (sh.pipe.1, sh.pipe.2.1)) { l with childIn := sh.pipe.1 }
      sh.pipe.2.2.fds sh.pipe.2.2.cwd (sh.lastPid + 1), rfl, by simp, by simp, by simp, by simp, by simp, by simp, rfl,
      by simp [hf]⟩
  · rw [launch_leftmost hx hc, forkStage_snd_ok hf]
    exact ⟨_, _, childRun o j command none { l with childIn := l.lastIn } sh.fds sh.cwd
      (sh.lastPid + 1),
      rfl, by simp, by simp, by simp, by simp, by simp, by simp, rfl, by simp [hf]⟩

theorem launchLoop_forks {pgm : List Argv} {l' : Locals} {sh' : Shell}
    (hext : ∀ a ∈ pgm, a.name ≠ "exit" ∧ a.name ≠ "cd")
    (hpipe : ∀ j, o.pipeOk j = true) (hfork : ∀ j, o.forkOk j = true)
    (hrun : launchLoop o j pgm l sh = .done l' sh') :
    sh'.lastPid = sh.lastPid + pgm.length ∧ ∃ new, sh'.procs = sh.procs ++ new ∧
      new.length = pgm.length ∧
      ∀ i c, new[i]? = some c → pgm[i]? = some c.argv ∧ c.pid = sh.lastPid + 1 + i := by
  induction pgm generalizing j l sh with
  | nil =>
    obtain ⟨-, rfl⟩ := Launched.done.inj hrun
    exact ⟨rfl, [], by simp, rfl, by simp⟩
  | cons command rest ih =>
    obtain ⟨hx, hc⟩ := hext command (List.mem_cons_self _ _)
    obtain ⟨l₁, sh₁, c, hl, hpid, hprocs, hargv, hcpid, -⟩ :=
      launch_forks hx hc (hpipe j) (hfork j) rest.isEmpty
    rw [launchLoop_next hl] at hrun
    obtain ⟨hlast, new, hnew, hlen, hat⟩ :=
      ih (fun a ha => hext a (List.mem_cons_of_mem _ ha)) hrun
    refine ⟨by simp only [hlast, hpid, List.length_cons]; omega, c :: new,
      by simp [hnew, hprocs], by simp [hlen], ?_⟩
    rintro (_ | i) c' hi
    · obtain rfl := Option.some.inj (List.getElem?_cons_zero.symm.trans hi)
      simp [hargv, hcpid]
    · obtain ⟨h1, h2⟩ := hat i c' (by simpa using hi)
      exact ⟨by simpa using h1, by rw [h2, hpid]; omega⟩

end Eda093.Lsh
