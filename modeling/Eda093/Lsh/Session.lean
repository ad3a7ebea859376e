import Eda093.Lsh.Pipeline
import Eda093.Lsh.Waiting
import Eda093.Lsh.Main

/-! What holds of the interpreter between two commands of a session, on every path. -/

namespace Eda093.Lsh

def FdTable.IdsBelow (t : FdTable) (n : Nat) : Prop := ∀ fd x, t.get fd = some x → x.id < n

namespace FdTable

variable {t : FdTable} {n : Nat}

lemma IdsBelow.mono (h : t.IdsBelow n) {m : Nat} (hm : n ≤ m) : t.IdsBelow m :=
  fun fd x hx => Nat.lt_of_lt_of_le (h fd x hx) hm

lemma IdsBelow.set (h : t.IdsBelow n) {fd : Nat} {v : Option Obj}
    (hv : ∀ x, v = some x → x.id < n) : (t.set fd v).IdsBelow n := by
  intro y x hy
  rw [get_set] at hy
  split_ifs at hy
  exacts [hv x hy, h y x hy]

lemma IdsBelow.close (h : t.IdsBelow n) (fd : Nat) : (t.close fd).IdsBelow n := h.set (by simp)

lemma IdsBelow.dup2 (h : t.IdsBelow n) (a b : Nat) : (t.dup2 a b).IdsBelow n := by
  intro y x hy
  rw [get_dup2] at hy
  split_ifs at hy
  exacts [h _ _ hy, h _ _ hy]

end FdTable

lemma childFds_idsBelow {t : FdTable} {n : Nat} (h : t.IdsBelow n) (pd : Option (Nat × Nat))
    (l : Locals) : (childFds pd l t).IdsBelow n := by
  unfold childFds
  rcases pd with _ | ⟨_, w⟩ <;> dsimp only <;> split_ifs <;>
    repeat (first | exact h | apply FdTable.IdsBelow.close | apply FdTable.IdsBelow.dup2)

structure Shell.Good (sh : Shell) : Prop where
  term : ∀ fd < 3, sh.fds.get fd = some ⟨fd, .inherited⟩
  fds : sh.fds.IdsBelow sh.next
  procs : ∀ c ∈ sh.procs, c.fds.IdsBelow sh.next
  pids : PidsOk sh
  sigint : sh.sigint = .sigIgn

lemma Shell.Good.std {sh : Shell} (h : sh.Good) : ∀ fd < 3, sh.fds.get fd ≠ none :=
  fun fd hfd => by rw [h.term fd hfd]; exact Option.some_ne_none _

lemma Shell.Good.fresh {sh : Shell} (h : sh.Good) : sh.Fresh := by
  rintro (_ | i) fd x hx
  · exact h.fds fd x hx
  · obtain ⟨c, hc, hx⟩ := hx
    exact h.procs c (List.getElem?_mem hc) fd x hx

lemma init_good (cwd : String) (pid : Nat) : (Shell.init cwd pid).Good where
  term fd hfd := by
    rcases fd with _ | _ | _ | fd
    · simp [Shell.init, FdTable.ofList]
    · simp [Shell.init, FdTable.ofList]
    · simp [Shell.init, FdTable.ofList]
    · omega
  fds fd x hx := init_fresh cwd pid none fd x hx
  procs c hc := absurd hc (List.not_mem_nil c)
  pids := init_pidsOk cwd pid
  sigint := rfl

structure Locals.Ok (l : Locals) : Prop where
  lastIn : l.lastIn = 0 ∨ 3 ≤ l.lastIn
  childOut : l.childOut = 1 ∨ 3 ≤ l.childOut

def Turn.Good : Turn → Prop
  | .next l sh | .broke l sh => l.Ok ∧ sh.Good
  | .exited sh _ => sh.Good

lemma Locals.Ok.forkStage {o : Outcomes} {j : Nat} {command : Argv} {pd : Option (Nat × Nat)}
    {l : Locals} {sh : Shell} (hl : l.Ok) (hpd : ∀ r w, pd = some (r, w) → 3 ≤ w) :
    (Lsh.forkStage o j command pd l sh).1.Ok := by
  unfold Lsh.forkStage
  rcases pd with _ | ⟨r, w⟩
  exacts [⟨hl.lastIn, hl.childOut⟩, ⟨hl.lastIn, .inr (hpd r w rfl)⟩]

namespace Shell.Good

variable {o : Outcomes} {j : Nat} {command : Argv} {pd : Option (Nat × Nat)} {l : Locals}
  {sh : Shell}

lemma close' (h : sh.Good) {fd : Nat} (hfd : 3 ≤ fd) : (sh.close fd).Good :=
  ⟨fun x hx => by simpa [show x ≠ fd by omega] using h.term x hx, h.fds.close fd, h.procs, h.pids,
    h.sigint⟩

lemma closeIf (h : sh.Good) {c : Prop} [Decidable c] {fd : Nat} (hfd : c → 3 ≤ fd) :
    (if c then sh.close fd else sh).Good := by
  split_ifs with hc
  exacts [h.close' (hfd hc), h]

lemma say (h : sh.Good) (m : String) : (sh.say m).Good :=
  ⟨h.term, h.fds, h.procs, h.pids, h.sigint⟩

lemma openFile (h : sh.Good) (k : Kind) : (sh.openFile k).2.Good := by
  refine ⟨fun x hx => ?_, (h.fds.mono (Nat.le_succ _)).set ?_, fun c hc => (h.procs c hc).mono
    (Nat.le_succ _), h.pids, h.sigint⟩
  · have := FdTable.three_le_lowestFree h.std
    simp only [Shell.openFile, FdTable.get_set, if_neg (show x ≠ sh.fds.lowestFree by omega)]
    exact h.term x hx
  · rintro x ⟨⟩
    exact Nat.lt_succ_self _

lemma pipe_ends (h : sh.Good) : 3 ≤ sh.pipe.1 ∧ 3 ≤ sh.pipe.2.1 := by
  refine ⟨FdTable.three_le_lowestFree h.std, FdTable.three_le_lowestFree fun x hx => ?_⟩
  simp only [FdTable.get_set]
  split_ifs
  exacts [Option.some_ne_none _, h.std x hx]

lemma pipe (h : sh.Good) : sh.pipe.2.2.Good := by
  refine ⟨fun x hx => ?_, fun x y hy => ?_, fun c hc => (h.procs c hc).mono (Nat.le_succ _),
    h.pids, h.sigint⟩
  · obtain ⟨hr, hw⟩ := h.pipe_ends
    rw [Shell.pipe_fds, if_neg (by omega), if_neg (by omega)]
    exact h.term x hx
  · rw [Shell.pipe_fds] at hy
    simp only [Shell.pipe_next]
    split_ifs at hy
    · cases hy; exact Nat.lt_succ_self _
    · cases hy; exact Nat.lt_succ_self _
    · exact Nat.lt_succ_of_lt (h.fds x y hy)

lemma spawn (h : sh.Good) (c : Nat → Child) (hpid : (c (sh.lastPid + 1)).pid = sh.lastPid + 1)
    (hids : (c (sh.lastPid + 1)).fds.IdsBelow sh.next) : (sh.spawn c).Good := by
  refine ⟨h.term, h.fds, fun c' hc' => ?_, h.pids.spawn c hpid, h.sigint⟩
  rcases List.mem_append.1 hc' with hc' | hc'
  · exact h.procs c' hc'
  · rw [List.mem_singleton.1 hc']
    exact hids

lemma parentClose (h : sh.Good) (hin : l.childIn = 0 ∨ 3 ≤ l.childIn)
    (hout : l.childOut = 1 ∨ 3 ≤ l.childOut) : (Lsh.parentClose l sh).Good :=
  (h.closeIf hin.resolve_left).closeIf hout.resolve_left

lemma chdir (h : sh.Good) (path : Option String) : (sh.chdir o j path).Good := by
  unfold Shell.chdir
  split
  exacts [h.say _, h.say _, ⟨h.term, h.fds, h.procs, h.pids, h.sigint⟩]

lemma forkStage (h : sh.Good) (hin : l.childIn = 0 ∨ 3 ≤ l.childIn)
    (hout : l.childOut = 1 ∨ 3 ≤ l.childOut) : (Lsh.forkStage o j command pd l sh).2.Good := by
  cases hf : o.forkOk j
  · rw [forkStage_snd_fail hf]
    exact h.parentClose hin hout
  · rw [forkStage_snd_ok hf]
    exact (h.spawn _ (by simp) (by simpa using childFds_idsBelow h.fds pd l)).parentClose hin hout

lemma dispatch (h : sh.Good) (hl : l.Ok) (hin : l.childIn = 0 ∨ 3 ≤ l.childIn)
    (hpd : ∀ r w, pd = some (r, w) → 3 ≤ w) : (Lsh.dispatch o j command pd l sh).Good := by
  unfold Lsh.dispatch
  split_ifs
  · exact h
  · exact And.intro ⟨hl.lastIn, hl.childOut⟩ (h.chdir _)
  · have hl' : (Lsh.forkStage o j command pd l sh).1.Ok := hl.forkStage hpd
    exact And.intro ⟨hl'.lastIn, hl'.childOut⟩ (h.forkStage hin hl.childOut)

lemma launch (h : sh.Good) (hl : l.Ok) (onLast : Bool) :
    (Lsh.launch o j command onLast l sh).Good := by
  cases onLast
  · by_cases hp : o.pipeOk j
    · rw [launch_pipe_ok hp]
      obtain ⟨hr, hw⟩ := h.pipe_ends
      exact h.pipe.dispatch ⟨hl.lastIn, hl.childOut⟩ (.inr hr) (by rintro r w ⟨⟩; exact hw)
    · simp only [Lsh.launch, Bool.false_eq_true, if_false, hp]
      exact And.intro hl ((h.say _).closeIf hl.childOut.resolve_left)
  · rw [Lsh.launch, if_pos rfl]
    exact h.dispatch ⟨hl.lastIn, hl.childOut⟩ hl.lastIn (by rintro _ _ ⟨⟩)

lemma launchLoop (h : sh.Good) (hl : l.Ok) (pgm : List Argv) :
    (Lsh.launchLoop o j pgm l sh).shell.Good := by
  induction pgm generalizing j l sh with
  | nil => exact h
  | cons command pgm ih =>
    have ht : (Lsh.launch o j command pgm.isEmpty l sh).Good := h.launch hl _
    simp only [Lsh.launchLoop]
    split <;> rename_i heq <;> simp only [heq, Turn.Good] at ht
    exacts [ih ht.2 ht.1, ht.2, ht]

lemma openInput (h : sh.Good) (cmd : Command) :
    match Lsh.openInput o cmd sh with
    | .ok (lastIn, sh') => (lastIn = 0 ∨ 3 ≤ lastIn) ∧ sh'.Good
    | .error sh' => sh'.Good := by
  unfold Lsh.openInput
  cases cmd.rstdin <;> cases o.openErr <;> dsimp only
  · exact ⟨.inl rfl, h⟩
  · exact ⟨.inl rfl, h⟩
  · exact ⟨.inr (FdTable.three_le_lowestFree h.std), h.openFile _⟩
  · exact h.say _

lemma openOutput (h : sh.Good) (cmd : Command) {lastIn : Nat} (hin : lastIn = 0 ∨ 3 ≤ lastIn) :
    match Lsh.openOutput o cmd lastIn sh with
    | .ok (childOut, sh') => (childOut = 1 ∨ 3 ≤ childOut) ∧ sh'.Good
    | .error sh' => sh'.Good := by
  unfold Lsh.openOutput
  cases cmd.rstdout <;> cases o.creatErr <;> dsimp only
  · exact ⟨.inl rfl, h⟩
  · exact ⟨.inl rfl, h⟩
  · exact ⟨.inr (FdTable.three_le_lowestFree h.std), h.openFile _⟩
  · exact (h.say _).closeIf hin.resolve_left

lemma redirect (h : sh.Good) (cmd : Command) :
    match Lsh.redirect o cmd sh with
    | .ok (l, sh') => l.Ok ∧ sh'.Good
    | .error sh' => sh'.Good := by
  have hi := h.openInput (o := o) cmd
  rcases hin : Lsh.openInput o cmd sh with sh₁ | ⟨lastIn, sh₁⟩ <;> rw [hin] at hi
  · simp only [Lsh.redirect, hin]
    exact hi
  obtain ⟨hl, h₁⟩ := hi
  have ho := h₁.openOutput (o := o) cmd hl
  rcases hout : Lsh.openOutput o cmd lastIn sh₁ with sh₂ | ⟨childOut, sh₂⟩ <;> rw [hout] at ho <;>
    simp only [Lsh.redirect, hin, hout]
  · exact ho
  · exact ⟨⟨hl, ho.1⟩, ho.2⟩

lemma waitChildren (h : sh.Good) (cmd : Command) (l : Locals) : (Lsh.waitChildren cmd l sh).Good := by
  have hs : (Lsh.waitChildren cmd l sh).sigint = .sigIgn := by
    unfold Lsh.waitChildren
    split
    exacts [h.sigint, rfl]
  obtain ⟨st, ch, n, hd, he⟩ := waitChildren_frame cmd l sh
  rw [he] at hs ⊢
  exact ⟨h.term, h.fds, h.procs, h.pids, hs⟩

end Shell.Good

lemma runCommand_good (o : Outcomes) (parseResult : Int) (cmd : Command) {sh : Shell}
    (h : sh.Good) : (runCommand o parseResult cmd sh).2.Good := by
  have hr := h.redirect (o := o) cmd
  unfold runCommand
  split
  · next heq => rw [heq] at hr; exact hr
  · next l sh₁ heq =>
    rw [heq] at hr
    have hloop := hr.2.launchLoop hr.1 (o := o) (j := 0) cmd.pgm
    split
    · next heq' => rw [heq'] at hloop; exact hloop
    · next l' sh₂ heq' => rw [heq'] at hloop; exact hloop.waitChildren cmd l'

lemma mainLoop_good (o : Nat → Outcomes) (parse : List Char → Command → Int × Command)
    (k : Nat) (cmd : Command) (lines : List (List Char)) {sh : Shell} (h : sh.Good) :
    (mainLoop o parse k cmd lines sh).2.Good := by
  induction lines generalizing k cmd sh with
  | nil => exact h
  | cons line lines ih =>
    rw [mainLoop]
    split_ifs
    · exact ih _ _ h
    split
    next parseResult cmd' _ =>
      have h₁ := runCommand_good (o k) parseResult cmd' h
      split
      · next heq =>
        rw [heq] at h₁
        exact ih _ _ h₁
      · next heq =>
        rw [heq] at h₁
        exact h₁

theorem main_keeps_terminal (o : Nat → Outcomes) (parse : List Char → Command → Int × Command)
    (cmd : Command) (lines : List (List Char)) (cwd : String) (pid : Nat) :
    let sh := (mainLoop o parse 0 cmd lines (Shell.init cwd pid)).2
    (∀ fd < 3, sh.fds.get fd = (Shell.init cwd pid).fds.get fd) ∧ sh.sigint = .sigIgn :=
  have h := mainLoop_good o parse 0 cmd lines (init_good cwd pid)
  ⟨fun fd hfd => (h.term fd hfd).trans ((init_good cwd pid).term fd hfd).symm, h.sigint⟩

theorem session_wires_pipeline (o : Nat → Outcomes) (parse : List Char → Command → Int × Command)
    (cmd₀ : Command) (lines : List (List Char)) (cwd : String) (pid : Nat) (o' : Outcomes)
    (parseResult : Int) (cmd : Command) (hne : cmd.pgm ≠ [])
    (hext : ∀ a ∈ cmd.pgm, a.name ≠ "exit" ∧ a.name ≠ "cd") (hopen : o'.openErr = none)
    (hcreat : o'.creatErr = none) (hpipe : ∀ j, o'.pipeOk j = true)
    (hfork : ∀ j, o'.forkOk j = true) :
    let sh := (mainLoop o parse 0 cmd₀ lines (Shell.init cwd pid)).2
    Wired cmd sh (runCommand o' parseResult cmd sh).2 :=
  have h := mainLoop_good o parse 0 cmd₀ lines (init_good cwd pid)
  runCommand_wired o' parseResult cmd _ hne hext h.std h.fresh hopen hcreat hpipe hfork

theorem cat_wc_wired_after_sleep :
    let sh := (mainLoop (fun _ => .succeed) rejectAll 0 sleepFive ["sleep 5".toList]
      (Shell.init "/" 100)).2
    Wired catWc sh (runCommand .succeed 0 catWc sh).2 :=
  session_wires_pipeline _ _ _ _ _ _ _ _ _ (by decide) (by decide) rfl rfl (fun _ => rfl)
    (fun _ => rfl)

theorem session_waits_children (o : Nat → Outcomes) (parse : List Char → Command → Int × Command)
    (cmd₀ : Command) (lines : List (List Char)) (cwd : String) (pid : Nat) (o' : Outcomes)
    (parseResult : Int) (cmd : Command) (hfg : cmd.background = false)
    (hx : ∀ a ∈ cmd.pgm, a.name ≠ "exit" ∧ a.name ≠ "cd") :
    let sh := (mainLoop o parse 0 cmd₀ lines (Shell.init cwd pid)).2
    ∃ new, (runCommand o' parseResult cmd sh).2.procs = sh.procs ++ new ∧
      ∀ c ∈ new, (runCommand o' parseResult cmd sh).2.status c.pid = c.waited :=
  runCommand_waited o' parseResult cmd _ hfg hx
    (mainLoop_good o parse 0 cmd₀ lines (init_good cwd pid)).pids

theorem sleep_five_waited_twice :
    let sh := (mainLoop (fun _ => .succeed) rejectAll 0 sleepFive ["sleep 5".toList]
      (Shell.init "/" 100)).2
    ∃ new, (runCommand .succeed 0 sleepFive sh).2.procs = sh.procs ++ new ∧
      ∀ c ∈ new, (runCommand .succeed 0 sleepFive sh).2.status c.pid = c.waited :=
  session_waits_children _ _ _ _ _ _ _ _ _ rfl (by decide)

end Eda093.Lsh
