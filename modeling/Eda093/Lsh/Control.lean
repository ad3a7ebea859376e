import Eda093.Lsh.RunCommand

/-! Without an `exit` stage no path of `RunCommand` ends the interpreter, and every child it
forks leaves through `execvp` or `exit`. -/

namespace Eda093.Lsh

variable {o : Outcomes} {j : Nat} {command : Argv} {pd : Option (Nat × Nat)} {l : Locals}
  {sh sh₁ sh₂ sh₃ : Shell}

def Spawned (sh₁ sh₂ : Shell) : Prop :=
  ∃ new, sh₂.procs = sh₁.procs ++ new ∧ ∀ c ∈ new, c.flow = .execs c.argv ∨ c.flow = .exits 0

lemma Spawned.of_procs (h : sh₂.procs = sh₁.procs) : Spawned sh₁ sh₂ :=
  ⟨[], by simp [h], by simp⟩

lemma Spawned.trans : Spawned sh₁ sh₂ → Spawned sh₂ sh₃ → Spawned sh₁ sh₃ := by
  rintro ⟨a, ha, hfa⟩ ⟨b, hb, hfb⟩
  refine ⟨a ++ b, by simp [hb, ha], fun c hc => ?_⟩
  rcases List.mem_append.mp hc with h | h
  exacts [hfa c h, hfb c h]

lemma childRun_flow (t : FdTable) (cwd : String) (pid : Nat) :
    (childRun o j command pd l t cwd pid).flow = .execs (childRun o j command pd l t cwd pid).argv ∨
      (childRun o j command pd l t cwd pid).flow = .exits 0 := by
  unfold childRun
  split <;> simp

lemma forkStage_spawned : Spawned sh (forkStage o j command pd l sh).2 := by
  unfold forkStage
  split
  · exact ⟨[childRun o j command pd l sh.fds sh.cwd (sh.lastPid + 1)], by simp, by
      simpa using childRun_flow _ _ _⟩
  · exact .of_procs (by simp)

lemma dispatch_spawned : Spawned sh (dispatch o j command pd l sh).shell := by
  unfold dispatch
  split_ifs
  · exact .of_procs rfl
  · exact .of_procs (by unfold Shell.chdir; split <;> rfl)
  · exact forkStage_spawned

lemma launch_spawned (onLast : Bool) : Spawned sh (launch o j command onLast l sh).shell := by
  unfold launch
  split_ifs with _ _ hout
  · exact dispatch_spawned
  · exact (Spawned.of_procs rfl).trans dispatch_spawned
  all_goals exact .of_procs rfl

lemma launchLoop_spawned (pgm : List Argv) : Spawned sh (launchLoop o j pgm l sh).shell := by
  induction pgm generalizing j l sh with
  | nil => exact .of_procs rfl
  | cons command pgm ih =>
    have h : Spawned sh (launch o j command pgm.isEmpty l sh).shell := launch_spawned _
    simp only [launchLoop]
    split <;> rename_i heq <;> rw [heq] at h
    exacts [h.trans ih, h, h]

lemma launch_ne_exited (hx : command.name ≠ "exit") (onLast : Bool) (sh' : Shell) (code : Int) :
    launch o j command onLast l sh ≠ .exited sh' code := by
  unfold launch dispatch
  split_ifs <;> simp

lemma launchLoop_done {pgm : List Argv} (hx : ∀ a ∈ pgm, a.name ≠ "exit") :
    ∃ l' sh', launchLoop o j pgm l sh = .done l' sh' := by
  induction pgm generalizing j l sh with
  | nil => exact ⟨l, sh, rfl⟩
  | cons command pgm ih =>
    simp only [launchLoop]
    split
    · exact ih fun a ha => hx a (List.mem_cons_of_mem _ ha)
    · exact ⟨_, _, rfl⟩
    · exact absurd ‹_› (launch_ne_exited (hx _ (List.mem_cons_self _ _)) _ _ _)

def Files (sh sh' : Shell) : Prop :=
  ∃ fds next stderr, sh' = { sh with fds := fds, next := next, stderr := stderr }

lemma Files.refl (sh : Shell) : Files sh sh := ⟨sh.fds, sh.next, sh.stderr, rfl⟩

lemma Files.procs (h : Files sh₁ sh₂) : sh₂.procs = sh₁.procs ∧ sh₂.lastPid = sh₁.lastPid := by
  obtain ⟨_, _, _, rfl⟩ := h
  exact ⟨rfl, rfl⟩

lemma redirect_files (o : Outcomes) (cmd : Command) (sh : Shell) :
    match redirect o cmd sh with
    | .ok (l, sh') => Files sh sh' ∧ l.commandCounter = cmd.pgm.length ∧
        l.commandPids = List.replicate cmd.pgm.length none ∧ l.index = 0
    | .error sh' => Files sh sh' := by
  rcases cmd with ⟨pgm, _ | p, _ | q, bg⟩ <;>
    simp only [redirect, openInput, openOutput, Shell.openFile, Shell.say, Shell.close,
      countCommands_eq_length] <;>
    cases o.openErr <;> cases o.creatErr <;> (try simp only) <;>
    first
    | exact ⟨_, _, _, rfl⟩
    | exact ⟨⟨_, _, _, rfl⟩, by simp⟩
    | split_ifs <;> exact ⟨_, _, _, rfl⟩

lemma waitpid_frame (sh : Shell) (pid : Option Int) : ∃ st, sh.waitpid pid = { sh with status := st } := by
  unfold Shell.waitpid
  split
  · exact ⟨_, rfl⟩
  · exact ⟨sh.status, rfl⟩

lemma foldl_waitpid_frame (ps : List (Option Int)) (sh : Shell) :
    ∃ st, ps.foldl Shell.waitpid sh = { sh with status := st } := by
  induction ps generalizing sh with
  | nil => exact ⟨sh.status, rfl⟩
  | cons p ps ih =>
    obtain ⟨st, h⟩ := waitpid_frame sh p
    obtain ⟨st', h'⟩ := ih (sh.waitpid p)
    exact ⟨st', by rw [List.foldl_cons, h', h]⟩

lemma waitChildren_frame (cmd : Command) (l : Locals) (sh : Shell) : ∃ st ch n h, waitChildren cmd l sh =
    { sh with status := st, children := ch, numChildren := n, sigint := h } := by
  unfold waitChildren
  split
  · exact ⟨sh.status, sh.children, sh.numChildren, sh.sigint, rfl⟩
  · obtain ⟨st, h⟩ := foldl_waitpid_frame (waitArgs l) (arm l sh)
    exact ⟨st, _, _, _, by rw [h]; rfl⟩

lemma waitChildren_procs (cmd : Command) : (waitChildren cmd l sh).procs = sh.procs := by
  obtain ⟨_, _, _, _, h⟩ := waitChildren_frame cmd l sh
  rw [h]

theorem runCommand_never_ends_interpreter (o : Outcomes) (parseResult : Int) (cmd : Command)
    (sh : Shell) (hx : ∀ a ∈ cmd.pgm, a.name ≠ "exit") :
    (runCommand o parseResult cmd sh).1 = .returns ∧ Spawned sh (runCommand o parseResult cmd sh).2 := by
  have hr := redirect_files o cmd sh
  unfold runCommand
  split
  · next sh' h => rw [h] at hr; exact ⟨rfl, .of_procs hr.procs.1⟩
  · next l sh' h =>
    rw [h] at hr
    obtain ⟨l', sh'', hd⟩ : ∃ l' sh'', launchLoop o 0 cmd.pgm l sh' = .done l' sh'' :=
      launchLoop_done hx
    have hs : Spawned sh' (launchLoop o 0 cmd.pgm l sh').shell := launchLoop_spawned _
    rw [hd] at hs ⊢
    exact ⟨rfl, (Spawned.of_procs hr.1.procs.1).trans (hs.trans (.of_procs (waitChildren_procs cmd)))⟩

theorem ls_never_ends_interpreter :
    (runCommand .succeed 0 ⟨[⟨"ls", []⟩], none, none, false⟩ (Shell.init "/" 100)).1 = .returns ∧
      Spawned (Shell.init "/" 100)
        (runCommand .succeed 0 ⟨[⟨"ls", []⟩], none, none, false⟩ (Shell.init "/" 100)).2 :=
  runCommand_never_ends_interpreter _ _ _ _ (by decide)

end Eda093.Lsh
