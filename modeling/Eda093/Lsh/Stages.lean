import Eda093.Lsh.Control

/-! `RunCommand` performs the stages in the order of the parser's list, rightmost first. -/

namespace Eda093.Lsh

def chdirCwd (o : Outcomes) (j : Nat) (path : Option String) (cwd : String) : String :=
  match path, o.chdirErr j with
  | some p, none => o.resolve cwd p
  | _, _ => cwd

structure Performed where
  cwd : String
  started : List (Argv × String)
  exited : Bool
  deriving DecidableEq

def perform (o : Outcomes) : List (Nat × Argv) → String → Performed
  | [], cwd => ⟨cwd, [], false⟩
  | (j, a) :: rest, cwd =>
    if a.name = "exit" then ⟨cwd, [], true⟩
    else if a.name = "cd" then perform o rest (chdirCwd o j a.args.head? cwd)
    else
      let r := perform o rest cwd
      { r with started := if o.forkOk j then (a, cwd) :: r.started else r.started }

def Performs (r : Performed) (sh : Shell) (flow : Flow) (sh' : Shell) : Prop :=
  flow = (if r.exited then .exits 0 else .returns) ∧ sh'.cwd = r.cwd ∧
    ∃ new : List Child, sh'.procs = sh.procs ++ new ∧ new.map (fun c => (c.argv, c.cwd)) = r.started

def Launched.flow : Launched → Flow
  | .done _ _ => .returns
  | .exited _ code => .exits code

variable {o : Outcomes} {j : Nat} {a : Argv} {pd : Option (Nat × Nat)} {l : Locals}
  {sh sh₀ sh' sh'' : Shell} {r s : Performed} {flow : Flow}

@[simp] lemma Shell.chdir_cwd (path : Option String) :
    (sh.chdir o j path).cwd = chdirCwd o j path sh.cwd := by
  unfold Shell.chdir chdirCwd
  cases path <;> cases o.chdirErr j <;> rfl

@[simp] lemma Shell.chdir_procs (path : Option String) : (sh.chdir o j path).procs = sh.procs := by
  unfold Shell.chdir
  split <;> rfl

@[simp] lemma parentClose_cwd : (parentClose l sh).cwd = sh.cwd := by
  simp only [parentClose]; split_ifs <;> rfl

@[simp] lemma forkStage_cwd : (forkStage o j a pd l sh).2.cwd = sh.cwd := by
  unfold forkStage; split <;> simp [Shell.spawn]

lemma perform_cons_exit (hx : a.name = "exit") (rest : List (Nat × Argv)) (cwd : String) :
    perform o ((j, a) :: rest) cwd = ⟨cwd, [], true⟩ := by
  simp [perform, hx]

lemma perform_cons (hx : a.name ≠ "exit") (rest : List (Nat × Argv)) (cwd : String) :
    perform o ((j, a) :: rest) cwd =
      { perform o rest (perform o [(j, a)] cwd).cwd with
        started := (perform o [(j, a)] cwd).started ++
          (perform o rest (perform o [(j, a)] cwd).cwd).started } := by
  by_cases hc : a.name = "cd" <;> cases hf : o.forkOk j <;> simp [perform, hx, hc, hf]

lemma Performs.cons (h₁ : Performs s sh .returns sh') (h₂ : Performs r sh' flow sh'') :
    Performs { r with started := s.started ++ r.started } sh flow sh'' := by
  obtain ⟨-, -, new₁, hp₁, hm₁⟩ := h₁
  obtain ⟨hf, hc, new₂, hp₂, hm₂⟩ := h₂
  exact ⟨hf, hc, new₁ ++ new₂, by rw [hp₂, hp₁, List.append_assoc], by simp [hm₁, hm₂]⟩

lemma Files.cwd (h : Files sh₀ sh) : sh.cwd = sh₀.cwd := by
  obtain ⟨_, _, _, rfl⟩ := h
  rfl

lemma Performs.of_files (hf : Files sh₀ sh) (h : Performs r sh flow sh') : Performs r sh₀ flow sh' := by
  obtain ⟨_, _, _, rfl⟩ := hf
  exact h

lemma Performs.wait (cmd : Command) (l : Locals) (h : Performs r sh flow sh') :
    Performs r sh flow (waitChildren cmd l sh') := by
  obtain ⟨_, _, _, _, hw⟩ := waitChildren_frame cmd l sh'
  rw [hw]
  exact h

lemma dispatch_performs (hcwd : sh₀.cwd = sh.cwd) (hprocs : sh₀.procs = sh.procs) :
    match dispatch o j a pd l sh₀ with
    | .next _ sh' => a.name ≠ "exit" ∧ Performs (perform o [(j, a)] sh.cwd) sh .returns sh'
    | .exited sh' code => a.name = "exit" ∧ code = 0 ∧ sh'.cwd = sh.cwd ∧ sh'.procs = sh.procs
    | .broke _ _ => False := by
  unfold dispatch
  by_cases hx : a.name = "exit"
  · simp [hx, hcwd, hprocs]
  rw [if_neg hx]
  by_cases hc : a.name = "cd"
  · rw [if_pos hc]
    refine ⟨hx, ?_, ?_, [], ?_, ?_⟩ <;> simp [perform, hx, hc, hcwd, hprocs]
  · simp only [if_neg hc]
    refine ⟨hx, ?_, ?_, ?_⟩
    · simp [perform, hx, hc]
    · simp [perform, hx, hc, hcwd]
    cases hf : o.forkOk j
    · exact ⟨[], by simp [forkStage, hf, hprocs], by simp [perform, hx, hc, hf]⟩
    · exact ⟨[childRun o j a pd l sh₀.fds sh₀.cwd (sh₀.lastPid + 1)],
        by simp [forkStage_snd_ok hf, hprocs], by simp [perform, hx, hc, hf, hcwd]⟩

lemma launch_performs (hp : o.pipeOk j = true) (onLast : Bool) :
    match launch o j a onLast l sh with
    | .next _ sh' => a.name ≠ "exit" ∧ Performs (perform o [(j, a)] sh.cwd) sh .returns sh'
    | .exited sh' code => a.name = "exit" ∧ code = 0 ∧ sh'.cwd = sh.cwd ∧ sh'.procs = sh.procs
    | .broke _ _ => False := by
  cases onLast
  · rw [launch_pipe_ok hp]
    exact dispatch_performs rfl rfl
  · rw [launch, if_pos rfl]
    exact dispatch_performs rfl rfl

lemma launchLoop_performs (hp : ∀ j, o.pipeOk j = true) (pgm : List Argv) (j : Nat) (l : Locals)
    (sh : Shell) : Performs (perform o (pgm.enumFrom j) sh.cwd) sh (launchLoop o j pgm l sh).flow
      (launchLoop o j pgm l sh).shell := by
  induction pgm generalizing j l sh with
  | nil => exact ⟨rfl, rfl, [], by simp [launchLoop, Launched.shell], rfl⟩
  | cons a rest ih =>
    have h := @launch_performs o j a l sh (hp j) rest.isEmpty
    rw [List.enumFrom_cons, launchLoop]
    rcases hl : launch o j a rest.isEmpty l sh with ⟨l', sh'⟩ | ⟨l', sh'⟩ | ⟨sh', code⟩ <;>
      rw [hl] at h
    · obtain ⟨hx, hs⟩ := h
      rw [perform_cons hx, ← hs.2.1]
      exact hs.cons (ih (j + 1) l' sh')
    · exact h.elim
    · obtain ⟨hx, rfl, hcwd, hprocs⟩ := h
      rw [perform_cons_exit hx]
      exact ⟨rfl, hcwd, [], by simp [Launched.shell, hprocs], rfl⟩

lemma redirect_ne_error (ho : o.openErr = none) (hc : o.creatErr = none) (cmd : Command) :
    redirect o cmd sh ≠ .error sh' := by
  rcases cmd with ⟨pgm, _ | p, _ | q, bg⟩ <;> simp [redirect, openInput, openOutput, ho, hc]

theorem runCommand_performs_stages_right_to_left (o : Outcomes) (parseResult : Int) (cmd : Command)
    (sh : Shell) (ho : o.openErr = none) (hc : o.creatErr = none) (hp : ∀ j, o.pipeOk j = true) :
    Performs (perform o cmd.pgm.enum sh.cwd) sh (runCommand o parseResult cmd sh).1
      (runCommand o parseResult cmd sh).2 := by
  have hr := redirect_files o cmd sh
  unfold runCommand
  rcases hred : redirect o cmd sh with sh₁ | ⟨l, sh₁⟩
  · exact absurd hred (redirect_ne_error ho hc cmd)
  rw [hred] at hr
  dsimp only
  have h := launchLoop_performs hp cmd.pgm 0 l sh₁
  rw [hr.1.cwd] at h
  rcases hl : launchLoop o 0 cmd.pgm l sh₁ with ⟨l', sh'⟩ | ⟨sh', code⟩ <;> rw [hl] at h
  · exact (h.of_files hr.1).wait cmd l'
  · exact h.of_files hr.1

def lsCd : Command := ⟨[⟨"cd", ["/a"]⟩, ⟨"ls", []⟩], none, none, false⟩

theorem ls_cd_performs_right_to_left :
    (perform .succeed lsCd.pgm.enum "/").started = [(⟨"ls", []⟩, "/a")] ∧
      Performs (perform .succeed lsCd.pgm.enum "/") (Shell.init "/" 100)
        (runCommand .succeed 0 lsCd (Shell.init "/" 100)).1
        (runCommand .succeed 0 lsCd (Shell.init "/" 100)).2 :=
  ⟨rfl, runCommand_performs_stages_right_to_left _ _ _ _ rfl rfl fun _ => rfl⟩

def cdCd : Command := ⟨[⟨"cd", ["/b"]⟩, ⟨"cd", ["/a"]⟩], none, none, false⟩

def lsExit : Command := ⟨[⟨"exit", []⟩, ⟨"ls", []⟩], none, none, false⟩

theorem not_performed_left_to_right :
    ¬ Performs (perform .succeed cdCd.pgm.enum.reverse "/") (Shell.init "/" 100)
        (runCommand .succeed 0 cdCd (Shell.init "/" 100)).1
        (runCommand .succeed 0 cdCd (Shell.init "/" 100)).2 ∧
      ¬ Performs (perform .succeed lsExit.pgm.enum.reverse "/") (Shell.init "/" 100)
        (runCommand .succeed 0 lsExit (Shell.init "/" 100)).1
        (runCommand .succeed 0 lsExit (Shell.init "/" 100)).2 ∧
      ¬ Performs (perform .succeed lsCd.pgm.enum.reverse "/") (Shell.init "/" 100)
        (runCommand .succeed 0 lsCd (Shell.init "/" 100)).1
        (runCommand .succeed 0 lsCd (Shell.init "/" 100)).2 := by
  refine ⟨fun ⟨_, hcwd, _⟩ => absurd hcwd (by decide), fun ⟨_, _, new, hprocs, hm⟩ => ?_,
    fun ⟨_, _, new, hprocs, hm⟩ => ?_⟩
  · obtain rfl : new = [] := (List.nil_append new ▸ hprocs).symm
    exact absurd hm (by decide)
  · obtain rfl := (List.nil_append new ▸ hprocs).symm
    exact absurd hm (by decide)

end Eda093.Lsh
