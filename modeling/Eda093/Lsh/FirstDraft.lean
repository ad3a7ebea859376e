import Eda093.Lsh.Pipeline

/-! `RunCommand` of the first `lsh` draft (`src/unnamed/part_000`, lines 144 to 229), which
redirects in the children. A child whose `open` fails leaves the loop with `break`. -/

namespace Eda093.Lsh.FirstDraft

structure Locals where
  commandCounter : Nat
  commandPids : List (Option Int)
  prevOut : Nat
  index : Nat

def childIn (o : Outcomes) (cmd : Command) (pd : Option (Nat × Nat)) (next : Nat)
    (t : FdTable) : Option FdTable :=
  match pd, cmd.rstdin with
  | some (r, w), _ => some (((t.close w).dup2 r 0).close r)
  | none, none => some t
  | none, some path =>
    match o.openErr with
    | some _ => none
    | none =>
      some (((t.set t.lowestFree (some ⟨next, .file path .rdonly⟩)).dup2 t.lowestFree 0).close
        t.lowestFree)

def childOut (o : Outcomes) (cmd : Command) (prevOut : Nat) (next : Nat) (t : FdTable) :
    FdTable :=
  if prevOut ≠ 1 then (t.dup2 prevOut 1).close prevOut
  else
    match cmd.rstdout, o.creatErr with
    | some path, none =>
      (t.set t.lowestFree (some ⟨next, .file path (.creat outputMode)⟩)).dup2 t.lowestFree 1
    | _, _ => t

def childRun (o : Outcomes) (j : Nat) (cmd : Command) (command : Argv) (pd : Option (Nat × Nat))
    (prevOut : Nat) (h : Handler) (next : Nat) (t : FdTable) (cwd : String) (pid : Nat) : Child :=
  match childIn o cmd pd next t with
  | none => ⟨pid, command, cwd, t, h, [], .returns, o.stops j⟩
  | some t =>
    let flow : Flow := if command.name = "cd" then .exits 0
      else match o.execErr j with
        | none => .execs command
        | some _ => .exits 0
    ⟨pid, command, cwd, childOut o cmd prevOut (next + 1) t, h, [], flow, o.stops j⟩

def forkStage (o : Outcomes) (j : Nat) (cmd : Command) (command : Argv)
    (pd : Option (Nat × Nat)) (l : Locals) (sh : Shell) : Locals × Shell :=
  let child : Int := if o.forkOk j then ((sh.lastPid + 1 : Nat) : Int) else -1
  let sh := if o.forkOk j then
      { sh.spawn (childRun o j cmd command pd l.prevOut sh.sigint sh.next sh.fds sh.cwd) with
        next := sh.next + 2 }
    else sh
  let sh := if l.prevOut ≠ 1 then sh.close l.prevOut else sh
  let l := { l with commandPids := l.commandPids.set l.index (some child) }
  match pd with
  | some (r, w) => ({ l with prevOut := w }, sh.close r)
  | none => (l, sh)

inductive Turn where
  | next (l : Locals) (sh : Shell)
  | exited (sh : Shell) (code : Int)

def Turn.shell : Turn → Shell
  | next _ sh | exited sh _ => sh

def dispatch (o : Outcomes) (j : Nat) (cmd : Command) (command : Argv) (pd : Option (Nat × Nat))
    (l : Locals) (sh : Shell) : Turn :=
  if command.name = "exit" then .exited sh 0
  else
    let (l, sh) := forkStage o j cmd command pd l sh
    .next { l with index := l.index + 1 } sh

def launch (o : Outcomes) (j : Nat) (cmd : Command) (command : Argv) (onLast : Bool) (l : Locals)
    (sh : Shell) : Turn :=
  if onLast then dispatch o j cmd command none l sh
  else if o.pipeOk j then
    let (r, w, sh) := sh.pipe
    dispatch o j cmd command (some (r, w)) l sh
  else .exited sh (-1)

inductive Launched where
  | done (l : Locals) (sh : Shell)
  | exited (sh : Shell) (code : Int)

def Launched.shell : Launched → Shell
  | done _ sh | exited sh _ => sh

def launchLoop (o : Outcomes) (cmd : Command) : Nat → List Argv → Locals → Shell → Launched
  | _, [], l, sh => .done l sh
  | j, command :: pgm, l, sh =>
    match launch o j cmd command pgm.isEmpty l sh with
    | .next l sh => launchLoop o cmd (j + 1) pgm l sh
    | .exited sh code => .exited sh code

def waitChildren (cmd : Command) (l : Locals) (sh : Shell) : Shell :=
  { (if cmd.background then sh
      else ((List.range l.commandCounter).map fun i => l.commandPids.getD i none).foldl
        Shell.waitpid { sh with children := l.commandPids }) with
    sigint := .sigIgn }

def runCommand (o : Outcomes) (_parseResult : Int) (cmd : Command) (sh : Shell) : Flow × Shell :=
  match launchLoop o cmd 0 cmd.pgm
      ⟨countCommands cmd.pgm, List.replicate (countCommands cmd.pgm) none, 1, 0⟩ sh with
  | .exited sh code => (.exits code, sh)
  | .done l sh => (.returns, waitChildren cmd l sh)

variable {o : Outcomes} {cmd : Command} {j : Nat} {command : Argv} {pd : Option (Nat × Nat)}
  {l : Locals} {sh sh₁ sh₂ sh₃ : Shell} {first : Option Argv} {P Q : Child → Prop}

def Leaves (o : Outcomes) (cmd : Command) (first : Option Argv) (c : Child) : Prop :=
  c.flow = .execs c.argv ∨ c.flow = .exits 0 ∨
    c.flow = .returns ∧ cmd.rstdin.isSome ∧ o.openErr.isSome ∧ first = some c.argv

lemma leaves_cons {pgm : List Argv} {c : Child} (a : Argv) (h : Leaves o cmd pgm.getLast? c) :
    Leaves o cmd (a :: pgm).getLast? c := by
  cases pgm with
  | nil =>
    rcases h with h | h | ⟨-, -, -, ⟨⟩⟩
    exacts [.inl h, .inr (.inl h)]
  | cons b pgm => rwa [List.getLast?_cons_cons]

def Forked (P : Child → Prop) (sh₁ sh₂ : Shell) : Prop :=
  (∃ new, sh₂.procs = sh₁.procs ++ new ∧ ∀ c ∈ new, P c) ∧ sh₂.cwd = sh₁.cwd

lemma Forked.of_procs (h : sh₂.procs = sh₁.procs) (hc : sh₂.cwd = sh₁.cwd) : Forked P sh₁ sh₂ :=
  ⟨⟨[], by simp [h], by simp⟩, hc⟩

lemma Forked.trans : Forked P sh₁ sh₂ → Forked P sh₂ sh₃ → Forked P sh₁ sh₃ := by
  rintro ⟨⟨a, ha, hfa⟩, hca⟩ ⟨⟨b, hb, hfb⟩, hcb⟩
  refine ⟨⟨a ++ b, by simp [hb, ha], fun c hc => ?_⟩, hcb.trans hca⟩
  rcases List.mem_append.mp hc with h | h
  exacts [hfa c h, hfb c h]

lemma Forked.mono (h : Forked P sh₁ sh₂) (hpq : ∀ c, P c → Q c) : Forked Q sh₁ sh₂ :=
  let ⟨⟨new, hn, hp⟩, hc⟩ := h
  ⟨⟨new, hn, fun c hc => hpq c (hp c hc)⟩, hc⟩

lemma childIn_eq_none {next : Nat} {t : FdTable} (h : childIn o cmd pd next t = none) :
    pd = none ∧ cmd.rstdin.isSome ∧ o.openErr.isSome := by
  unfold childIn at h
  split at h
  · cases h
  · cases h
  · next hr => split at h <;> simp_all

lemma childRun_leaves (hpd : pd = none → first = some command) (prevOut : Nat) (h : Handler)
    (next : Nat) (t : FdTable) (cwd : String) (pid : Nat) :
    Leaves o cmd first (childRun o j cmd command pd prevOut h next t cwd pid) := by
  unfold childRun
  split
  · next hn =>
    obtain ⟨hp, hi, ho⟩ := childIn_eq_none hn
    exact .inr (.inr ⟨rfl, hi, ho, hpd hp⟩)
  · dsimp only [Leaves]
    split_ifs
    · exact .inr (.inl rfl)
    · split <;> simp

lemma childRun_returns (hi : cmd.rstdin.isSome) (ho : o.openErr.isSome) (prevOut : Nat)
    (h : Handler) (next : Nat) (t : FdTable) (cwd : String) (pid : Nat) :
    (childRun o j cmd command none prevOut h next t cwd pid).flow = .returns := by
  obtain ⟨path, hp⟩ := Option.isSome_iff_exists.mp hi
  obtain ⟨e, he⟩ := Option.isSome_iff_exists.mp ho
  simp [childRun, childIn, hp, he]

lemma forkStage_procs : (forkStage o j cmd command pd l sh).2.procs =
    if o.forkOk j then
      sh.procs ++ [childRun o j cmd command pd l.prevOut sh.sigint sh.next sh.fds sh.cwd
        (sh.lastPid + 1)]
    else sh.procs := by
  unfold forkStage
  rcases pd with _ | ⟨r, w⟩ <;> split_ifs <;> rfl

lemma forkStage_forked (hpd : pd = none → first = some command) :
    Forked (Leaves o cmd first) sh (forkStage o j cmd command pd l sh).2 := by
  refine ⟨?_, by unfold forkStage; rcases pd with _ | ⟨r, w⟩ <;> split_ifs <;> rfl⟩
  rw [forkStage_procs]
  split_ifs
  · exact ⟨_, rfl, by simpa using childRun_leaves hpd _ _ _ _ _ _⟩
  · exact ⟨[], by simp, by simp⟩

lemma dispatch_forked (hpd : pd = none → first = some command) :
    Forked (Leaves o cmd first) sh (dispatch o j cmd command pd l sh).shell := by
  unfold dispatch
  split_ifs
  exacts [.of_procs rfl rfl, forkStage_forked hpd]

lemma launch_forked {onLast : Bool} (hl : onLast → first = some command) :
    Forked (Leaves o cmd first) sh (launch o j cmd command onLast l sh).shell := by
  unfold launch
  split_ifs with h₁
  · exact dispatch_forked fun _ => hl h₁
  · exact (Forked.of_procs rfl rfl).trans (dispatch_forked nofun)
  · exact .of_procs rfl rfl

lemma launchLoop_forked (pgm : List Argv) :
    Forked (Leaves o cmd pgm.getLast?) sh (launchLoop o cmd j pgm l sh).shell := by
  induction pgm generalizing j l sh with
  | nil => exact .of_procs rfl rfl
  | cons command pgm ih =>
    have h : Forked (Leaves o cmd (command :: pgm).getLast?) sh
        (launch o j cmd command pgm.isEmpty l sh).shell :=
      launch_forked fun he => by rw [List.isEmpty_iff.mp he]; rfl
    simp only [launchLoop]
    split <;> rename_i heq <;> rw [heq] at h
    exacts [h.trans (ih.mono fun _ => leaves_cons command), h]

lemma waitChildren_frame (cmd : Command) (l : Locals) (sh : Shell) : ∃ st ch h,
    waitChildren cmd l sh = { sh with status := st, children := ch, sigint := h } := by
  unfold waitChildren
  split
  · exact ⟨sh.status, sh.children, _, rfl⟩
  · obtain ⟨st, h⟩ := foldl_waitpid_frame
      ((List.range l.commandCounter).map fun i => l.commandPids.getD i none)
      { sh with children := l.commandPids }
    exact ⟨st, _, _, by rw [h]⟩

lemma waitChildren_forked (cmd : Command) (l : Locals) (sh : Shell) :
    Forked P sh (waitChildren cmd l sh) := by
  obtain ⟨_, _, _, h⟩ := waitChildren_frame cmd l sh
  exact .of_procs (by rw [h]) (by rw [h])

@[simp] lemma childRun_argv (prevOut : Nat) (h : Handler) (next : Nat) (t : FdTable) (cwd : String)
    (pid : Nat) : (childRun o j cmd command pd prevOut h next t cwd pid).argv = command := by
  unfold childRun
  split <;> rfl

lemma dispatch_of_ne (hc : command.name ≠ "exit") : dispatch o j cmd command pd l sh =
    .next { (forkStage o j cmd command pd l sh).1 with
      index := (forkStage o j cmd command pd l sh).1.index + 1 }
      (forkStage o j cmd command pd l sh).2 := by
  rw [dispatch, if_neg hc]

lemma launch_next (hc : command.name ≠ "exit") {onLast : Bool} (hp : o.pipeOk j) :
    ∃ l' sh', launch o j cmd command onLast l sh = .next l' sh' := by
  unfold launch
  split_ifs
  exacts [⟨_, _, dispatch_of_ne hc⟩, ⟨_, _, dispatch_of_ne hc⟩]

lemma launchLoop_returns (l : Locals) (sh : Shell) {pgm : List Argv}
    (hx : ∀ a ∈ pgm, a.name ≠ "exit") (hp : ∀ i, o.pipeOk i)
    (hf : o.forkOk (j + pgm.length - 1)) (hne : pgm ≠ [])
    (hi : cmd.rstdin.isSome) (ho : o.openErr.isSome) :
    ∃ l' sh', launchLoop o cmd j pgm l sh = .done l' sh' ∧ ∃ new, sh'.procs = sh.procs ++ new ∧
      ∃ c ∈ new, c.flow = .returns ∧ pgm.getLast? = some c.argv := by
  induction pgm generalizing j l sh with
  | nil => exact absurd rfl hne
  | cons command pgm ih =>
    have hc : command.name ≠ "exit" := hx _ (List.mem_cons_self _ _)
    cases pgm with
    | nil =>
      have hf : o.forkOk j := by simpa using hf
      refine ⟨_, _, by simp only [launchLoop, List.isEmpty_nil, launch, ↓reduceIte,
        dispatch_of_ne hc]; rfl, _, by rw [forkStage_procs, if_pos hf], _,
        List.mem_singleton_self _, childRun_returns hi ho _ _ _ _ _ _, by simp⟩
    | cons a pgm =>
      obtain ⟨l₁, sh₁, hn⟩ : ∃ l₁ sh₁, launch o j cmd command false l sh = .next l₁ sh₁ :=
        launch_next hc (hp j)
      have h₀ : Forked (Leaves o cmd none) sh (launch o j cmd command false l sh).shell :=
        launch_forked nofun
      rw [hn] at h₀
      obtain ⟨⟨new₀, h₀ : sh₁.procs = _, -⟩, -⟩ := h₀
      obtain ⟨l', sh', hd, new, hnew, c, hc, hret⟩ := ih l₁ sh₁
        (fun b hb => hx b (List.mem_cons_of_mem _ hb)) (by simpa [Nat.add_right_comm] using hf)
        (List.cons_ne_nil _ _) (j := j + 1)
      refine ⟨l', sh', by simp only [launchLoop, List.isEmpty_cons]; rw [hn]; exact hd,
        new₀ ++ new, by rw [hnew, h₀, List.append_assoc], c, List.mem_append_right _ hc, ?_⟩
      rwa [List.getLast?_cons_cons]

lemma runCommand_forked (o : Outcomes) (parseResult : Int) (cmd : Command) (sh : Shell) :
    Forked (Leaves o cmd cmd.pgm.getLast?) sh (runCommand o parseResult cmd sh).2 := by
  have h : Forked (Leaves o cmd cmd.pgm.getLast?) sh (launchLoop o cmd 0 cmd.pgm
      ⟨countCommands cmd.pgm, List.replicate (countCommands cmd.pgm) none, 1, 0⟩ sh).shell :=
    launchLoop_forked _
  unfold runCommand
  split <;> rename_i heq <;> rw [heq] at h
  exacts [h, h.trans (waitChildren_forked _ _ _)]

theorem runCommand_children_leave (o : Outcomes) (parseResult : Int) (cmd : Command) (sh : Shell) :
    ∃ new, (runCommand o parseResult cmd sh).2.procs = sh.procs ++ new ∧
      ∀ c ∈ new, Leaves o cmd cmd.pgm.getLast? c :=
  (runCommand_forked o parseResult cmd sh).1

lemma runCommand_keeps_cwd (o : Outcomes) (parseResult : Int) (cmd : Command) (sh : Shell) :
    (runCommand o parseResult cmd sh).2.cwd = sh.cwd :=
  (runCommand_forked o parseResult cmd sh).2

theorem runCommand_forks_second_interpreter (o : Outcomes) (parseResult : Int) (cmd : Command)
    (sh : Shell) (hx : ∀ a ∈ cmd.pgm, a.name ≠ "exit") (hpipe : ∀ i, o.pipeOk i)
    (hfork : o.forkOk (cmd.pgm.length - 1)) (hne : cmd.pgm ≠ []) (hin : cmd.rstdin.isSome)
    (hopen : o.openErr.isSome) :
    (runCommand o parseResult cmd sh).1 = .returns ∧
      ∃ new, (runCommand o parseResult cmd sh).2.procs = sh.procs ++ new ∧
        ∃ c ∈ new, c.flow = .returns ∧ cmd.pgm.getLast? = some c.argv := by
  obtain ⟨l', sh', hd, new, hnew, hc⟩ := launchLoop_returns
    ⟨countCommands cmd.pgm, List.replicate (countCommands cmd.pgm) none, 1, 0⟩ sh hx hpipe
    (by simpa using hfork) hne hin hopen (j := 0)
  obtain ⟨_, _, _, hw⟩ := waitChildren_frame cmd l' sh'
  simp only [runCommand, hd]
  exact ⟨trivial, new, by rw [hw]; exact hnew, hc⟩

def catMissingWc : Command := ⟨[⟨"wc", []⟩, ⟨"cat", []⟩], some "missing.txt", none, false⟩

def missingInput : Outcomes := { Outcomes.succeed with openErr := some .enoent }

theorem cat_missing_wc_forks_interpreter :
    (runCommand missingInput 0 catMissingWc (Shell.init "/" 100)).1 = .returns ∧
      ∃ new, (runCommand missingInput 0 catMissingWc (Shell.init "/" 100)).2.procs =
          (Shell.init "/" 100).procs ++ new ∧
        ∃ c ∈ new, c.flow = .returns ∧ catMissingWc.pgm.getLast? = some c.argv :=
  runCommand_forks_second_interpreter _ _ _ _ (by decide) (fun _ => rfl) rfl (List.cons_ne_nil _ _)
    rfl rfl

section Wiring

variable {orig : Nat → Option Obj} {next : Nat}

lemma childRun_fds {t t₁ : FdTable} (ht : childIn o cmd pd n t = some t₁) (prevOut : Nat)
    (hd : Handler) (cwd : String) (pid : Nat) :
    (childRun o j cmd command pd prevOut hd n t cwd pid).fds = childOut o cmd prevOut (n + 1) t₁ := by
  simp [childRun, ht]

lemma forkStage_fds_none (x : Nat) : (forkStage o j cmd command none l sh).2.fds.get x =
    if l.prevOut ≠ 1 ∧ x = l.prevOut then none else sh.fds.get x := by
  unfold forkStage
  by_cases hp : l.prevOut = 1 <;> by_cases hf : o.forkOk j <;> simp [hp, hf]

lemma forkStage_fds_some {r w : Nat} (x : Nat) :
    (forkStage o j cmd command (some (r, w)) l sh).2.fds.get x =
      if x = r then none else if l.prevOut ≠ 1 ∧ x = l.prevOut then none else sh.fds.get x := by
  unfold forkStage
  by_cases hp : l.prevOut = 1 <;> by_cases hf : o.forkOk j <;> simp [hp, hf]

lemma forkStage_next (hf : o.forkOk j) :
    (forkStage o j cmd command pd l sh).2.next = sh.next + 2 := by
  unfold forkStage
  rcases pd with _ | ⟨r, w⟩ <;> split_ifs <;> rfl

lemma launch_leftmost : launch o j cmd command true l sh = dispatch o j cmd command none l sh := rfl

lemma launch_piped (hp : o.pipeOk j) : launch o j cmd command false l sh =
    dispatch o j cmd command (some (sh.pipe.1, sh.pipe.2.1)) l sh.pipe.2.2 := by
  simp [launch, hp]

structure ParentHead (orig : Nat → Option Obj) (j : Nat) (l : Locals) (sh : Shell) : Prop where
  std : ∀ fd < 3, orig fd ≠ none
  prev : j = 0 ∧ l.prevOut = 1 ∨ j ≠ 0 ∧ 3 ≤ l.prevOut ∧ orig l.prevOut = none
  fds : ∃ w, ∀ x, sh.fds.get x = if j ≠ 0 ∧ x = l.prevOut then some w else orig x

structure Head (orig : Nat → Option Obj) (next j : Nat) (l : Locals) (sh : Shell) : Prop where
  std : ∀ fd < 3, orig fd ≠ none
  prev : j = 0 ∧ l.prevOut = 1 ∨ j ≠ 0 ∧ 3 ≤ l.prevOut ∧ orig l.prevOut = none
  fds : ∀ x, sh.fds.get x =
    if j ≠ 0 ∧ x = l.prevOut then some ⟨next + 3 * (j - 1), .pipeWrite⟩ else orig x
  next_eq : sh.next = next + 3 * j

lemma Head.toParent (h : Head orig next j l sh) : ParentHead orig j l sh :=
  ⟨h.std, h.prev, ⟨_, h.fds⟩⟩

namespace ParentHead

variable (h : ParentHead orig j l sh)
include h

lemma get_of_ne {x : Nat} (hx : j ≠ 0 → x ≠ l.prevOut) : sh.fds.get x = orig x := by
  obtain ⟨w, hw⟩ := h.fds
  rw [hw, if_neg fun ⟨hj, e⟩ => hx hj e]

lemma get_std {x : Nat} (hx : x < 3) : sh.fds.get x = orig x :=
  h.get_of_ne fun hj e => by rcases h.prev with ⟨hj0, -⟩ | ⟨-, hp, -⟩ <;> omega

lemma get_zero : sh.fds.get 0 ≠ none :=
  h.get_std (x := 0) (by omega) ▸ h.std 0 (by omega)

lemma closed (x : Nat) :
    (if l.prevOut ≠ 1 ∧ x = l.prevOut then none else sh.fds.get x) = orig x := by
  split_ifs with hxp
  · rcases h.prev with ⟨-, hp⟩ | ⟨-, -, hpo⟩
    exacts [absurd hp hxp.1, by rw [hxp.2, hpo]]
  · exact h.get_of_ne fun hj e => hxp ⟨by rcases h.prev with ⟨hj0, -⟩ | ⟨-, hp, -⟩ <;> omega, e⟩

lemma free {x : Nat} (hx : sh.fds.get x = none) :
    3 ≤ x ∧ orig x = none ∧ (j ≠ 0 → x ≠ l.prevOut) := by
  obtain ⟨w, hw⟩ := h.fds
  rw [hw] at hx
  split_ifs at hx with hp
  refine ⟨?_, hx, fun hj e => hp ⟨hj, e⟩⟩
  by_contra h3
  exact h.std x (by omega) hx

lemma piped_fds (x : Nat) :
    (forkStage o j cmd command (some (sh.pipe.1, sh.pipe.2.1)) l sh.pipe.2.2).2.fds.get x =
      if j + 1 ≠ 0 ∧ x = sh.pipe.2.1 then some ⟨sh.next, .pipeWrite⟩ else orig x := by
  obtain ⟨hwr, hw⟩ := sh.pipe_snd_fst
  obtain ⟨-, -, hwp⟩ := h.free hw
  obtain ⟨-, hro, -⟩ := h.free sh.get_pipe_fst
  rw [forkStage_fds_some, Shell.pipe_fds]
  by_cases hxw : x = sh.pipe.2.1
  · subst hxw
    have hxp : ¬ (l.prevOut ≠ 1 ∧ sh.pipe.2.1 = l.prevOut) := by
      rintro ⟨hp1, e⟩
      rcases h.prev with ⟨hj, hp⟩ | ⟨hj, -, -⟩
      exacts [hp1 hp, hwp hj e]
    rw [if_neg hwr, if_neg hxp, if_pos rfl, if_pos ⟨j.succ_ne_zero, rfl⟩]
  rw [if_neg hxw, if_neg (show ¬(j + 1 ≠ 0 ∧ x = sh.pipe.2.1) from fun e => hxw e.2)]
  by_cases hxr : x = sh.pipe.1
  · rw [if_pos hxr, hxr, hro]
  rw [if_neg hxr, if_neg hxr]
  exact h.closed x

lemma piped (cmd : Command) (hc : command.name ≠ "exit") (hp : o.pipeOk j) :
    ∃ l₁ sh₁, launch o j cmd command false l sh = .next l₁ sh₁ ∧ ParentHead orig (j + 1) l₁ sh₁ := by
  obtain ⟨hw3, hwo, -⟩ := h.free sh.pipe_snd_fst.2
  exact ⟨_, _, (launch_piped hp).trans (dispatch_of_ne hc),
    ⟨h.std, .inr ⟨j.succ_ne_zero, hw3, hwo⟩, ⟨_, h.piped_fds⟩⟩⟩

lemma leftmost (cmd : Command) (hc : command.name ≠ "exit") :
    ∃ l₁ sh₁, launch o j cmd command true l sh = .next l₁ sh₁ ∧ ∀ x, sh₁.fds.get x = orig x :=
  ⟨_, _, launch_leftmost.trans (dispatch_of_ne hc),
    fun x => by rw [forkStage_fds_none]; exact h.closed x⟩

end ParentHead

lemma launchLoop_restores (cmd : Command) {pgm : List Argv} (hx : ∀ a ∈ pgm, a.name ≠ "exit")
    (hpipe : ∀ i, o.pipeOk i) (h : ParentHead orig j l sh) (hne : pgm ≠ []) :
    ∃ l' sh', launchLoop o cmd j pgm l sh = .done l' sh' ∧ ∀ x, sh'.fds.get x = orig x := by
  induction pgm generalizing j l sh with
  | nil => exact absurd rfl hne
  | cons command pgm ih =>
    have hc : command.name ≠ "exit" := hx _ (List.mem_cons_self _ _)
    cases pgm with
    | nil =>
      obtain ⟨l₁, sh₁, hl, hfds⟩ := h.leftmost (o := o) cmd hc
      exact ⟨l₁, sh₁, by simp only [launchLoop, List.isEmpty_nil, hl], hfds⟩
    | cons a pgm =>
      obtain ⟨l₁, sh₁, hl, h₁⟩ := h.piped cmd hc (hpipe j)
      obtain ⟨l', sh', hd, hfds⟩ :=
        ih (fun b hb => hx b (List.mem_cons_of_mem _ hb)) h₁ (List.cons_ne_nil _ _)
      exact ⟨l', sh', by simp only [launchLoop, List.isEmpty_cons]; rw [hl]; exact hd, hfds⟩

theorem runCommand_keeps_interpreter_fds (o : Outcomes) (parseResult : Int) (cmd : Command)
    (sh : Shell) (hx : ∀ a ∈ cmd.pgm, a.name ≠ "exit") (hstd : ∀ fd < 3, sh.fds.get fd ≠ none)
    (hpipe : ∀ i, o.pipeOk i) :
    (runCommand o parseResult cmd sh).1 = .returns ∧
      ∀ x, (runCommand o parseResult cmd sh).2.fds.get x = sh.fds.get x := by
  have h : ParentHead sh.fds.get 0
      ⟨countCommands cmd.pgm, List.replicate (countCommands cmd.pgm) none, 1, 0⟩ sh :=
    ⟨hstd, .inl ⟨rfl, rfl⟩, ⟨⟨0, .inherited⟩, fun x => by simp⟩⟩
  obtain ⟨l', sh', hd, hfds⟩ : ∃ l' sh', launchLoop o cmd 0 cmd.pgm
      ⟨countCommands cmd.pgm, List.replicate (countCommands cmd.pgm) none, 1, 0⟩ sh = .done l' sh' ∧
      ∀ x, sh'.fds.get x = sh.fds.get x := by
    by_cases hne : cmd.pgm = []
    · exact ⟨_, sh, by rw [hne]; rfl, fun _ => rfl⟩
    · exact launchLoop_restores cmd hx hpipe h hne
  obtain ⟨_, _, _, hw⟩ := waitChildren_frame cmd l' sh'
  simp only [runCommand, hd]
  exact ⟨trivial, fun x => by rw [hw]; exact hfds x⟩

def catWcFiles : Command := ⟨[⟨"wc", []⟩, ⟨"cat", []⟩], some "in.txt", some "out.txt", false⟩

def noFork : Outcomes := { Outcomes.succeed with forkOk := fun _ => false }

theorem cat_wc_files_fork_failure_keeps_fds :
    (runCommand noFork 0 catWcFiles (Shell.init "/" 100)).1 = .returns ∧
      ∀ x, (runCommand noFork 0 catWcFiles (Shell.init "/" 100)).2.fds.get x =
        (Shell.init "/" 100).fds.get x :=
  runCommand_keeps_interpreter_fds _ _ _ _ (by decide) (by decide) (fun _ => rfl)

structure ChildWired (orig : Nat → Option Obj) (cmd : Command) (next m i : Nat) (t : FdTable) :
    Prop where
  input : ∃ y, t.get 0 = some y ∧
    if i + 1 = m then Redirected cmd.rstdin .rdonly (orig 0) y else y = ⟨next + 3 * i, .pipeRead⟩
  output : ∃ y, t.get 1 = some y ∧
    if i = 0 then Redirected cmd.rstdout (.creat outputMode) (orig 1) y
    else y = ⟨next + 3 * (i - 1), .pipeWrite⟩
  rest : ∀ x, 2 ≤ x → t.get x = orig x ∨ i = 0 ∧ orig x = none ∧ t.get x = t.get 1

lemma childOut_wired (cmd : Command) (hcreat : o.creatErr = none) (h : Head orig next j l sh)
    {t : FdTable} {src : Obj} (ht : ∀ x, t.get x = if x = 0 then some src else sh.fds.get x)
    (n : Nat) :
    (childOut o cmd l.prevOut n t).get 0 = some src ∧
    (∃ y, (childOut o cmd l.prevOut n t).get 1 = some y ∧
      if j = 0 then Redirected cmd.rstdout (.creat outputMode) (orig 1) y
      else y = ⟨next + 3 * (j - 1), .pipeWrite⟩) ∧
    ∀ x, 2 ≤ x → (childOut o cmd l.prevOut n t).get x = orig x ∨
      j = 0 ∧ orig x = none ∧
        (childOut o cmd l.prevOut n t).get x = (childOut o cmd l.prevOut n t).get 1 := by
  rcases h.prev with ⟨rfl, hp⟩ | ⟨hj, hp3, hpo⟩
  · have hs : ∀ x, sh.fds.get x = orig x := fun x => h.toParent.get_of_ne fun hj => absurd rfl hj
    obtain ⟨o1, ho1⟩ := Option.ne_none_iff_exists'.mp (h.std 1 (by omega))
    rcases hr : cmd.rstdout with _ | path
    · simp only [childOut, hp, hr, ne_eq, not_true_eq_false, ite_false]
      refine ⟨by rw [ht, if_pos rfl], ⟨o1, by rw [ht, if_neg Nat.one_ne_zero, hs, ho1], ?_⟩,
        fun x hx => .inl (by rw [ht, if_neg (by omega), hs])⟩
      rw [if_pos trivial]
      exact ho1
    · simp only [childOut, hp, hr, hcreat, ne_eq, not_true_eq_false, ite_false]
      have h3 : 3 ≤ t.lowestFree := FdTable.three_le_lowestFree fun fd hfd => by
        rw [ht]; split_ifs; · simp
        rw [hs]; exact h.std fd hfd
      have hlf : orig t.lowestFree = none := by
        have := t.get_lowestFree
        rwa [ht, if_neg (by omega), hs] at this
      refine ⟨by simp [ht, show (0 : Nat) ≠ t.lowestFree by omega],
        ⟨⟨n, .file path (.creat outputMode)⟩, by simp, by rw [if_pos trivial]; rfl⟩, fun x hx => ?_⟩
      by_cases hxl : x = t.lowestFree
      · exact .inr ⟨trivial, hxl ▸ hlf, by simp [hxl]⟩
      · exact .inl (by simp [hxl, show x ≠ 1 by omega, ht, show x ≠ 0 by omega, hs])
  · have hp1 : l.prevOut ≠ 1 := by omega
    have hw : t.get l.prevOut = some ⟨next + 3 * (j - 1), .pipeWrite⟩ := by
      rw [ht, if_neg (by omega), h.fds, if_pos ⟨hj, rfl⟩]
    simp only [childOut, if_pos hp1]
    rw [FdTable.get_dup2_close hw, FdTable.get_dup2_close hw]
    refine ⟨by rw [if_neg (by omega), if_neg Nat.zero_ne_one, ht, if_pos rfl],
      ⟨_, by rw [if_neg (by omega), if_pos rfl], by rw [if_neg hj]⟩, fun x hx => .inl ?_⟩
    rw [FdTable.get_dup2_close hw]
    by_cases hxp : x = l.prevOut
    · rw [if_pos hxp, hxp, hpo]
    · rw [if_neg hxp, if_neg (by omega), ht, if_neg (by omega), h.toParent.get_of_ne fun _ => hxp]

lemma pipe_childIn (h0 : sh.fds.get 0 ≠ none) (x : Nat) :
    (((sh.pipe.2.2.fds.close sh.pipe.2.1).dup2 sh.pipe.1 0).close sh.pipe.1).get x =
      if x = 0 then some ⟨sh.next, .pipeRead⟩ else sh.fds.get x := by
  obtain ⟨hwr, hw⟩ := sh.pipe_snd_fst
  have hr := sh.get_pipe_fst
  have hr0 : sh.pipe.1 ≠ 0 := fun e => h0 (e ▸ hr)
  have hw0 : sh.pipe.2.1 ≠ 0 := fun e => h0 (e ▸ hw)
  have hrd : (sh.pipe.2.2.fds.close sh.pipe.2.1).get sh.pipe.1 = some ⟨sh.next, .pipeRead⟩ := by
    simp [Shell.pipe_fds, hwr.symm]
  rw [FdTable.get_dup2_close hrd, FdTable.get_close, Shell.pipe_fds]
  by_cases hxr : x = sh.pipe.1
  · simp [hxr, hr0, hr]
  by_cases hxw : x = sh.pipe.2.1
  · simp [hxw, hwr, hw0, hw]
  · simp [hxr, hxw]

lemma childIn_leftmost (cmd : Command) (hopen : o.openErr = none) {t : FdTable}
    (h0 : t.get 0 ≠ none) (n : Nat) :
    ∃ t₁ src, childIn o cmd none n t = some t₁ ∧ Redirected cmd.rstdin .rdonly (t.get 0) src ∧
      ∀ x, t₁.get x = if x = 0 then some src else t.get x := by
  rcases hr : cmd.rstdin with _ | path
  · obtain ⟨src, hs⟩ := Option.ne_none_iff_exists'.mp h0
    refine ⟨t, src, by simp [childIn, hr], hs, fun x => ?_⟩
    split_ifs with hx
    · rw [hx, hs]
    · rfl
  · have hl0 : t.lowestFree ≠ 0 := FdTable.lowestFree_ne h0
    have e : childIn o cmd none n t = some (((t.set t.lowestFree
        (some ⟨n, .file path .rdonly⟩)).dup2 t.lowestFree 0).close t.lowestFree) := by
      simp only [childIn, hr, hopen]
    refine ⟨_, ⟨n, .file path .rdonly⟩, e, rfl, fun x => ?_⟩
    rw [FdTable.get_dup2_close (v := ⟨n, .file path .rdonly⟩) (by simp)]
    by_cases hxl : x = t.lowestFree
    · simp [hxl, hl0, t.get_lowestFree]
    · simp [hxl]

lemma Head.piped (h : Head orig next j l sh) (cmd : Command) (hc : command.name ≠ "exit")
    (hp : o.pipeOk j) (hf : o.forkOk j) (hcreat : o.creatErr = none) {m : Nat} (hm : j + 1 ≠ m) :
    ∃ l₁ sh₁ c, launch o j cmd command false l sh = .next l₁ sh₁ ∧
      Head orig next (j + 1) l₁ sh₁ ∧ sh₁.procs = sh.procs ++ [c] ∧ c.argv = command ∧
      ChildWired orig cmd next m j c.fds := by
  obtain ⟨hw3, hwo, -⟩ := h.toParent.free sh.pipe_snd_fst.2
  obtain ⟨hin, hout, hrest⟩ :=
    childOut_wired cmd hcreat h (pipe_childIn h.toParent.get_zero) (sh.pipe.2.2.next + 1)
  refine ⟨_, _, _, (launch_piped hp).trans (dispatch_of_ne hc), ⟨h.std,
    .inr ⟨j.succ_ne_zero, hw3, hwo⟩, fun x => by rw [h.toParent.piped_fds x, h.next_eq]; rfl,
    by rw [forkStage_next hf, Shell.pipe_next, h.next_eq]; omega⟩,
    by rw [forkStage_procs, if_pos hf]; rfl, childRun_argv .., ?_⟩
  exact ⟨⟨_, hin, by rw [if_neg hm, h.next_eq]⟩, hout, hrest⟩

lemma Head.leftmost (h : Head orig next j l sh) (cmd : Command) (hc : command.name ≠ "exit")
    (hf : o.forkOk j) (hopen : o.openErr = none) (hcreat : o.creatErr = none) :
    ∃ l₁ sh₁ c, launch o j cmd command true l sh = .next l₁ sh₁ ∧ (∀ x, sh₁.fds.get x = orig x) ∧
      sh₁.procs = sh.procs ++ [c] ∧ c.argv = command ∧
      ChildWired orig cmd next (j + 1) j c.fds := by
  obtain ⟨t₁, src, hin, hsrc, ht⟩ := childIn_leftmost cmd hopen h.toParent.get_zero sh.next
  obtain ⟨hin0, hout, hrest⟩ := childOut_wired cmd hcreat h ht (sh.next + 1)
  refine ⟨_, _, _, launch_leftmost.trans (dispatch_of_ne hc),
    fun x => by rw [forkStage_fds_none]; exact h.toParent.closed x,
    by rw [forkStage_procs, if_pos hf], childRun_argv .., ?_⟩
  rw [childRun_fds hin]
  exact ⟨⟨src, hin0, by rw [if_pos rfl, ← h.toParent.get_std (by omega)]; exact hsrc⟩, hout, hrest⟩

lemma launchLoop_wired (cmd : Command) {pgm : List Argv} (hx : ∀ a ∈ pgm, a.name ≠ "exit")
    (hpipe : ∀ i, o.pipeOk i) (hfork : ∀ i, o.forkOk i) (hopen : o.openErr = none)
    (hcreat : o.creatErr = none) (h : Head orig next j l sh) (hne : pgm ≠ []) :
    ∃ l' sh' new, launchLoop o cmd j pgm l sh = .done l' sh' ∧ (∀ x, sh'.fds.get x = orig x) ∧
      sh'.procs = sh.procs ++ new ∧ new.length = pgm.length ∧
      ∀ i c, new[i]? = some c → pgm[i]? = some c.argv ∧
        ChildWired orig cmd next (j + pgm.length) (j + i) c.fds := by
  induction pgm generalizing j l sh with
  | nil => exact absurd rfl hne
  | cons command pgm ih =>
    have hc : command.name ≠ "exit" := hx _ (List.mem_cons_self _ _)
    cases pgm with
    | nil =>
      obtain ⟨l₁, sh₁, c, hl, hfds, hprocs, hargv, hw⟩ := h.leftmost cmd hc (hfork j) hopen hcreat
      refine ⟨l₁, sh₁, [c], by simp only [launchLoop, List.isEmpty_nil, hl], hfds, hprocs, rfl,
        fun i c' hi => ?_⟩
      cases i with
      | zero =>
        obtain rfl : c = c' := by simpa using hi
        exact ⟨by simp [hargv], hw⟩
      | succ i => simp at hi
    | cons a pgm =>
      obtain ⟨l₁, sh₁, c, hl, h₁, hprocs, hargv, hw⟩ :=
        h.piped cmd hc (hpipe j) (hfork j) hcreat (m := j + (command :: a :: pgm).length) (by simp)
      obtain ⟨l', sh', new, hd, hfds, hprocs', hlen, hnew⟩ :=
        ih (fun b hb => hx b (List.mem_cons_of_mem _ hb)) h₁ (List.cons_ne_nil _ _)
      refine ⟨l', sh', c :: new, by simp only [launchLoop, List.isEmpty_cons]; rw [hl]; exact hd,
        hfds, by rw [hprocs', hprocs, List.append_assoc]; rfl, by simp [hlen], fun i c' hi => ?_⟩
      cases i with
      | zero =>
        obtain rfl : c = c' := by simpa using hi
        exact ⟨by simp [hargv], hw⟩
      | succ i =>
        obtain ⟨hargv', hw'⟩ := hnew i c' (by simpa using hi)
        have e : j + 1 + (a :: pgm).length = j + (command :: a :: pgm).length := by simp; omega
        exact ⟨by simpa using hargv', by rw [← e, show j + (i + 1) = j + 1 + i by omega]; exact hw'⟩

lemma runCommand_children_wired (o : Outcomes) (parseResult : Int) (cmd : Command) (sh : Shell)
    (hne : cmd.pgm ≠ []) (hx : ∀ a ∈ cmd.pgm, a.name ≠ "exit")
    (hstd : ∀ fd < 3, sh.fds.get fd ≠ none) (hopen : o.openErr = none)
    (hcreat : o.creatErr = none) (hpipe : ∀ i, o.pipeOk i) (hfork : ∀ i, o.forkOk i) :
    ∃ new, (∀ x, (runCommand o parseResult cmd sh).2.fds.get x = sh.fds.get x) ∧
      (runCommand o parseResult cmd sh).2.procs = sh.procs ++ new ∧ new.length = cmd.pgm.length ∧
      ∀ i c, new[i]? = some c → cmd.pgm[i]? = some c.argv ∧
        ChildWired sh.fds.get cmd sh.next cmd.pgm.length i c.fds := by
  have h : Head sh.fds.get sh.next 0
      ⟨countCommands cmd.pgm, List.replicate (countCommands cmd.pgm) none, 1, 0⟩ sh :=
    ⟨hstd, .inl ⟨rfl, rfl⟩, fun x => by simp, by simp⟩
  obtain ⟨l', sh', new, hd, hfds, hprocs, hlen, hnew⟩ :=
    launchLoop_wired cmd hx hpipe hfork hopen hcreat h hne
  obtain ⟨_, _, _, hw⟩ := waitChildren_frame cmd l' sh'
  have hr : (runCommand o parseResult cmd sh).2 = waitChildren cmd l' sh' := by
    simp only [runCommand, hd]
  refine ⟨new, fun x => ?_, ?_, hlen, fun i c hc => by simpa using hnew i c hc⟩
  · rw [hr, hw]; exact hfds x
  · rw [hr, hw]; exact hprocs

section Fresh

variable {m i : Nat} {t : FdTable}

lemma ChildWired.get_pipeWrite (hw : ChildWired sh.fds.get cmd sh.next m i t) (hfresh : sh.Fresh)
    (q fd : Nat) : t.get fd = some ⟨sh.next + 3 * q, .pipeWrite⟩ ↔ fd = 1 ∧ i = q + 1 := by
  have hred {path access fd'} {y : Obj} (hy : Redirected path access (sh.fds.get fd') y) :
      y ≠ ⟨sh.next + 3 * q, .pipeWrite⟩ := hy.ne_fresh hfresh (by omega) (by simp)
  obtain ⟨y0, h0, hy0⟩ := hw.input
  obtain ⟨y1, h1, hy1⟩ := hw.output
  constructor
  · intro hget
    rcases fd with _ | _ | fd
    · rw [h0, Option.some.injEq] at hget
      split_ifs at hy0
      exacts [absurd hget (hred hy0), by simp [hy0] at hget]
    · rw [h1, Option.some.injEq] at hget
      split_ifs at hy1 with hi
      · exact absurd hget (hred hy1)
      · simp only [hy1, Obj.mk.injEq, and_true] at hget
        omega
    · rcases hw.rest (fd + 2) (by omega) with hx | ⟨hi, -, hx⟩
      · exact absurd (hfresh none _ _ (hx ▸ hget)) (by simp)
      · rw [hx, h1, Option.some.injEq] at hget
        rw [if_pos hi] at hy1
        exact absurd hget (hred hy1)
  · rintro ⟨rfl, rfl⟩
    rw [if_neg (Nat.succ_ne_zero q)] at hy1
    rw [h1, hy1, Nat.add_sub_cancel]

lemma ChildWired.get_pipeRead (hw : ChildWired sh.fds.get cmd sh.next m i t) (hfresh : sh.Fresh)
    (q fd : Nat) : t.get fd = some ⟨sh.next + 3 * q, .pipeRead⟩ ↔ fd = 0 ∧ i = q ∧ i + 1 ≠ m := by
  have hred {path access fd'} {y : Obj} (hy : Redirected path access (sh.fds.get fd') y) :
      y ≠ ⟨sh.next + 3 * q, .pipeRead⟩ := hy.ne_fresh hfresh (by omega) (by simp)
  obtain ⟨y0, h0, hy0⟩ := hw.input
  obtain ⟨y1, h1, hy1⟩ := hw.output
  constructor
  · intro hget
    rcases fd with _ | _ | fd
    · rw [h0, Option.some.injEq] at hget
      split_ifs at hy0 with hm
      · exact absurd hget (hred hy0)
      · simp only [hy0, Obj.mk.injEq, and_true] at hget
        exact ⟨rfl, by omega, hm⟩
    · rw [h1, Option.some.injEq] at hget
      split_ifs at hy1
      exacts [absurd hget (hred hy1), by simp [hy1] at hget]
    · rcases hw.rest (fd + 2) (by omega) with hx | ⟨hi, -, hx⟩
      · exact absurd (hfresh none _ _ (hx ▸ hget)) (by simp)
      · rw [hx, h1, Option.some.injEq] at hget
        rw [if_pos hi] at hy1
        exact absurd hget (hred hy1)
  · rintro ⟨rfl, rfl, hm⟩
    rw [if_neg hm] at hy0
    rw [h0, hy0]

end Fresh

theorem runCommand_wires_like_final (o : Outcomes) (parseResult : Int) (cmd : Command)
    (sh : Shell) (hne : cmd.pgm ≠ []) (hx : ∀ a ∈ cmd.pgm, a.name ≠ "exit")
    (hstd : ∀ fd < 3, sh.fds.get fd ≠ none) (hfresh : sh.Fresh) (hopen : o.openErr = none)
    (hcreat : o.creatErr = none) (hpipe : ∀ i, o.pipeOk i) (hfork : ∀ i, o.forkOk i) :
    Wired cmd sh (runCommand o parseResult cmd sh).2 := by
  obtain ⟨new, hfds, hprocs, hlen, hnew⟩ :=
    runCommand_children_wired o parseResult cmd sh hne hx hstd hopen hcreat hpipe hfork
  set n := cmd.pgm.length
  have hn : 0 < n := List.length_pos.mpr hne
  have hget (i : Nat) (hi : i < n) : new[i]? = some new[i] := List.getElem?_eq_getElem (by omega)
  have hw (i : Nat) (hi : i < n) := (hnew _ _ (hget i hi)).2
  obtain ⟨inSrc, hin0, hin⟩ := (hw (n - 1) (by omega)).input
  obtain ⟨out, hout1, hout⟩ := (hw 0 hn).output
  rw [if_pos (by omega)] at hin
  rw [if_pos rfl] at hout
  refine ⟨inSrc, out, fun k => sh.next + 3 * (n - 2 - k), new, hin, hout, hprocs, hlen,
    fun k hk => ⟨_, hget _ (by omega), (hnew _ _ (hget _ (by omega))).1, ?_, ?_⟩,
    fun k₁ _ k₂ _ h => by simp only [Nat.add_left_cancel_iff] at h; omega,
    fun k hk p fd => ⟨?_, ?_⟩⟩
  · by_cases hk0 : k = 0
    · simpa [hk0] using hin0
    · obtain ⟨y, hy, hcase⟩ := (hw (n - 1 - k) (by omega)).input
      rw [if_neg (by omega)] at hcase
      rw [hy, hcase, if_neg hk0]
      simp only [show n - 2 - (k - 1) = n - 1 - k by omega]
  · by_cases hkn : k = n - 1
    · simpa [hkn] using hout1
    · obtain ⟨y, hy, hcase⟩ := (hw (n - 1 - k) (by omega)).output
      rw [if_neg (by omega)] at hcase
      rw [hy, hcase, if_neg hkn, show n - 1 - k - 1 = n - 2 - k by omega]
  · rw [holds_new_iff hfresh (by simp) hfds hprocs]
    constructor
    · rintro ⟨i, c, rfl, hc, hc'⟩
      obtain ⟨rfl, rfl⟩ := ((hnew i c hc).2.get_pipeWrite hfresh _ _).1 hc'
      exact ⟨by rw [show n - 2 - k + 1 = n - 1 - k by omega], rfl⟩
    · rintro ⟨rfl, rfl⟩
      exact ⟨n - 1 - k, _, rfl, hget _ (by omega),
        ((hw _ (by omega)).get_pipeWrite hfresh _ _).2 ⟨rfl, by omega⟩⟩
  · rw [holds_new_iff hfresh (by simp) hfds hprocs]
    constructor
    · rintro ⟨i, c, rfl, hc, hc'⟩
      obtain ⟨rfl, rfl, -⟩ := ((hnew i c hc).2.get_pipeRead hfresh _ _).1 hc'
      exact ⟨rfl, rfl⟩
    · rintro ⟨rfl, rfl⟩
      exact ⟨n - 2 - k, _, rfl, hget _ (by omega),
        ((hw _ (by omega)).get_pipeRead hfresh _ _).2 ⟨rfl, rfl, by omega⟩⟩

theorem cat_wc_files_wired :
    Wired catWcFiles (Shell.init "/" 100)
      (runCommand .succeed 0 catWcFiles (Shell.init "/" 100)).2 :=
  runCommand_wires_like_final .succeed 0 catWcFiles _ (by decide) (by decide) (by decide)
    (init_fresh _ _) rfl rfl (fun _ => rfl) (fun _ => rfl)

def Isolated (sh sh' : Shell) : Prop :=
  ∀ i c, sh'.procs[sh.procs.length + i]? = some c → ∀ fd, 2 ≤ fd →
    c.fds.get fd = sh.fds.get fd ∨ i = 0 ∧ sh.fds.get fd = none ∧ c.fds.get fd = c.fds.get 1

theorem runCommand_isolates_stages (o : Outcomes) (parseResult : Int) (cmd : Command)
    (sh : Shell) (hne : cmd.pgm ≠ []) (hx : ∀ a ∈ cmd.pgm, a.name ≠ "exit")
    (hstd : ∀ fd < 3, sh.fds.get fd ≠ none) (hopen : o.openErr = none)
    (hcreat : o.creatErr = none) (hpipe : ∀ i, o.pipeOk i) (hfork : ∀ i, o.forkOk i) :
    Isolated sh (runCommand o parseResult cmd sh).2 := by
  obtain ⟨new, -, hprocs, -, hnew⟩ :=
    runCommand_children_wired o parseResult cmd sh hne hx hstd hopen hcreat hpipe hfork
  intro i c hc
  rw [hprocs, List.getElem?_append_right (Nat.le_add_right _ _), Nat.add_sub_cancel_left] at hc
  exact (hnew i c hc).2.rest

theorem cat_wc_files_isolated :
    Isolated (Shell.init "/" 100) (runCommand .succeed 0 catWcFiles (Shell.init "/" 100)).2 :=
  runCommand_isolates_stages .succeed 0 catWcFiles _ (by decide) (by decide) (by decide) rfl rfl
    (fun _ => rfl) (fun _ => rfl)

example : ((runCommand .succeed 0 catWcFiles (Shell.init "/" 100)).2.procs.map
    fun c => (c.argv.name, c.fds.get 3)) =
      [("wc", some ⟨5, .file "out.txt" (.creat outputMode)⟩), ("cat", none)] := by
  decide

end Wiring

end Eda093.Lsh.FirstDraft
