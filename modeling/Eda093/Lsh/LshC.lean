import Eda093.Lsh.Descriptors
import Eda093.Lsh.Waiting

/-! `RunCommand` and `KillChildren` of `src/lsh.c`, and where they agree with the final `lsh`. -/

namespace Eda093.Lsh.LshC

def openInput (o : Outcomes) (cmd : Command) (sh : Shell) : Except Shell (Nat × Shell) :=
  match cmd.rstdin, o.openErr with
  | none, _ => .ok (0, sh)
  | some _, some _ => .error sh
  | some path, none => .ok (sh.openFile (.file path .rdonly))

def openOutput (o : Outcomes) (cmd : Command) (sh : Shell) : Except Shell (Nat × Shell) :=
  match cmd.rstdout, o.creatErr with
  | none, _ => .ok (1, sh)
  | some _, some _ => .error sh
  | some path, none => .ok (sh.openFile (.file path (.creat outputMode)))

def redirect (o : Outcomes) (cmd : Command) (sh : Shell) : Except Shell (Locals × Shell) :=
  match openInput o cmd sh with
  | .error sh => .error sh
  | .ok (lastIn, sh) =>
    match openOutput o cmd sh with
    | .error sh => .error sh
    | .ok (childOut, sh) =>
      .ok (⟨countCommands cmd.pgm, List.replicate (countCommands cmd.pgm) none, 0, lastIn, 0,
        childOut⟩, sh)

def childRun (o : Outcomes) (j : Nat) (command : Argv) (pd : Option (Nat × Nat)) (l : Locals)
    (t : FdTable) (cwd : String) (h : Handler) (pid : Nat) : Child :=
  let c := { Lsh.childRun o j command pd l t cwd pid with sigint := h, stderr := [] }
  if command.name = "cd" then { c with flow := .exits 0 } else c

def forkStage (o : Outcomes) (j : Nat) (command : Argv) (pd : Option (Nat × Nat)) (l : Locals)
    (sh : Shell) : Locals × Shell :=
  let child : Int := if o.forkOk j then ((sh.lastPid + 1 : Nat) : Int) else -1
  let l' := { l with commandPids := l.commandPids.set l.index (some child) }
  (match pd with
    | some (_, w) => { l' with childOut := w }
    | none => l',
   parentClose l (if o.forkOk j then sh.spawn (childRun o j command pd l sh.fds sh.cwd sh.sigint) else sh))

def dispatch (o : Outcomes) (j : Nat) (command : Argv) (pd : Option (Nat × Nat)) (l : Locals)
    (sh : Shell) : Turn :=
  if command.name = "exit" then .exited sh 0
  else
    let (l, sh) := forkStage o j command pd l sh
    .next { l with index := l.index + 1 } sh

def launch (o : Outcomes) (j : Nat) (command : Argv) (onLast : Bool) (l : Locals) (sh : Shell) :
    Turn :=
  if onLast then dispatch o j command none { l with childIn := l.lastIn } sh
  else if o.pipeOk j then
    let (r, w, sh) := sh.pipe
    dispatch o j command (some (r, w)) { l with childIn := r } sh
  else .exited sh (-1)

def launchLoop (o : Outcomes) : Nat → List Argv → Locals → Shell → Launched
  | _, [], l, sh => .done l sh
  | j, command :: pgm, l, sh =>
    match launch o j command pgm.isEmpty l sh with
    | .next l sh => launchLoop o (j + 1) pgm l sh
    | .broke l sh => .done l sh
    | .exited sh code => .exited sh code

def arm (l : Locals) (sh : Shell) : Shell := { sh with children := l.commandPids }

def waitChildren (cmd : Command) (l : Locals) (sh : Shell) : Shell :=
  { (if cmd.background then sh else (waitArgs l).foldl Shell.waitpid (arm l sh)) with
    sigint := .sigIgn }

def runCommand (o : Outcomes) (_parseResult : Int) (cmd : Command) (sh : Shell) : Flow × Shell :=
  match redirect o cmd sh with
  | .error sh => (.returns, sh)
  | .ok (l, sh) =>
    match launchLoop o 0 cmd.pgm l sh with
    | .exited sh code => (.exits code, sh)
    | .done l sh => (.returns, waitChildren cmd l sh)

def mute (c : Child) : Child := { c with stderr := [] }

structure Quiet (sh sh' : Shell) : Prop where
  fds : sh.fds = sh'.fds
  next : sh.next = sh'.next
  lastPid : sh.lastPid = sh'.lastPid
  procs : sh.procs.map mute = sh'.procs.map mute
  status : sh.status = sh'.status
  cwd : sh.cwd = sh'.cwd
  sigint : sh.sigint = sh'.sigint
  children : sh.children = sh'.children
  numChildren : sh.numChildren = sh'.numChildren

def TurnQuiet : Turn → Turn → Prop
  | .next l sh, .next l' sh' => l = l' ∧ Quiet sh sh'
  | .broke l sh, .broke l' sh' => l = l' ∧ Quiet sh sh'
  | .exited sh code, .exited sh' code' => code = code' ∧ Quiet sh sh'
  | _, _ => False

def LaunchedQuiet : Launched → Launched → Prop
  | .done l sh, .done l' sh' => l = l' ∧ Quiet sh sh'
  | .exited sh code, .exited sh' code' => code = code' ∧ Quiet sh sh'
  | _, _ => False

namespace Quiet

variable {sh sh' : Shell}

lemma refl (sh : Shell) : Quiet sh sh := ⟨rfl, rfl, rfl, rfl, rfl, rfl, rfl, rfl, rfl⟩

lemma say (h : Quiet sh sh') (m : String) : Quiet sh (sh'.say m) :=
  ⟨h.fds, h.next, h.lastPid, h.procs, h.status, h.cwd, h.sigint, h.children, h.numChildren⟩

lemma close (h : Quiet sh sh') (fd : Nat) : Quiet (sh.close fd) (sh'.close fd) :=
  ⟨by simp [h.fds], h.next, h.lastPid, h.procs, h.status, h.cwd, h.sigint, h.children,
    h.numChildren⟩

lemma openFile (h : Quiet sh sh') (k : Kind) :
    (sh.openFile k).1 = (sh'.openFile k).1 ∧ Quiet (sh.openFile k).2 (sh'.openFile k).2 :=
  ⟨by simp [Shell.openFile, h.fds], by simp [Shell.openFile, h.fds, h.next],
    by simp [Shell.openFile, h.next], h.lastPid, h.procs, h.status, h.cwd, h.sigint, h.children,
    h.numChildren⟩

lemma pipe (h : Quiet sh sh') :
    sh.pipe.1 = sh'.pipe.1 ∧ sh.pipe.2.1 = sh'.pipe.2.1 ∧ Quiet sh.pipe.2.2 sh'.pipe.2.2 :=
  ⟨by simp [Shell.pipe, h.fds], by simp [Shell.pipe, h.fds, h.next],
    ⟨by simp [Shell.pipe, h.fds, h.next], by simp [h.next], h.lastPid, h.procs, h.status, h.cwd,
      h.sigint, h.children, h.numChildren⟩⟩

lemma spawn (h : Quiet sh sh') {c c' : Nat → Child} (hc : ∀ pid, mute (c pid) = mute (c' pid)) :
    Quiet (sh.spawn c) (sh'.spawn c') :=
  ⟨h.fds, h.next, by simp [h.lastPid], by simp [h.procs, h.lastPid, hc], by simp [Shell.spawn,
    h.status, h.lastPid], h.cwd, h.sigint, h.children, h.numChildren⟩

lemma parentClose (h : Quiet sh sh') (l : Locals) :
    Quiet (Lsh.parentClose l sh) (Lsh.parentClose l sh') := by
  unfold Lsh.parentClose
  split_ifs
  exacts [(h.close _).close _, h.close _, h.close _, h]

lemma waitpid_mute (sh : Shell) (pid : Option Int) : sh.waitpid pid =
    match (sh.procs.find? fun c => some (c.pid : Int) = pid).map mute with
    | some c => { sh with status := Function.update sh.status c.pid c.waited }
    | none => sh := by
  unfold Shell.waitpid
  split <;> rename_i heq <;> simp only [heq, Option.map_some', Option.map_none']
  rfl

lemma waitpid (h : Quiet sh sh') (pid : Option Int) : Quiet (sh.waitpid pid) (sh'.waitpid pid) := by
  have e : (sh.procs.find? fun c => some (c.pid : Int) = pid).map mute =
      (sh'.procs.find? fun c => some (c.pid : Int) = pid).map mute := by
    have e := congrArg (List.find? fun c : Child => decide (some (c.pid : Int) = pid)) h.procs
    rw [List.find?_map, List.find?_map] at e
    exact e
  rw [waitpid_mute, waitpid_mute, ← e]
  split
  · exact ⟨h.fds, h.next, h.lastPid, h.procs, by rw [h.status], h.cwd, h.sigint, h.children,
      h.numChildren⟩
  · exact h

lemma foldl_waitpid (h : Quiet sh sh') (ps : List (Option Int)) :
    Quiet (ps.foldl Shell.waitpid sh) (ps.foldl Shell.waitpid sh') := by
  induction ps generalizing sh sh' with
  | nil => exact h
  | cons p ps ih => exact ih (h.waitpid p)

end Quiet

variable {o : Outcomes} {j : Nat} {command : Argv} {pd : Option (Nat × Nat)} {l : Locals}
  {sh sh' : Shell}

lemma mute_childRun (hc : command.name ≠ "cd") (t : FdTable) (cwd : String) (pid : Nat) :
    mute (childRun o j command pd l t cwd .sigIgn pid) =
      mute (Lsh.childRun o j command pd l t cwd pid) := by
  simp only [childRun, hc, if_false, mute]
  unfold Lsh.childRun
  split <;> rfl

lemma forkStage_quiet (hc : command.name ≠ "cd") (h : Quiet sh sh') (hs : sh.sigint = .sigIgn) :
    (forkStage o j command pd l sh).1 = (Lsh.forkStage o j command pd l sh').1 ∧
      Quiet (forkStage o j command pd l sh).2 (Lsh.forkStage o j command pd l sh').2 := by
  refine ⟨by cases pd <;> simp only [forkStage, Lsh.forkStage, h.lastPid], ?_⟩
  simp only [forkStage, Lsh.forkStage]
  split
  · exact (h.spawn fun pid => by rw [hs, h.fds, h.cwd, mute_childRun hc]).parentClose l
  · exact h.parentClose l

lemma dispatch_quiet (hc : command.name ≠ "cd") (h : Quiet sh sh') (hs : sh.sigint = .sigIgn) :
    TurnQuiet (dispatch o j command pd l sh) (Lsh.dispatch o j command pd l sh') := by
  unfold dispatch Lsh.dispatch
  split
  · exact ⟨rfl, h⟩
  · obtain ⟨hl, hq⟩ := @forkStage_quiet o j command pd l sh sh' hc h hs
    simp only [hc, if_false]
    exact ⟨by rw [hl], hq⟩

lemma launch_quiet (hc : command.name ≠ "cd") (hp : o.pipeOk j = true) (h : Quiet sh sh')
    (hs : sh.sigint = .sigIgn) (onLast : Bool) :
    TurnQuiet (launch o j command onLast l sh) (Lsh.launch o j command onLast l sh') := by
  cases onLast
  · obtain ⟨h₁, h₂, hq⟩ := h.pipe
    rw [Lsh.launch_pipe_ok hp]
    simp only [launch, hp, if_true, Bool.false_eq_true, if_false, h₁, h₂]
    exact dispatch_quiet hc hq hs
  · simp only [launch, Lsh.launch, if_true]
    exact dispatch_quiet hc h hs

lemma launchLoop_quiet {pgm : List Argv} (hcd : ∀ a ∈ pgm, a.name ≠ "cd")
    (hp : ∀ j, o.pipeOk j = true) (h : Quiet sh sh') (hs : sh.sigint = .sigIgn) :
    LaunchedQuiet (launchLoop o j pgm l sh) (Lsh.launchLoop o j pgm l sh') := by
  induction pgm generalizing j l sh sh' with
  | nil => exact ⟨rfl, h⟩
  | cons command pgm ih =>
    have ht := launch_quiet (l := l) (hcd command (List.mem_cons_self _ _)) (hp j) h hs pgm.isEmpty
    have hd := (Detached.launch o j command pgm.isEmpty l sh').sigint
    simp only [launchLoop, Lsh.launchLoop]
    rcases hB : launch o j command pgm.isEmpty l sh with ⟨lB, shB⟩ | ⟨lB, shB⟩ | ⟨shB, cB⟩ <;>
      rcases hF : Lsh.launch o j command pgm.isEmpty l sh' with
        ⟨lF, shF⟩ | ⟨lF, shF⟩ | ⟨shF, cF⟩ <;>
      rw [hB, hF] at ht <;> rw [hF] at hd <;> simp only [TurnQuiet] at ht
    · obtain ⟨rfl, hq⟩ := ht
      exact ih (fun a ha => hcd a (List.mem_cons_of_mem _ ha)) hq
        (hq.sigint.trans (hd.trans (h.sigint.symm.trans hs)))
    · exact ⟨ht.1, ht.2⟩
    · exact ⟨ht.1, ht.2⟩

lemma foldl_waitpid_handler (ps : List (Option Int)) (sh : Shell) :
    (ps.foldl Shell.waitpid sh).numChildren = sh.numChildren := by
  obtain ⟨st, hst⟩ := foldl_waitpid_frame ps sh
  rw [hst]

lemma foldl_waitpid_arm (ps : List (Option Int)) (sh : Shell) (n : Nat) (hd : Handler) :
    ps.foldl Shell.waitpid { sh with numChildren := n, sigint := hd } =
      { ps.foldl Shell.waitpid sh with numChildren := n, sigint := hd } := by
  induction ps generalizing sh with
  | nil => rfl
  | cons p ps ih =>
    simp only [List.foldl_cons]
    rw [← ih]
    congr 1
    unfold Shell.waitpid
    dsimp only
    split <;> rename_i heq <;> simp only [heq]

lemma waitChildren_quiet (cmd : Command) (h : Quiet sh sh') (hs : sh'.sigint = .sigIgn)
    (hn : sh'.numChildren = 0) :
    Quiet (waitChildren cmd l sh) (Lsh.waitChildren cmd l sh') := by
  unfold waitChildren Lsh.waitChildren
  split
  · exact ⟨h.fds, h.next, h.lastPid, h.procs, h.status, h.cwd, hs.symm, h.children, h.numChildren⟩
  · have ha : Lsh.arm l sh' =
        { arm l sh' with numChildren := l.commandCounter, sigint := .killChildrenOnSignal } := rfl
    have harm : Quiet (arm l sh) (arm l sh') :=
      ⟨h.fds, h.next, h.lastPid, h.procs, h.status, h.cwd, h.sigint, rfl, h.numChildren⟩
    have hq := harm.foldl_waitpid (waitArgs l)
    rw [ha, foldl_waitpid_arm (waitArgs l) (arm l sh') l.commandCounter .killChildrenOnSignal]
    exact ⟨hq.fds, hq.next, hq.lastPid, hq.procs, hq.status, hq.cwd, rfl, hq.children,
      by rw [foldl_waitpid_handler]; exact h.numChildren.trans hn⟩

def OpenQuiet : Except Shell (Nat × Shell) → Except Shell (Nat × Shell) → Prop
  | .ok (fd, sh), .ok (fd', sh') => fd = fd' ∧ Quiet sh sh'
  | .error sh, .error sh' => Quiet sh sh'
  | _, _ => False

lemma openInput_quiet (cmd : Command) (h : Quiet sh sh') :
    OpenQuiet (openInput o cmd sh) (Lsh.openInput o cmd sh') := by
  unfold openInput Lsh.openInput
  rcases cmd.rstdin with _ | p <;> rcases o.openErr with _ | e
  exacts [⟨rfl, h⟩, ⟨rfl, h⟩, h.openFile _, h.say _]

lemma openOutput_quiet (cmd : Command) (hc : cmd.rstdout = none ∨ o.creatErr = none)
    (lastIn : Nat) (h : Quiet sh sh') :
    OpenQuiet (openOutput o cmd sh) (Lsh.openOutput o cmd lastIn sh') := by
  unfold openOutput Lsh.openOutput
  rcases hq : cmd.rstdout with _ | q
  · exact ⟨rfl, h⟩
  · rw [hc.resolve_left (by simp [hq])]
    exact h.openFile _

lemma redirect_quiet (cmd : Command) (hc : cmd.rstdout = none ∨ o.creatErr = none)
    (h : Quiet sh sh') :
    match redirect o cmd sh, Lsh.redirect o cmd sh' with
    | .ok (l, sh₁), .ok (l', sh₁') => l = l' ∧ Quiet sh₁ sh₁'
    | .error sh₁, .error sh₁' => Quiet sh₁ sh₁'
    | _, _ => False := by
  have hi := openInput_quiet (o := o) cmd h
  unfold redirect Lsh.redirect
  rcases hB : openInput o cmd sh with shB | ⟨a, shB⟩ <;>
    rcases hF : Lsh.openInput o cmd sh' with shF | ⟨a', shF⟩ <;>
    rw [hB, hF] at hi <;> simp only [OpenQuiet] at hi
  · exact hi
  · obtain ⟨rfl, hq⟩ := hi
    have ho := openOutput_quiet cmd hc a hq
    dsimp only
    rcases hB' : openOutput o cmd shB with shB' | ⟨b, shB'⟩ <;>
      rcases hF' : Lsh.openOutput o cmd a shF with shF' | ⟨b', shF'⟩ <;>
      rw [hB', hF'] at ho <;> simp only [OpenQuiet] at ho
    · exact ho
    · obtain ⟨rfl, hq'⟩ := ho
      exact ⟨rfl, hq'⟩

lemma runCommand_quiet (parseResult : Int) (cmd : Command) (hcd : ∀ a ∈ cmd.pgm, a.name ≠ "cd")
    (hpipe : ∀ j, o.pipeOk j = true) (hcreat : cmd.rstdout = none ∨ o.creatErr = none)
    (hsig : sh.sigint = .sigIgn) (hnum : sh.numChildren = 0) :
    (runCommand o parseResult cmd sh).1 = (Lsh.runCommand o parseResult cmd sh).1 ∧
      Quiet (runCommand o parseResult cmd sh).2 (Lsh.runCommand o parseResult cmd sh).2 := by
  have hr := redirect_quiet (o := o) cmd hcreat (Quiet.refl sh)
  have hf := redirect_files o cmd sh
  unfold runCommand Lsh.runCommand
  rcases hB : redirect o cmd sh with shB | ⟨l, shB⟩ <;>
    rcases hF : Lsh.redirect o cmd sh with shF | ⟨l', shF⟩ <;>
    rw [hB, hF] at hr <;> rw [hF] at hf <;> simp only at hr
  · exact ⟨rfl, hr⟩
  · obtain ⟨rfl, hq⟩ := hr
    have hs : shF.sigint = .sigIgn ∧ shF.numChildren = 0 := by
      obtain ⟨_, _, _, rfl⟩ := hf.1
      exact ⟨hsig, hnum⟩
    have hloop := launchLoop_quiet (j := 0) (l := l) hcd hpipe hq (hq.sigint.trans hs.1)
    have hd := Detached.launchLoop o 0 cmd.pgm l shF
    dsimp only
    rcases hB' : launchLoop o 0 cmd.pgm l shB with ⟨lB, shB'⟩ | ⟨shB', cB⟩ <;>
      rcases hF' : Lsh.launchLoop o 0 cmd.pgm l shF with ⟨lF, shF'⟩ | ⟨shF', cF⟩ <;>
      rw [hB', hF'] at hloop <;> rw [hF'] at hd <;> simp only [LaunchedQuiet] at hloop
    · obtain ⟨rfl, hq'⟩ := hloop
      exact ⟨rfl, waitChildren_quiet cmd hq' (hd.sigint.trans hs.1) (hd.numChildren.trans hs.2)⟩
    · exact ⟨by rw [hloop.1], hloop.2⟩

theorem runCommand_agrees_with_final (o : Outcomes) (parseResult : Int) (cmd : Command)
    (sh : Shell) (hcd : ∀ a ∈ cmd.pgm, a.name ≠ "cd") (hpipe : ∀ j, o.pipeOk j = true)
    (hcreat : cmd.rstdout = none ∨ o.creatErr = none) (hsig : sh.sigint = .sigIgn)
    (hnum : sh.numChildren = 0) :
    (runCommand o parseResult cmd sh).1 = (Lsh.runCommand o parseResult cmd sh).1 ∧
      Quiet (runCommand o parseResult cmd sh).2 (Lsh.runCommand o parseResult cmd sh).2 :=
  runCommand_quiet parseResult cmd hcd hpipe hcreat hsig hnum

def catWcOut : Command := ⟨[⟨"wc", []⟩, ⟨"cat", []⟩], some "in.txt", some "out.txt", false⟩

theorem cat_wc_out_agrees_with_final :
    (∀ a ∈ catWcOut.pgm, a.name ≠ "cd") ∧ (∀ j, Outcomes.succeed.pipeOk j = true) ∧
      (catWcOut.rstdout = none ∨ Outcomes.succeed.creatErr = none) ∧
      (Shell.init "/" 100).sigint = .sigIgn ∧ (Shell.init "/" 100).numChildren = 0 ∧
      (runCommand .succeed 0 catWcOut (Shell.init "/" 100)).1 =
        (Lsh.runCommand .succeed 0 catWcOut (Shell.init "/" 100)).1 ∧
      Quiet (runCommand .succeed 0 catWcOut (Shell.init "/" 100)).2
        (Lsh.runCommand .succeed 0 catWcOut (Shell.init "/" 100)).2 :=
  ⟨by decide, fun _ => rfl, .inr rfl, rfl, rfl,
    runCommand_agrees_with_final .succeed 0 catWcOut _ (by decide) (fun _ => rfl) (.inr rfl) rfl
      rfl⟩

theorem runCommand_leaks_input_on_creat_failure (o : Outcomes) (parseResult : Int)
    (cmd : Command) (sh : Shell) (hne : cmd.pgm ≠ [])
    (hx : ∀ a ∈ cmd.pgm, a.name ≠ "exit" ∧ a.name ≠ "cd") (hstd : ∀ fd < 3, sh.fds.get fd ≠ none)
    (hpipe : ∀ j, o.pipeOk j = true) (hsig : sh.sigint = .sigIgn) (hnum : sh.numChildren = 0)
    (x : Nat) :
    (runCommand o parseResult cmd sh).2.fds.get x =
      match cmd.rstdin, o.openErr, cmd.rstdout, o.creatErr with
      | some path, none, some _, some _ =>
        if x = sh.fds.lowestFree then some ⟨sh.next, .file path .rdonly⟩ else sh.fds.get x
      | _, _, _, _ => sh.fds.get x := by
  by_cases hc : cmd.rstdout = none ∨ o.creatErr = none
  · have hrhs : (match cmd.rstdin, o.openErr, cmd.rstdout, o.creatErr with
        | some path, none, some _, some _ =>
          if x = sh.fds.lowestFree then some ⟨sh.next, .file path .rdonly⟩ else sh.fds.get x
        | _, _, _, _ => sh.fds.get x) = sh.fds.get x := by
      rcases hc with h | h <;> simp only [h] <;> split <;> simp_all
    rw [hrhs, (runCommand_quiet parseResult cmd (fun a ha => (hx a ha).2) hpipe hc hsig hnum).2.fds]
    unfold Lsh.runCommand
    rcases hr : Lsh.redirect o cmd sh with sh₁ | ⟨l, sh₁⟩
    · exact redirect_error_fds hstd hr x
    obtain ⟨l₀, sh₀, inSrc, out, hr₀, hh, -⟩ :=
      redirect_ok (o := { o with openErr := none, creatErr := none }) cmd rfl rfl hstd
    obtain ⟨rfl, rfl⟩ := Prod.mk.inj (Except.ok.inj ((redirect_succeed hr).symm.trans hr₀))
    obtain ⟨l', sh', hd⟩ : ∃ l' sh', Lsh.launchLoop o 0 cmd.pgm l sh₁ = .done l' sh' :=
      launchLoop_done fun a ha => (hx a ha).1
    obtain ⟨_, _, _, _, hw⟩ := waitChildren_frame cmd l' sh'
    simp only [hd, hw]
    exact launchLoop_frame hx hpipe hh hne hd x
  · obtain ⟨q, hq⟩ := Option.ne_none_iff_exists'.mp (not_or.mp hc).1
    obtain ⟨e, he⟩ := Option.ne_none_iff_exists'.mp (not_or.mp hc).2
    rcases hi : cmd.rstdin with _ | p <;> rcases ho : o.openErr with _ | e' <;>
      simp [runCommand, redirect, openInput, openOutput, hi, ho, hq, he, Shell.openFile]

def creatFails : Outcomes := { Outcomes.succeed with creatErr := some .eacces }

theorem cat_wc_out_leaks_input :
    catWcOut.pgm ≠ [] ∧ (∀ a ∈ catWcOut.pgm, a.name ≠ "exit" ∧ a.name ≠ "cd") ∧
      (∀ fd < 3, (Shell.init "/" 100).fds.get fd ≠ none) ∧ (∀ j, creatFails.pipeOk j = true) ∧
      (Shell.init "/" 100).sigint = .sigIgn ∧ (Shell.init "/" 100).numChildren = 0 ∧
      (runCommand creatFails 0 catWcOut (Shell.init "/" 100)).2.fds.get 3 =
        match catWcOut.rstdin, creatFails.openErr, catWcOut.rstdout, creatFails.creatErr with
        | some path, none, some _, some _ =>
          if 3 = (Shell.init "/" 100).fds.lowestFree then
            some ⟨(Shell.init "/" 100).next, .file path .rdonly⟩
          else (Shell.init "/" 100).fds.get 3
        | _, _, _, _ => (Shell.init "/" 100).fds.get 3 :=
  ⟨by decide, by decide, by decide, fun _ => rfl, rfl, rfl,
    runCommand_leaks_input_on_creat_failure creatFails 0 catWcOut _ (by decide) (by decide)
      (by decide) (fun _ => rfl) rfl rfl 3⟩

end Eda093.Lsh.LshC
