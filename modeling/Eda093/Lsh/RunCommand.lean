import Eda093.Lsh.Shell

/-! `RunCommand` of the final `lsh`: the redirections, the loop over the rightmost-first stages
and the foreground wait. -/

namespace Eda093.Lsh

def openInput (o : Outcomes) (cmd : Command) (sh : Shell) : Except Shell (Nat × Shell) :=
  match cmd.rstdin, o.openErr with
  | none, _ => .ok (0, sh)
  | some _, some e => .error (sh.say (handleFileError e))
  | some path, none => .ok (sh.openFile (.file path .rdonly))

def openOutput (o : Outcomes) (cmd : Command) (lastIn : Nat) (sh : Shell) :
    Except Shell (Nat × Shell) :=
  match cmd.rstdout, o.creatErr with
  | none, _ => .ok (1, sh)
  | some _, some e =>
    let sh := sh.say (handleFileError e)
    .error (if lastIn ≠ 0 then sh.close lastIn else sh)
  | some path, none => .ok (sh.openFile (.file path (.creat outputMode)))

def redirect (o : Outcomes) (cmd : Command) (sh : Shell) : Except Shell (Locals × Shell) :=
  match openInput o cmd sh with
  | .error sh => .error sh
  | .ok (lastIn, sh) =>
    match openOutput o cmd lastIn sh with
    | .error sh => .error sh
    | .ok (childOut, sh) =>
      .ok (⟨countCommands cmd.pgm, List.replicate (countCommands cmd.pgm) none, 0, lastIn, 0,
        childOut⟩, sh)

def childFds (pd : Option (Nat × Nat)) (l : Locals) (t : FdTable) : FdTable :=
  let t := match pd with
    | some (_, w) => if w ≠ 1 then t.close w else t
    | none => t
  let t := if l.childIn ≠ 0 then (t.dup2 l.childIn 0).close l.childIn else t
  if l.childOut ≠ 1 then (t.dup2 l.childOut 1).close l.childOut else t

def childRun (o : Outcomes) (j : Nat) (command : Argv) (pd : Option (Nat × Nat)) (l : Locals)
    (t : FdTable) (cwd : String) (pid : Nat) : Child :=
  match o.execErr j with
  | none => ⟨pid, command, cwd, childFds pd l t, .sigIgn, [], .execs command, o.stops j⟩
  | some e =>
    ⟨pid, command, cwd, childFds pd l t, .sigIgn, [handleCommand command e], .exits 0, o.stops j⟩

def parentClose (l : Locals) (sh : Shell) : Shell :=
  let sh := if l.childIn ≠ 0 then sh.close l.childIn else sh
  if l.childOut ≠ 1 then sh.close l.childOut else sh

def forkStage (o : Outcomes) (j : Nat) (command : Argv) (pd : Option (Nat × Nat)) (l : Locals)
    (sh : Shell) : Locals × Shell :=
  let child : Int := if o.forkOk j then ((sh.lastPid + 1 : Nat) : Int) else -1
  let l' := { l with commandPids := l.commandPids.set l.index (some child) }
  (match pd with
    | some (_, w) => { l' with childOut := w }
    | none => l',
   parentClose l (if o.forkOk j then sh.spawn (childRun o j command pd l sh.fds sh.cwd) else sh))

def Shell.chdir (o : Outcomes) (j : Nat) (path : Option String) (sh : Shell) : Shell :=
  match path, o.chdirErr j with
  | none, _ => sh.say (handleDirectoryError .efault)
  | some _, some e => sh.say (handleDirectoryError e)
  | some p, none => { sh with cwd := o.resolve sh.cwd p }

inductive Turn where
  | next (l : Locals) (sh : Shell)
  | broke (l : Locals) (sh : Shell)
  | exited (sh : Shell) (code : Int)

def Turn.shell : Turn → Shell
  | next _ sh | broke _ sh | exited sh _ => sh

def dispatch (o : Outcomes) (j : Nat) (command : Argv) (pd : Option (Nat × Nat)) (l : Locals)
    (sh : Shell) : Turn :=
  if command.name = "exit" then .exited sh 0
  else if command.name = "cd" then
    .next { l with commandCounter := 0, index := l.index + 1 } (sh.chdir o j command.args.head?)
  else
    let (l, sh) := forkStage o j command pd l sh
    .next { l with index := l.index + 1 } sh

def launch (o : Outcomes) (j : Nat) (command : Argv) (onLast : Bool) (l : Locals) (sh : Shell) :
    Turn :=
  if onLast then dispatch o j command none { l with childIn := l.lastIn } sh
  else if o.pipeOk j then
    let (r, w, sh) := sh.pipe
    dispatch o j command (some (r, w)) { l with childIn := r } sh
  else
    let sh := sh.say "Pipe failed"
    .broke l (if l.childOut ≠ 1 then sh.close l.childOut else sh)

inductive Launched where
  | done (l : Locals) (sh : Shell)
  | exited (sh : Shell) (code : Int)

def Launched.shell : Launched → Shell
  | done _ sh | exited sh _ => sh

def launchLoop (o : Outcomes) : Nat → List Argv → Locals → Shell → Launched
  | _, [], l, sh => .done l sh
  | j, command :: pgm, l, sh =>
    match launch o j command pgm.isEmpty l sh with
    | .next l sh => launchLoop o (j + 1) pgm l sh
    | .broke l sh => .done l sh
    | .exited sh code => .exited sh code

def waitArgs (l : Locals) : List (Option Int) :=
  (List.range l.commandCounter).map fun i => l.commandPids.getD i none

def Child.waited (c : Child) : Status := if c.stops then .stopped else .terminated

/-- A `waitpid` on -1, or on a slot the loop never wrote, leaves every status as it was. -/
def Shell.waitpid (sh : Shell) (pid : Option Int) : Shell :=
  match sh.procs.find? fun c => some (c.pid : Int) = pid with
  | some c => { sh with status := Function.update sh.status c.pid c.waited }
  | none => sh

def arm (l : Locals) (sh : Shell) : Shell :=
  { sh with
    children := l.commandPids
    numChildren := l.commandCounter
    sigint := .killChildrenOnSignal }

def waitChildren (cmd : Command) (l : Locals) (sh : Shell) : Shell :=
  if cmd.background then sh
  else { (waitArgs l).foldl Shell.waitpid (arm l sh) with numChildren := 0, sigint := .sigIgn }

def runCommand (o : Outcomes) (_parseResult : Int) (cmd : Command) (sh : Shell) : Flow × Shell :=
  match redirect o cmd sh with
  | .error sh => (.returns, sh)
  | .ok (l, sh) =>
    match launchLoop o 0 cmd.pgm l sh with
    | .exited sh code => (.exits code, sh)
    | .done l sh => (.returns, waitChildren cmd l sh)

def killChildrenOnSignal (sh : Shell) : List (Option Int) :=
  (List.range sh.numChildren).map fun i => sh.children.getD i none

def onSigint (sh : Shell) : List (Option Int) :=
  match sh.sigint with
  | .killChildrenOnSignal => killChildrenOnSignal sh
  | _ => []

end Eda093.Lsh

namespace Eda093.Lsh

variable {o : Outcomes} {j : Nat} {command : Argv} {pd : Option (Nat × Nat)} {l : Locals}
  {sh : Shell}

@[simp] lemma parentClose_next : (parentClose l sh).next = sh.next := by
  simp only [parentClose]; split_ifs <;> rfl

@[simp] lemma parentClose_lastPid : (parentClose l sh).lastPid = sh.lastPid := by
  simp only [parentClose]; split_ifs <;> rfl

@[simp] lemma parentClose_procs : (parentClose l sh).procs = sh.procs := by
  simp only [parentClose]; split_ifs <;> rfl

lemma parentClose_fds (x : Nat) : (parentClose l sh).fds.get x =
    if l.childIn ≠ 0 ∧ x = l.childIn then none
    else if l.childOut ≠ 1 ∧ x = l.childOut then none else sh.fds.get x := by
  have hclose (c : Prop) [Decidable c] (fd : Nat) (sh : Shell) :
      (if c then sh.close fd else sh).fds.get x = if c ∧ x = fd then none else sh.fds.get x := by
    by_cases h : c <;> simp [h]
  simp only [parentClose, hclose]
  by_cases h : l.childIn ≠ 0 ∧ x = l.childIn <;> simp [h]

@[simp] lemma forkStage_index : (forkStage o j command pd l sh).1.index = l.index := by
  cases pd <;> rfl

@[simp] lemma forkStage_commandCounter :
    (forkStage o j command pd l sh).1.commandCounter = l.commandCounter := by
  cases pd <;> rfl

@[simp] lemma forkStage_lastIn : (forkStage o j command pd l sh).1.lastIn = l.lastIn := by
  cases pd <;> rfl

@[simp] lemma forkStage_commandPids : (forkStage o j command pd l sh).1.commandPids =
    l.commandPids.set l.index (some (if o.forkOk j then ((sh.lastPid + 1 : Nat) : Int) else -1)) := by
  cases pd <;> rfl

@[simp] lemma childRun_fds (t : FdTable) (cwd : String) (pid : Nat) :
    (childRun o j command pd l t cwd pid).fds = childFds pd l t := by
  unfold childRun; split <;> rfl

@[simp] lemma childRun_argv (t : FdTable) (cwd : String) (pid : Nat) :
    (childRun o j command pd l t cwd pid).argv = command := by
  unfold childRun; split <;> rfl

@[simp] lemma childRun_cwd (t : FdTable) (cwd : String) (pid : Nat) :
    (childRun o j command pd l t cwd pid).cwd = cwd := by
  unfold childRun; split <;> rfl

@[simp] lemma childRun_pid (t : FdTable) (cwd : String) (pid : Nat) :
    (childRun o j command pd l t cwd pid).pid = pid := by
  unfold childRun; split <;> rfl

@[simp] lemma forkStage_childOut {r w : Nat} :
    (forkStage o j command (some (r, w)) l sh).1.childOut = w := rfl

lemma forkStage_snd_ok (h : o.forkOk j = true) :
    (forkStage o j command pd l sh).2 = parentClose l (sh.spawn (childRun o j command pd l sh.fds sh.cwd)) := by
  simp [forkStage, h]

lemma dispatch_external (hx : command.name ≠ "exit") (hc : command.name ≠ "cd") :
    dispatch o j command pd l sh = .next { (forkStage o j command pd l sh).1 with
      index := l.index + 1 } (forkStage o j command pd l sh).2 := by
  simp [dispatch, hx, hc]

lemma launch_leftmost (hx : command.name ≠ "exit") (hc : command.name ≠ "cd") :
    launch o j command true l sh =
      .next { (forkStage o j command none { l with childIn := l.lastIn } sh).1 with
        index := l.index + 1 } (forkStage o j command none { l with childIn := l.lastIn } sh).2 := by
  simp [launch, dispatch_external hx hc]

lemma launch_pipe_ok (hp : o.pipeOk j = true) : launch o j command false l sh =
    dispatch o j command (some (sh.pipe.1, sh.pipe.2.1)) { l with childIn := sh.pipe.1 } sh.pipe.2.2 := by
  simp [launch, hp]

lemma launch_piped (hx : command.name ≠ "exit") (hc : command.name ≠ "cd") (hp : o.pipeOk j = true) :
    launch o j command false l sh =
      .next { (forkStage o j command (some (sh.pipe.1, sh.pipe.2.1)) { l with childIn := sh.pipe.1 }
        sh.pipe.2.2).1 with index := l.index + 1 }
        (forkStage o j command (some (sh.pipe.1, sh.pipe.2.1)) { l with childIn := sh.pipe.1 }
          sh.pipe.2.2).2 := by
  simp [launch, hp, dispatch_external hx hc]

lemma launchLoop_next {pgm : List Argv} {l₁ : Locals} {sh₁ : Shell}
    (h : launch o j command pgm.isEmpty l sh = .next l₁ sh₁) :
    launchLoop o j (command :: pgm) l sh = launchLoop o (j + 1) pgm l₁ sh₁ := by
  rw [launchLoop, h]

end Eda093.Lsh
