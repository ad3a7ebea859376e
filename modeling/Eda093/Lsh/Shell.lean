import Eda093.Lsh.Kernel

/-! The parser's `Command`, the interpreter and its children, and the system calls' answers. -/

namespace Eda093.Lsh

structure Argv where
  name : String
  args : List String
  deriving DecidableEq, Repr

structure Command where
  pgm : List Argv
  rstdin : Option String
  rstdout : Option String
  background : Bool
  deriving DecidableEq, Repr

structure Outcomes where
  openErr : Option Errno
  creatErr : Option Errno
  pipeOk : Nat → Bool
  forkOk : Nat → Bool
  chdirErr : Nat → Option Errno
  resolve : String → String → String
  execErr : Nat → Option Errno
  stops : Nat → Bool

inductive Flow where
  | returns
  | exits (code : Int)
  | execs (argv : Argv)
  deriving DecidableEq, Repr

inductive Status where
  | running
  | stopped
  | terminated
  deriving DecidableEq, Repr

structure Child where
  pid : Nat
  argv : Argv
  cwd : String
  fds : FdTable
  sigint : Handler
  stderr : List String
  flow : Flow
  stops : Bool

structure Shell where
  fds : FdTable
  next : Nat
  lastPid : Nat
  procs : List Child
  status : Nat → Status
  cwd : String
  stderr : List String
  sigint : Handler
  children : List (Option Int)
  numChildren : Nat

structure Locals where
  commandCounter : Nat
  commandPids : List (Option Int)
  index : Nat
  lastIn : Nat
  childIn : Nat
  childOut : Nat

namespace Shell

def say (sh : Shell) (msg : String) : Shell := { sh with stderr := sh.stderr ++ [msg] }

def close (sh : Shell) (fd : Nat) : Shell := { sh with fds := sh.fds.close fd }

def openFile (sh : Shell) (k : Kind) : Nat × Shell :=
  (sh.fds.lowestFree,
    { sh with fds := sh.fds.set sh.fds.lowestFree (some ⟨sh.next, k⟩), next := sh.next + 1 })

def pipe (sh : Shell) : Nat × Nat × Shell :=
  let t := sh.fds.set sh.fds.lowestFree (some ⟨sh.next, .pipeRead⟩)
  (sh.fds.lowestFree, t.lowestFree,
    { sh with fds := t.set t.lowestFree (some ⟨sh.next, .pipeWrite⟩), next := sh.next + 1 })

/-- Children are numbered from `lastPid + 1` on, with no bound; the kernel's pids wrap. -/
def spawn (sh : Shell) (c : Nat → Child) : Shell :=
  { sh with
    lastPid := sh.lastPid + 1
    procs := sh.procs ++ [c (sh.lastPid + 1)]
    status := Function.update sh.status (sh.lastPid + 1) .running }

@[simp] lemma say_fds (sh : Shell) (m : String) : (sh.say m).fds = sh.fds := rfl
@[simp] lemma say_next (sh : Shell) (m : String) : (sh.say m).next = sh.next := rfl
@[simp] lemma say_procs (sh : Shell) (m : String) : (sh.say m).procs = sh.procs := rfl
@[simp] lemma say_lastPid (sh : Shell) (m : String) : (sh.say m).lastPid = sh.lastPid := rfl
@[simp] lemma close_fds (sh : Shell) (fd : Nat) : (sh.close fd).fds = sh.fds.close fd := rfl
@[simp] lemma close_next (sh : Shell) (fd : Nat) : (sh.close fd).next = sh.next := rfl
@[simp] lemma close_procs (sh : Shell) (fd : Nat) : (sh.close fd).procs = sh.procs := rfl
@[simp] lemma close_lastPid (sh : Shell) (fd : Nat) : (sh.close fd).lastPid = sh.lastPid := rfl
@[simp] lemma spawn_fds (sh : Shell) (c : Nat → Child) : (sh.spawn c).fds = sh.fds := rfl
@[simp] lemma spawn_next (sh : Shell) (c : Nat → Child) : (sh.spawn c).next = sh.next := rfl
@[simp] lemma spawn_procs (sh : Shell) (c : Nat → Child) :
    (sh.spawn c).procs = sh.procs ++ [c (sh.lastPid + 1)] := rfl
@[simp] lemma spawn_lastPid (sh : Shell) (c : Nat → Child) :
    (sh.spawn c).lastPid = sh.lastPid + 1 := rfl

lemma pipe_fst (sh : Shell) : sh.pipe.1 = sh.fds.lowestFree := rfl

lemma get_pipe_fst (sh : Shell) : sh.fds.get sh.pipe.1 = none := FdTable.get_lowestFree _

lemma pipe_fds (sh : Shell) (x : Nat) : sh.pipe.2.2.fds.get x =
    if x = sh.pipe.2.1 then some ⟨sh.next, .pipeWrite⟩
    else if x = sh.pipe.1 then some ⟨sh.next, .pipeRead⟩ else sh.fds.get x := by
  simp [pipe]

lemma pipe_snd_fst (sh : Shell) :
    sh.pipe.2.1 ≠ sh.pipe.1 ∧ sh.fds.get sh.pipe.2.1 = none := by
  have h := FdTable.get_lowestFree (sh.fds.set sh.fds.lowestFree (some ⟨sh.next, .pipeRead⟩))
  simp only [FdTable.get_set] at h
  split_ifs at h with e
  exact ⟨e, h⟩

@[simp] lemma pipe_next (sh : Shell) : sh.pipe.2.2.next = sh.next + 1 := rfl
@[simp] lemma pipe_procs (sh : Shell) : sh.pipe.2.2.procs = sh.procs := rfl
@[simp] lemma pipe_lastPid (sh : Shell) : sh.pipe.2.2.lastPid = sh.lastPid := rfl

end Shell

def countCommands : List Argv → Nat
  | [] => 0
  | _ :: pgm => countCommands pgm + 1

@[simp] lemma countCommands_eq_length (pgm : List Argv) : countCommands pgm = pgm.length := by
  induction pgm with
  | nil => rfl
  | cons _ _ ih => simp [countCommands, ih]

def handleFileError : Errno → String
  | .eacces => "Access denied\n"
  | .eisdir => "File is a directory\n"
  | .enoent => "No such file\n"
  | _ => "Could not open file\n"

def handleDirectoryError : Errno → String
  | .eacces => "Permission denied\n"
  | .enoent => "No such path\n"
  | .enotdir => "Not a directory\n"
  | .efault => "Invalid argument\n"
  | e => "Could not change working directory (" ++ toString e.code ++ ")\n"

def handleCommand (command : Argv) : Errno → String
  | .enoent => "Could not find executable: " ++ command.name ++ "\n"
  | _ => "Failed to execute: " ++ command.name

def outputMode : Nat := 0o664

def Shell.init (cwd : String) (pid : Nat) : Shell where
  fds := .ofList [some ⟨0, .inherited⟩, some ⟨1, .inherited⟩, some ⟨2, .inherited⟩]
  next := 3
  lastPid := pid
  procs := []
  status _ := .running
  cwd := cwd
  stderr := []
  sigint := .sigIgn
  children := []
  numChildren := 0

def Outcomes.succeed : Outcomes where
  openErr := none
  creatErr := none
  pipeOk _ := true
  forkOk _ := true
  chdirErr _ := none
  resolve _ path := path
  execErr _ := none
  stops _ := false

end Eda093.Lsh
