import Eda093.Lsh.RunCommand

/-! `main`'s read-eval loop: each line is stripped, parsed and run. -/

namespace Eda093.Lsh

def isspace (c : Char) : Bool :=
  c = ' ' || c = '\t' || c = '\n' || c = '\x0B' || c = '\x0C' || c = '\r'

def leadingSpaces : List Char → Nat
  | [] => 0
  | c :: s => if isspace c then leadingSpaces s + 1 else 0

def lastKept (s : List Char) : Nat → Nat
  | 0 => 0
  | i + 1 => if isspace (s.getD (i + 1) ' ') then lastKept s i else i + 1

/-- The overlapping `strcpy` is taken to copy front to back; C leaves it undefined. -/
def stripwhite (string : List Char) : List Char :=
  let string := string.drop (leadingSpaces string)
  string.take (lastKept string (string.length - 1) + 1)

def mainLoop (o : Nat → Outcomes) (parse : List Char → Command → Int × Command) :
    Nat → Command → List (List Char) → Shell → List (Int × Command) × Shell
  | _, _, [], sh => ([], sh)
  | k, cmd, line :: lines, sh =>
    let line := stripwhite line
    if line.isEmpty then mainLoop o parse k cmd lines sh
    else
      let (parseResult, cmd) := parse line cmd
      match runCommand (o k) parseResult cmd sh with
      | (.returns, sh) =>
        let (calls, sh) := mainLoop o parse (k + 1) cmd lines sh
        ((parseResult, cmd) :: calls, sh)
      | (_, sh) => ([(parseResult, cmd)], sh)

/-- The local `cmd` of `main` is never initialised; the model takes it as zeroes. -/
def Command.zero : Command := ⟨[], none, none, false⟩

def rejectAll (_ : List Char) (cmd : Command) : Int × Command := (0, cmd)

theorem rejected_line_runs :
    (mainLoop (fun _ => .succeed) rejectAll 0 .zero ["|".toList] (Shell.init "/" 100)).1 =
      [(0, .zero)] := by
  decide

end Eda093.Lsh
