import Eda093.Lsh.Pipeline

/-! The interpreter's own descriptors across one `RunCommand`: a `cd` stage leaves a pipe end
open, and without `cd` the descriptors are restored. -/

namespace Eda093.Lsh

def cdCat : Command := ⟨[⟨"cat", []⟩, ⟨"cd", ["/"]⟩], none, none, false⟩

theorem cd_cat_keeps_write_end :
    (Shell.init "/" 100).fds.get 4 = none ∧
      (runCommand .succeed 0 cdCat (Shell.init "/" 100)).2.fds.get 4 = some ⟨3, .pipeWrite⟩ := by
  decide

variable {o : Outcomes} {orig : Nat → Option Obj} {inSrc out : Obj} {j : Nat} {command : Argv}
  {pd : Option (Nat × Nat)} {l : Locals} {sh sh' : Shell}

lemma forkStage_fds (x : Nat) :
    (forkStage o j command pd l sh).2.fds.get x = (parentClose l sh).fds.get x := by
  cases hf : o.forkOk j
  · simp [forkStage, hf]
  · rw [forkStage_snd_ok hf, parentClose_fds, parentClose_fds, Shell.spawn_fds]

lemma LoopHead.of_get (h : LoopHead orig inSrc out l sh) (hf : ∀ x, sh'.fds.get x = sh.fds.get x) :
    LoopHead orig inSrc out l sh' :=
  ⟨h.std, h.input, h.output, fun x => (hf x).trans (h.fds x)⟩

lemma redirect_error_fds {cmd : Command} (hstd : ∀ fd < 3, sh.fds.get fd ≠ none)
    (h : redirect o cmd sh = .error sh') (x : Nat) : sh'.fds.get x = sh.fds.get x := by
  have ha := FdTable.three_le_lowestFree hstd
  rcases cmd with ⟨pgm, _ | p, _ | q, bg⟩ <;> cases ho : o.openErr <;> cases hc : o.creatErr <;>
    simp [redirect, openInput, openOutput, ho, hc, Shell.openFile, Shell.say] at h <;> subst h
  all_goals first
    | rfl
    | (rw [if_neg (by omega)]
       by_cases hx : x = sh.fds.lowestFree
       · simp [hx, FdTable.get_lowestFree]
       · simp [hx])

lemma redirect_succeed {cmd : Command} {r : Locals × Shell} (h : redirect o cmd sh = .ok r) :
    redirect { o with openErr := none, creatErr := none } cmd sh = .ok r := by
  rcases cmd with ⟨pgm, _ | p, _ | q, bg⟩ <;> cases ho : o.openErr <;> cases hc : o.creatErr <;>
    simp_all [redirect, openInput, openOutput]

lemma launchLoop_frame {pgm : List Argv} {l' : Locals}
    (hext : ∀ a ∈ pgm, a.name ≠ "exit" ∧ a.name ≠ "cd") (hpipe : ∀ j, o.pipeOk j = true)
    (h : LoopHead orig inSrc out l sh) (hne : pgm ≠ [])
    (hrun : launchLoop o j pgm l sh = .done l' sh') (x : Nat) : sh'.fds.get x = orig x := by
  induction pgm generalizing j l sh out with
  | nil => exact absurd rfl hne
  | cons command rest ih =>
    obtain ⟨hx, hc⟩ := hext command (List.mem_cons_self _ _)
    cases rest with
    | nil =>
      rw [launchLoop_next (launch_leftmost hx hc)] at hrun
      obtain ⟨-, rfl⟩ := Launched.done.inj hrun
      rw [forkStage_fds, parentClose_fds]
      exact h.closed x
    | cons command' rest' =>
      rw [launchLoop_next (launch_piped hx hc (hpipe j))] at hrun
      have h₁ : LoopHead orig inSrc ⟨sh.next, .pipeWrite⟩
          { (forkStage o j command (some (sh.pipe.1, sh.pipe.2.1)) { l with childIn := sh.pipe.1 }
            sh.pipe.2.2).1 with index := l.index + 1 } _ :=
        h.piped (childRun o j command none l sh.fds sh.cwd) (by simp) (by simp)
      exact ih (fun a ha => hext a (List.mem_cons_of_mem _ ha))
        (h₁.of_get fun y => by rw [forkStage_fds, parentClose_fds, parentClose_fds, Shell.spawn_fds])
        (List.cons_ne_nil _ _) hrun

theorem runCommand_restores_fds (o : Outcomes) (parseResult : Int) (cmd : Command) (sh : Shell)
    (hne : cmd.pgm ≠ []) (hx : ∀ a ∈ cmd.pgm, a.name ≠ "exit" ∧ a.name ≠ "cd")
    (hstd : ∀ fd < 3, sh.fds.get fd ≠ none) (hpipe : ∀ j, o.pipeOk j = true) (x : Nat) :
    (runCommand o parseResult cmd sh).2.fds.get x = sh.fds.get x := by
  unfold runCommand
  rcases hr : redirect o cmd sh with sh₁ | ⟨l, sh₁⟩
  · exact redirect_error_fds hstd hr x
  obtain ⟨l₀, sh₀, inSrc, out, hr₀, hh, -⟩ :=
    redirect_ok (o := { o with openErr := none, creatErr := none }) cmd rfl rfl hstd
  obtain ⟨rfl, rfl⟩ := Prod.mk.inj (Except.ok.inj ((redirect_succeed hr).symm.trans hr₀))
  obtain ⟨l', sh', hd⟩ : ∃ l' sh', launchLoop o 0 cmd.pgm l sh₁ = .done l' sh' :=
    launchLoop_done fun a ha => (hx a ha).1
  obtain ⟨_, _, _, _, hw⟩ := waitChildren_frame cmd l' sh'
  simp only [hd, hw]
  exact launchLoop_frame hx hpipe hh hne hd x

theorem cat_wc_fork_failure_restores_fds :
    (runCommand { Outcomes.succeed with forkOk := fun j => j == 0 } 0 catWc
      (Shell.init "/" 100)).2.fds.get 3 = (Shell.init "/" 100).fds.get 3 :=
  runCommand_restores_fds _ 0 catWc _ (by decide) (by decide) (by decide) (fun _ => rfl) 3

end Eda093.Lsh
