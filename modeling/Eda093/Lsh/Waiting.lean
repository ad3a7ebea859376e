import Eda093.Lsh.Wiring

/-! The foreground wait: the pids `waitpid` and the `SIGINT` handler are given, and the statuses
on return. -/

namespace Eda093.Lsh

variable {o : Outcomes} {j : Nat} {command : Argv} {pd : Option (Nat × Nat)} {l : Locals}
  {sh sh₀ : Shell}

def PidsOk (sh : Shell) : Prop :=
  sh.procs.Pairwise (fun a b => a.pid < b.pid) ∧ ∀ c ∈ sh.procs, c.pid ≤ sh.lastPid

def Recorded (sh₀ : Shell) (l : Locals) (sh : Shell) : Prop :=
  ∃ new, sh.procs = sh₀.procs ++ new ∧
    ∀ c ∈ new, ∃ m < l.index, l.commandPids[m]? = some (some (c.pid : Int))

lemma forkStage_snd_fail (h : o.forkOk j = false) :
    (forkStage o j command pd l sh).2 = parentClose l sh := by
  simp [forkStage, h]

lemma PidsOk.spawn (hp : PidsOk sh) (c : Nat → Child) (hc : (c (sh.lastPid + 1)).pid = sh.lastPid + 1) :
    PidsOk (sh.spawn c) := by
  refine ⟨List.pairwise_append.2 ⟨hp.1, by simp, ?_⟩, ?_⟩
  · intro a ha b hb
    rw [List.mem_singleton.1 hb, hc]
    exact Nat.lt_succ_of_le (hp.2 a ha)
  · intro a ha
    rcases List.mem_append.1 ha with ha | ha
    · exact Nat.le_succ_of_le (hp.2 a ha)
    · rw [List.mem_singleton.1 ha, hc]; exact Nat.le_refl _

lemma forkStage_recorded (hrec : Recorded sh₀ l sh) (hp : PidsOk sh)
    (hi : l.index < l.commandPids.length) :
    Recorded sh₀ { (forkStage o j command pd l sh).1 with index := l.index + 1 }
      (forkStage o j command pd l sh).2 ∧ PidsOk (forkStage o j command pd l sh).2 := by
  obtain ⟨new, hnew, hslots⟩ := hrec
  have hkeep (v : Option Int) (c : Child) (hc : ∃ m < l.index, l.commandPids[m]? = some (some (c.pid : Int))) :
      ∃ m < l.index + 1, (l.commandPids.set l.index v)[m]? = some (some (c.pid : Int)) := by
    obtain ⟨m, hm, h⟩ := hc
    exact ⟨m, by omega, by rw [List.getElem?_set_ne (by omega), h]⟩
  cases h : o.forkOk j
  · rw [forkStage_snd_fail h]
    refine ⟨⟨new, by simp [hnew], fun c hc => ?_⟩, by simpa [PidsOk] using hp⟩
    simpa using hkeep _ c (hslots c hc)
  · rw [forkStage_snd_ok h]
    refine ⟨⟨new ++ [childRun o j command pd l sh.fds sh.cwd (sh.lastPid + 1)], by simp [hnew],
      fun c hc => ?_⟩, ?_⟩
    · rcases List.mem_append.1 hc with hc | hc
      · simpa using hkeep _ c (hslots c hc)
      · rw [List.mem_singleton.1 hc]
        exact ⟨l.index, by simp, by simp [h, hi]⟩
    · have := hp.spawn (childRun o j command pd l sh.fds sh.cwd) (by simp)
      simpa [PidsOk] using this

lemma pipe_recorded (hrec : Recorded sh₀ l sh) (hp : PidsOk sh) (r : Nat) :
    Recorded sh₀ { l with childIn := r } sh.pipe.2.2 ∧ PidsOk sh.pipe.2.2 := by
  obtain ⟨new, hnew, hslots⟩ := hrec
  exact ⟨⟨new, by simp [hnew], hslots⟩, by simpa [PidsOk] using hp⟩

lemma launch_recorded (hx : command.name ≠ "exit") (hc : command.name ≠ "cd") (onLast : Bool)
    (hrec : Recorded sh₀ l sh) (hp : PidsOk sh) (hi : l.index < l.commandPids.length) :
    match launch o j command onLast l sh with
    | .next l₁ sh₁ => Recorded sh₀ l₁ sh₁ ∧ PidsOk sh₁ ∧ l₁.commandCounter = l.commandCounter ∧
        l₁.index = l.index + 1 ∧ l₁.commandPids.length = l.commandPids.length
    | .broke l₁ sh₁ => Recorded sh₀ l₁ sh₁ ∧ PidsOk sh₁ ∧ l₁ = l
    | .exited _ _ => True := by
  cases onLast
  · by_cases hpipe : o.pipeOk j
    · rw [launch_piped hx hc hpipe]
      obtain ⟨hrec', hp'⟩ := pipe_recorded hrec hp sh.pipe.1
      exact ⟨(forkStage_recorded hrec' hp' hi).1, (forkStage_recorded hrec' hp' hi).2, by simp,
        rfl, by simp⟩
    · simp only [launch, Bool.false_eq_true, if_false, hpipe]
      split_ifs <;> exact ⟨hrec, hp, trivial⟩
  · rw [launch_leftmost hx hc]
    have hrec' : Recorded sh₀ { l with childIn := l.lastIn } sh := hrec
    exact ⟨(forkStage_recorded hrec' hp hi).1, (forkStage_recorded hrec' hp hi).2, by simp, rfl,
      by simp⟩

lemma launchLoop_recorded {pgm : List Argv} {l' : Locals} {sh' : Shell}
    (hx : ∀ a ∈ pgm, a.name ≠ "exit" ∧ a.name ≠ "cd") (hrec : Recorded sh₀ l sh) (hp : PidsOk sh)
    (hlen : l.index + pgm.length ≤ l.commandPids.length)
    (hrun : launchLoop o j pgm l sh = .done l' sh') :
    Recorded sh₀ l' sh' ∧ PidsOk sh' ∧ l'.commandCounter = l.commandCounter ∧
      l'.index ≤ l.index + pgm.length ∧ l'.commandPids.length = l.commandPids.length := by
  induction pgm generalizing j l sh with
  | nil =>
    obtain ⟨rfl, rfl⟩ := Launched.done.inj hrun
    exact ⟨hrec, hp, rfl, by simp, rfl⟩
  | cons command rest ih =>
    obtain ⟨hxc, hcd⟩ := hx command (List.mem_cons_self _ _)
    have h := launch_recorded (o := o) (j := j) hxc hcd rest.isEmpty hrec hp
      (by simp only [List.length_cons] at hlen; omega)
    rcases hl : launch o j command rest.isEmpty l sh with ⟨l₁, sh₁⟩ | ⟨l₁, sh₁⟩ | ⟨sh₁, code⟩ <;>
      rw [hl] at h
    · obtain ⟨hrec₁, hp₁, hc₁, hi₁, hlen₁⟩ := h
      rw [launchLoop_next hl] at hrun
      obtain ⟨hrec', hp', hc', hi', hlen'⟩ := ih (fun a ha => hx a (List.mem_cons_of_mem _ ha))
        hrec₁ hp₁ (by simp only [List.length_cons] at hlen; omega) hrun
      exact ⟨hrec', hp', hc'.trans hc₁, by simp only [List.length_cons]; omega, hlen'.trans hlen₁⟩
    · obtain ⟨hrec₁, hp₁, rfl⟩ := h
      simp only [launchLoop, hl, Launched.done.injEq] at hrun
      obtain ⟨rfl, rfl⟩ := hrun
      exact ⟨hrec₁, hp₁, rfl, by simp, rfl⟩
    · simp [launchLoop, hl] at hrun

lemma find_pid {c : Child} : ∀ {ps : List Child}, ps.Pairwise (fun a b => a.pid < b.pid) →
    c ∈ ps → ps.find? (fun c' => some (c'.pid : Int) = some (c.pid : Int)) = some c
  | a :: ps, hs, hc => by
    rw [List.pairwise_cons] at hs
    rcases List.mem_cons.1 hc with rfl | hc
    · simp
    · have hne : (a.pid : Int) ≠ c.pid := by have := hs.1 c hc; omega
      rw [List.find?_cons_of_neg _ (by simpa using hne), find_pid hs.2 hc]

lemma waitpid_status_ne {x : Nat} {p : Option Int} (h : p ≠ some (x : Int)) :
    (sh.waitpid p).status x = sh.status x := by
  unfold Shell.waitpid
  split
  · next c hc =>
    have hpid := List.find?_some hc
    simp only [decide_eq_true_eq] at hpid
    show Function.update sh.status c.pid c.waited x = sh.status x
    rw [Function.update_noteq]
    rintro rfl
    exact h hpid.symm
  · rfl

lemma waitpid_status_self {c : Child} (hp : PidsOk sh) (hc : c ∈ sh.procs) :
    (sh.waitpid (some c.pid)).status c.pid = c.waited := by
  unfold Shell.waitpid
  rw [find_pid hp.1 hc]
  simp

lemma foldl_waitpid_status_ne {x : Nat} (ps : List (Option Int)) (h : some (x : Int) ∉ ps)
    (sh : Shell) : (ps.foldl Shell.waitpid sh).status x = sh.status x := by
  induction ps generalizing sh with
  | nil => rfl
  | cons p ps ih =>
    rw [List.foldl_cons, ih (fun h' => h (List.mem_cons_of_mem _ h')),
      waitpid_status_ne fun h' => h (h' ▸ List.mem_cons_self _ _)]

lemma foldl_waitpid_status (c : Child) (ps : List (Option Int)) (hin : some (c.pid : Int) ∈ ps)
    (sh : Shell) (hp : PidsOk sh) (hc : c ∈ sh.procs) :
    (ps.foldl Shell.waitpid sh).status c.pid = c.waited := by
  induction ps generalizing sh with
  | nil => simp at hin
  | cons p ps ih =>
    obtain ⟨st, hw⟩ := waitpid_frame sh p
    by_cases h : some (c.pid : Int) ∈ ps
    · exact ih h _ (by rw [hw]; exact hp) (by rw [hw]; exact hc)
    · have hpc : p = some (c.pid : Int) := by
        rcases List.mem_cons.1 hin with h' | h'
        exacts [h'.symm, absurd h' h]
      rw [List.foldl_cons, foldl_waitpid_status_ne ps h, hpc, waitpid_status_self hp hc]

lemma runCommand_waited (o : Outcomes) (parseResult : Int) (cmd : Command) (sh : Shell)
    (hfg : cmd.background = false) (hx : ∀ a ∈ cmd.pgm, a.name ≠ "exit" ∧ a.name ≠ "cd")
    (hp : PidsOk sh) :
    ∃ new, (runCommand o parseResult cmd sh).2.procs = sh.procs ++ new ∧
      ∀ c ∈ new, (runCommand o parseResult cmd sh).2.status c.pid = c.waited := by
  have hr := redirect_files o cmd sh
  unfold runCommand
  split
  · next sh₁ h =>
    rw [h] at hr
    exact ⟨[], by simp [hr.procs.1], by simp⟩
  · next l sh₁ h =>
    rw [h] at hr
    obtain ⟨hf, hcnt, hpids, hidx⟩ := hr
    obtain ⟨l', sh₂, hd⟩ : ∃ l' sh', launchLoop o 0 cmd.pgm l sh₁ = .done l' sh' :=
      launchLoop_done fun a ha => (hx a ha).1
    have hp₁ : PidsOk sh₁ := by rw [PidsOk, hf.procs.1, hf.procs.2]; exact hp
    obtain ⟨⟨new, hnew, hslots⟩, hp₂, hc₂, hi₂, -⟩ :=
      launchLoop_recorded hx (⟨[], by simp [hf.procs.1], by simp⟩ : Recorded sh l sh₁) hp₁
        (by simp [hidx, hpids]) hd
    simp only [hd]
    refine ⟨new, by rw [waitChildren_procs, hnew], fun c hc => ?_⟩
    obtain ⟨m, hm, hslot⟩ := hslots c hc
    simp only [waitChildren, hfg, Bool.false_eq_true, if_false]
    refine foldl_waitpid_status c _ (List.mem_map.2 ⟨m, List.mem_range.2 ?_, ?_⟩) (arm l' sh₂) hp₂
      (by simp [arm, hnew, hc])
    · rw [hc₂, hcnt]; omega
    · rw [List.getD_eq_getElem?_getD, hslot]; rfl

theorem runCommand_waits_children (o : Outcomes) (parseResult : Int) (cmd : Command) (sh : Shell)
    (hfg : cmd.background = false) (hx : ∀ a ∈ cmd.pgm, a.name ≠ "exit" ∧ a.name ≠ "cd")
    (hp : PidsOk sh) :
    ∃ new, (runCommand o parseResult cmd sh).2.procs = sh.procs ++ new ∧
      ∀ c ∈ new, (runCommand o parseResult cmd sh).2.status c.pid = c.waited :=
  runCommand_waited o parseResult cmd sh hfg hx hp

lemma init_pidsOk (cwd : String) (pid : Nat) : PidsOk (Shell.init cwd pid) := by
  simp [PidsOk, Shell.init]

def sleepFive : Command := ⟨[⟨"sleep", ["5"]⟩], none, none, false⟩

theorem sleep_five_waited :
    ∃ new, (runCommand .succeed 0 sleepFive (Shell.init "/" 100)).2.procs = [] ++ new ∧
      ∀ c ∈ new, (runCommand .succeed 0 sleepFive (Shell.init "/" 100)).2.status c.pid = c.waited :=
  runCommand_waits_children .succeed 0 sleepFive (Shell.init "/" 100) rfl (by decide)
    (init_pidsOk _ _)

def cdSleep : Command := ⟨[⟨"sleep", ["5"]⟩, ⟨"cd", ["/"]⟩], none, none, false⟩

theorem cd_sleep_returns_running :
    let sh' := (runCommand .succeed 0 cdSleep (Shell.init "/" 100)).2
    sh'.procs.map (fun c => (c.pid, c.stops, sh'.status c.pid)) = [(101, false, .running)] := by
  decide

def Outcomes.forkFails : Outcomes := { Outcomes.succeed with forkOk := fun _ => false }

theorem fork_failure_waits_minus_one :
    ∃ l sh₁ l' sh₂, redirect .forkFails sleepFive (Shell.init "/" 100) = .ok (l, sh₁) ∧
      launchLoop .forkFails 0 sleepFive.pgm l sh₁ = .done l' sh₂ ∧
      waitArgs l' = [some (-1)] ∧ onSigint (arm l' sh₂) = [some (-1)] :=
  ⟨_, _, _, _, rfl, rfl, rfl, rfl⟩

lemma onSigint_arm (l : Locals) (sh : Shell) : onSigint (arm l sh) = waitArgs l := rfl

lemma launchLoop_commandPids {pgm : List Argv} {l' : Locals} {sh' : Shell} {ps : List (Option Int)}
    (hext : ∀ a ∈ pgm, a.name ≠ "exit" ∧ a.name ≠ "cd")
    (hpipe : ∀ j, o.pipeOk j = true) (hfork : ∀ j, o.forkOk j = true)
    (hpids : l.commandPids = ps ++ List.replicate pgm.length none) (hidx : l.index = ps.length)
    (hrun : launchLoop o j pgm l sh = .done l' sh') :
    l'.commandCounter = l.commandCounter ∧
      l'.commandPids = ps ++ (List.range pgm.length).map fun i => some ((sh.lastPid + 1 + i : Nat) : Int) := by
  induction pgm generalizing j l sh ps with
  | nil =>
    obtain ⟨rfl, -⟩ := Launched.done.inj hrun
    simpa using hpids
  | cons command rest ih =>
    obtain ⟨hx, hc⟩ := hext command (List.mem_cons_self _ _)
    obtain ⟨l₁, sh₁, c, hl, hpid, -, -, -, hcnt, -, hidx₁, hpids₁⟩ :=
      launch_forks hx hc (hpipe j) (hfork j) rest.isEmpty
    rw [launchLoop_next hl] at hrun
    have hset : l₁.commandPids =
        (ps ++ [some ((sh.lastPid + 1 : Nat) : Int)]) ++ List.replicate rest.length none := by
      rw [hpids₁, hpids, hidx, List.set_append_right _ _ (Nat.le_refl _), Nat.sub_self,
        List.length_cons, List.replicate_succ, List.set_cons_zero, List.append_assoc,
        List.singleton_append]
    obtain ⟨hcnt', hpids'⟩ :=
      ih (fun a ha => hext a (List.mem_cons_of_mem _ ha)) hset (by simp [hidx₁, hidx]) hrun
    refine ⟨hcnt'.trans hcnt, ?_⟩
    rw [hpids', hpid, List.length_cons, List.range_succ_eq_map, List.map_cons, List.map_map,
      List.append_assoc, List.singleton_append]
    congr 3
    funext i
    simp only [Function.comp_apply, Nat.succ_eq_add_one, Option.some.injEq]
    omega

theorem wait_targets_forked_children (o : Outcomes) (cmd : Command) (sh : Shell)
    (hext : ∀ a ∈ cmd.pgm, a.name ≠ "exit" ∧ a.name ≠ "cd") (hpipe : ∀ j, o.pipeOk j = true)
    (hfork : ∀ j, o.forkOk j = true) {l : Locals} {sh₁ : Shell} {l' : Locals} {sh₂ : Shell}
    (hr : redirect o cmd sh = .ok (l, sh₁)) (hrun : launchLoop o 0 cmd.pgm l sh₁ = .done l' sh₂) :
    ∃ new, sh₂.procs = sh.procs ++ new ∧ waitArgs l' = new.map (fun c => some (c.pid : Int)) ∧
      onSigint (arm l' sh₂) = new.map (fun c => some (c.pid : Int)) := by
  have hf := redirect_files o cmd sh
  rw [hr] at hf
  obtain ⟨hfiles, hcnt, hpids, hidx⟩ := hf
  obtain ⟨hprocs, hlast⟩ := hfiles.procs
  obtain ⟨-, new, hnew, hlen, hat⟩ := launchLoop_forks hext hpipe hfork hrun
  obtain ⟨hcnt', hpids'⟩ := launchLoop_commandPids hext hpipe hfork
    (show l.commandPids = [] ++ List.replicate cmd.pgm.length none by rw [hpids, List.nil_append])
    (by rw [hidx, List.length_nil]) hrun
  have hwait : waitArgs l' = new.map (fun c => some (c.pid : Int)) := by
    apply List.ext_getElem?
    intro i
    simp only [waitArgs, hcnt', hcnt, hpids', List.nil_append, List.getElem?_map]
    by_cases hi : i < cmd.pgm.length
    · obtain ⟨c, hc⟩ : ∃ c, new[i]? = some c := ⟨new[i], List.getElem?_eq_getElem (by omega)⟩
      rw [hc, List.getElem?_range hi, Option.map_some', Option.map_some',
        List.getD_eq_getElem?_getD, List.getElem?_map, List.getElem?_range hi, Option.map_some',
        Option.getD_some, (hat i c hc).2, hlast]
    · rw [List.getElem?_eq_none (by simpa using hi), List.getElem?_eq_none (by omega)]
      rfl
  exact ⟨new, by rw [hnew, hprocs], hwait, hwait⟩

def yesHead : Command := ⟨[⟨"head", []⟩, ⟨"yes", []⟩], none, none, false⟩

theorem yes_head_wait_targets :
    ∃ l sh₁ l' sh₂, redirect .succeed yesHead (Shell.init "/" 100) = .ok (l, sh₁) ∧
      launchLoop .succeed 0 yesHead.pgm l sh₁ = .done l' sh₂ ∧
      ∃ new, sh₂.procs = (Shell.init "/" 100).procs ++ new ∧
        waitArgs l' = new.map (fun c => some (c.pid : Int)) ∧
        onSigint (arm l' sh₂) = new.map (fun c => some (c.pid : Int)) :=
  ⟨_, _, _, _, rfl, rfl, wait_targets_forked_children .succeed yesHead _ (by decide)
    (fun _ => rfl) (fun _ => rfl) rfl rfl⟩

structure Detached (sh sh' : Shell) : Prop where
  procs : ∃ new, sh'.procs = sh.procs ++ new ∧ ∀ c ∈ new, sh.lastPid < c.pid ∧ c.pid ≤ sh'.lastPid
  lastPid : sh.lastPid ≤ sh'.lastPid
  old : ∀ x ≤ sh.lastPid, sh'.status x = sh.status x
  running : ∀ x, sh.lastPid < x → x ≤ sh'.lastPid → sh'.status x = .running
  children : sh'.children = sh.children
  numChildren : sh'.numChildren = sh.numChildren
  sigint : sh'.sigint = sh.sigint

namespace Detached

variable {sh₁ sh₂ sh₃ : Shell}

lemma of_io (h : ∃ fds next stderr cwd,
    sh₂ = { sh₁ with fds := fds, next := next, stderr := stderr, cwd := cwd }) : Detached sh₁ sh₂ := by
  obtain ⟨_, _, _, _, rfl⟩ := h
  exact ⟨⟨[], by simp, by simp⟩, Nat.le_refl _, fun _ _ => rfl,
    fun _ h₁ h₂ => absurd h₂ (Nat.not_le.2 h₁), rfl, rfl, rfl⟩

lemma of_files (h : Files sh₁ sh₂) : Detached sh₁ sh₂ :=
  let ⟨fds, next, stderr, e⟩ := h
  of_io ⟨fds, next, stderr, sh₁.cwd, e⟩

lemma refl (sh : Shell) : Detached sh sh := of_io ⟨sh.fds, sh.next, sh.stderr, sh.cwd, rfl⟩

lemma trans (h₁ : Detached sh₁ sh₂) (h₂ : Detached sh₂ sh₃) : Detached sh₁ sh₃ := by
  obtain ⟨a, ha, hpa⟩ := h₁.procs
  obtain ⟨b, hb, hpb⟩ := h₂.procs
  refine ⟨⟨a ++ b, by rw [hb, ha, List.append_assoc], fun c hc => ?_⟩, Nat.le_trans h₁.lastPid h₂.lastPid,
    fun x hx => ?_, fun x hx hx' => ?_, h₂.children.trans h₁.children,
    h₂.numChildren.trans h₁.numChildren, h₂.sigint.trans h₁.sigint⟩
  · rcases List.mem_append.1 hc with hc | hc
    · have := hpa c hc; have := h₂.lastPid; omega
    · have := hpb c hc; have := h₁.lastPid; omega
  · rw [h₂.old x (Nat.le_trans hx h₁.lastPid), h₁.old x hx]
  · by_cases hx₂ : x ≤ sh₂.lastPid
    · rw [h₂.old x hx₂, h₁.running x hx hx₂]
    · exact h₂.running x (by omega) hx'

lemma spawn (sh : Shell) (c : Nat → Child) (hc : (c (sh.lastPid + 1)).pid = sh.lastPid + 1) :
    Detached sh (sh.spawn c) := by
  refine ⟨⟨[c (sh.lastPid + 1)], rfl, fun c' hc' => ?_⟩, Nat.le_succ _, fun x hx => ?_,
    fun x hx hx' => ?_, rfl, rfl, rfl⟩
  · rw [List.mem_singleton.1 hc', hc]
    exact ⟨Nat.lt_succ_self _, Nat.le_refl _⟩
  · simp only [Shell.spawn, Function.update_apply, if_neg (show x ≠ sh.lastPid + 1 by omega)]
  · simp only [Shell.spawn, Function.update_apply, if_pos (show x = sh.lastPid + 1 by
      simp only [Shell.spawn_lastPid] at hx'; omega)]

lemma parentClose (l : Locals) (sh : Shell) : Detached sh (Lsh.parentClose l sh) := by
  unfold Lsh.parentClose
  split_ifs <;> exact of_io ⟨_, _, _, _, rfl⟩

lemma forkStage (o : Outcomes) (j : Nat) (command : Argv) (pd : Option (Nat × Nat)) (l : Locals)
    (sh : Shell) : Detached sh (Lsh.forkStage o j command pd l sh).2 := by
  cases hf : o.forkOk j
  · rw [forkStage_snd_fail hf]
    exact parentClose l sh
  · rw [forkStage_snd_ok hf]
    exact (spawn sh _ (by simp)).trans (parentClose l _)

lemma dispatch (o : Outcomes) (j : Nat) (command : Argv) (pd : Option (Nat × Nat)) (l : Locals)
    (sh : Shell) : Detached sh (Lsh.dispatch o j command pd l sh).shell := by
  unfold Lsh.dispatch
  split_ifs
  · exact refl sh
  · exact of_io (by unfold Shell.chdir; split <;> exact ⟨_, _, _, _, rfl⟩)
  · exact forkStage o j command pd l sh

lemma launch (o : Outcomes) (j : Nat) (command : Argv) (onLast : Bool) (l : Locals) (sh : Shell) :
    Detached sh (Lsh.launch o j command onLast l sh).shell := by
  unfold Lsh.launch
  split_ifs
  · exact dispatch o j command _ _ sh
  · exact (of_io ⟨_, _, _, _, rfl⟩).trans (dispatch o j command _ _ _)
  all_goals exact of_io ⟨_, _, _, _, rfl⟩

lemma launchLoop (o : Outcomes) (j : Nat) (pgm : List Argv) (l : Locals) (sh : Shell) :
    Detached sh (Lsh.launchLoop o j pgm l sh).shell := by
  induction pgm generalizing j l sh with
  | nil => exact refl sh
  | cons command pgm ih =>
    have h := launch o j command pgm.isEmpty l sh
    simp only [Lsh.launchLoop]
    split <;> rename_i heq <;> rw [heq] at h
    exacts [h.trans (ih _ _ _), h, h]

end Detached

end Eda093.Lsh
