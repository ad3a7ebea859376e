import Mathlib.Logic.Function.Basic
import Mathlib.Data.List.GetD
import Mathlib.Data.Nat.Defs

/-! Open file descriptions and descriptor tables: `open`, `creat` and `pipe` take the lowest free
descriptor. -/

namespace Eda093.Lsh

inductive Access where
  | rdonly
  | creat (mode : Nat)
  deriving DecidableEq, Repr

inductive Kind where
  | inherited
  | file (path : String) (access : Access)
  | pipeRead
  | pipeWrite
  deriving DecidableEq, Repr

structure Obj where
  id : Nat
  kind : Kind
  deriving DecidableEq, Repr

structure FdTable where
  get : Nat → Option Obj
  size : Nat
  get_of_le : ∀ fd, size ≤ fd → get fd = none

namespace FdTable

def set (t : FdTable) (fd : Nat) (v : Option Obj) : FdTable where
  get := Function.update t.get fd v
  size := max t.size (fd + 1)
  get_of_le x hx := by
    rw [Function.update_noteq (by omega)]
    exact t.get_of_le x (by omega)

def ofList (l : List (Option Obj)) : FdTable where
  get fd := l.getD fd none
  size := l.length
  get_of_le _ h := List.getD_eq_default _ _ h

def lowestFree (t : FdTable) : Nat :=
  ((List.range t.size).find? fun fd => (t.get fd).isNone).getD t.size

def close (t : FdTable) (fd : Nat) : FdTable := t.set fd none

def dup2 (t : FdTable) (old new : Nat) : FdTable :=
  match t.get old with
  | some o => t.set new (some o)
  | none => t

@[simp] lemma get_set (t : FdTable) (fd : Nat) (v : Option Obj) (x : Nat) :
    (t.set fd v).get x = if x = fd then v else t.get x := by
  simp [set, Function.update_apply]

@[simp] lemma get_close (t : FdTable) (fd x : Nat) :
    (t.close fd).get x = if x = fd then none else t.get x :=
  get_set t fd none x

@[simp] lemma get_dup2 (t : FdTable) (old new x : Nat) :
    (t.dup2 old new).get x = if x = new ∧ t.get old ≠ none then t.get old else t.get x := by
  unfold dup2
  cases h : t.get old <;> simp [h]

@[simp] lemma get_ite (c : Prop) [Decidable c] (a b : FdTable) (x : Nat) :
    (if c then a else b).get x = if c then a.get x else b.get x := by
  split <;> rfl

lemma get_dup2_close {t : FdTable} {a : Nat} {v : Obj} (hv : t.get a = some v) (b x : Nat) :
    ((t.dup2 a b).close a).get x = if x = a then none else if x = b then some v else t.get x := by
  by_cases h : x = a <;> simp [hv, h]

lemma get_lowestFree (t : FdTable) : t.get t.lowestFree = none := by
  unfold lowestFree
  cases h : (List.range t.size).find? fun fd => (t.get fd).isNone with
  | none => exact t.get_of_le _ (Nat.le_refl _)
  | some fd => simpa using List.find?_some h

lemma three_le_lowestFree {t : FdTable} (h : ∀ fd < 3, t.get fd ≠ none) : 3 ≤ t.lowestFree := by
  by_contra hl
  exact h _ (by omega) t.get_lowestFree

lemma lowestFree_ne {t : FdTable} {fd : Nat} (h : t.get fd ≠ none) : t.lowestFree ≠ fd := by
  rintro rfl
  exact h t.get_lowestFree

end FdTable

inductive Errno where
  | eacces
  | eisdir
  | enoent
  | enotdir
  | efault
  | other (code : Nat)
  deriving DecidableEq, Repr

def Errno.code : Errno → Nat
  | eacces => 13
  | eisdir => 21
  | enoent => 2
  | enotdir => 20
  | efault => 14
  | other code => code

inductive Handler where
  | sigIgn
  | sigDfl
  | killChildrenOnSignal
  deriving DecidableEq, Repr

end Eda093.Lsh
