import Mathlib.Data.List.DropRight
import Mathlib.Data.List.GetD
import Eda093.Lsh.Main

/-! `stripwhite` on the `readline` buffer, its overlapping `strcpy` taken to copy front to back. -/

namespace Eda093.Lsh

def trim {α : Type} (p : α → Bool) (s : List α) : List α := (s.dropWhile p).rdropWhile p

namespace Buffer

def isspace (c : UInt8) : Bool :=
  c = 32 || c = 9 || c = 10 || c = 11 || c = 12 || c = 13

def skipSpaces (string : Nat → UInt8) : Nat → Nat → Option Nat
  | 0, _ => none
  | fuel + 1, i => if isspace (string i) then skipSpaces string fuel (i + 1) else some i

/-- Front to back within one buffer; C leaves the overlapping copy undefined. -/
def strcpy : Nat → Nat → Nat → (Nat → UInt8) → Option (Nat → UInt8)
  | 0, _, _, _ => none
  | fuel + 1, dst, src, string =>
    let c := string src
    let string := Function.update string dst c
    if c = 0 then some string else strcpy fuel (dst + 1) (src + 1) string

def strlen (string : Nat → UInt8) : Nat → Nat → Option Nat
  | 0, _ => none
  | fuel + 1, i => if string i = 0 then some i else strlen string fuel (i + 1)

def skipSpacesBack (string : Nat → UInt8) : Nat → Int → Option Int
  | 0, _ => none
  | fuel + 1, i =>
    if 0 < i && isspace (string i.toNat) then skipSpacesBack string fuel (i - 1) else some i

def stripwhite (fuel : Nat) (string : Nat → UInt8) : Option (Nat → UInt8) := do
  let i ← skipSpaces string fuel 0
  let string ← (if i ≠ 0 then strcpy fuel 0 i string else pure string)
  let len ← strlen string fuel 0
  let i ← skipSpacesBack string fuel ((len : Int) - 1)
  pure (Function.update string (i + 1).toNat 0)

def HoldsAt (string : Nat → UInt8) (i : Nat) (t : List UInt8) : Prop :=
  ∀ k ≤ t.length, string (i + k) = t.getD k 0

variable {string : Nat → UInt8} {i n : Nat} {c : UInt8} {t : List UInt8}

@[simp] lemma isspace_zero : isspace 0 = false := rfl

lemma HoldsAt.nul (h : HoldsAt string i t) : string (i + t.length) = 0 := by
  rw [h _ le_rfl, List.getD_eq_default _ _ le_rfl]

lemma HoldsAt.head (h : HoldsAt string i (c :: t)) : string i = c := h 0 (Nat.zero_le _)

lemma HoldsAt.tail (h : HoldsAt string i (c :: t)) : HoldsAt string (i + 1) t := fun k hk => by
  rw [Nat.add_assoc, Nat.add_comm 1 k, h (k + 1) (by simp [hk])]
  rfl

lemma HoldsAt.drop (h : HoldsAt string i t) {j : Nat} (hj : j ≤ t.length) :
    HoldsAt string (i + j) (t.drop j) :=
  fun k hk => by
    rw [Nat.add_assoc, h (j + k) (by rw [List.length_drop] at hk; omega)]
    simp

lemma strlen_eq (hz : 0 ∉ t) : ∀ {i} (fuel : Nat), HoldsAt string i t → t.length < fuel →
    strlen string fuel i = some (i + t.length) := by
  induction t with
  | nil =>
    intro i fuel h hf
    obtain ⟨fuel, rfl⟩ : ∃ f, fuel = f + 1 := ⟨fuel - 1, by rw [List.length_nil] at hf; omega⟩
    have h0 : string i = 0 := h.nul
    simp [strlen, h0]
  | cons c t ih =>
    intro i fuel h hf
    obtain ⟨fuel, rfl⟩ : ∃ f, fuel = f + 1 := ⟨fuel - 1, by rw [List.length_cons] at hf; omega⟩
    have hc : c ≠ 0 := fun e => hz (e ▸ List.mem_cons_self _ _)
    rw [strlen, h.head, if_neg hc, ih (fun e => hz (List.mem_cons_of_mem _ e)) fuel h.tail
      (by rw [List.length_cons] at hf; omega)]
    simp [Nat.add_assoc, Nat.add_comm 1]

lemma skipSpaces_spec (hn : isspace (string n) = false) :
    ∀ fuel i, i ≤ n → n - i < fuel →
      ∃ j, i ≤ j ∧ j ≤ n ∧ skipSpaces string fuel i = some j ∧ isspace (string j) = false ∧
        ∀ k, i ≤ k → k < j → isspace (string k) = true
  | 0, _, _, hf => absurd hf (Nat.not_lt_zero _)
  | fuel + 1, i, hi, hf => by
    cases hs : isspace (string i)
    · exact ⟨i, le_rfl, hi, by simp [skipSpaces, hs], hs, fun k hk hki => absurd hki (by omega)⟩
    · have hin : i ≠ n := fun e => by simp [e, hn] at hs
      obtain ⟨j, hij, hjn, hrun, hj, hspaces⟩ := skipSpaces_spec hn fuel (i + 1) (by omega) (by omega)
      refine ⟨j, by omega, hjn, by simp [skipSpaces, hs, hrun], hj, fun k hik hkj => ?_⟩
      rcases Nat.eq_or_lt_of_le hik with rfl | hik
      exacts [hs, hspaces k hik hkj]

lemma strcpy_spec (hz : 0 ∉ t) : ∀ (fuel : Nat) {dst src string}, dst ≤ src → HoldsAt string src t →
    t.length < fuel → ∃ string', strcpy fuel dst src string = some string' ∧
      HoldsAt string' dst t ∧ ∀ k, k < dst ∨ dst + t.length < k → string' k = string k := by
  induction t with
  | nil =>
    intro fuel dst src string _ h hf
    obtain ⟨fuel, rfl⟩ : ∃ f, fuel = f + 1 := ⟨fuel - 1, by rw [List.length_nil] at hf; omega⟩
    have h0 : string src = 0 := h.nul
    refine ⟨Function.update string dst 0, by simp [strcpy, h0], fun k hk => ?_, fun k hk => ?_⟩
    · obtain rfl : k = 0 := by simpa using hk
      simp [h0]
    · rw [Function.update_noteq (show k ≠ dst by omega)]
  | cons c t ih =>
    intro fuel dst src string hds h hf
    obtain ⟨fuel, rfl⟩ : ∃ f, fuel = f + 1 := ⟨fuel - 1, by rw [List.length_cons] at hf; omega⟩
    have hc : c ≠ 0 := fun e => hz (e ▸ List.mem_cons_self _ _)
    have hread : HoldsAt (Function.update string dst c) (src + 1) t := fun k hk => by
      rw [Function.update_noteq (show src + 1 + k ≠ dst by omega), h.tail k hk]
    obtain ⟨string', hrun, hholds, hframe⟩ :=
      ih (fun e => hz (List.mem_cons_of_mem _ e)) fuel (Nat.succ_le_succ hds) hread
        (by rw [List.length_cons] at hf; omega)
    refine ⟨string', by simp [strcpy, h.head, hc, hrun], fun k hk => ?_, fun k hk => ?_⟩
    · rcases k with _ | k
      · rw [Nat.add_zero, hframe dst (Or.inl (Nat.lt_succ_self _))]
        simp
      · rw [show dst + (k + 1) = dst + 1 + k by omega, hholds k (by simpa using hk)]
        rfl
    · rw [hframe k (by rw [List.length_cons] at hk; omega), Function.update_noteq (show k ≠ dst by omega)]

lemma skipSpacesBack_spec : ∀ (i fuel : Nat), i < fuel →
    ∃ r, r ≤ i ∧ skipSpacesBack string fuel i = some (r : Int) ∧
      (r = 0 ∨ isspace (string r) = false) ∧ ∀ k, r < k → k ≤ i → isspace (string k) = true
  | 0, fuel + 1, _ => ⟨0, le_rfl, by simp [skipSpacesBack], Or.inl rfl, fun k hk hk' => by omega⟩
  | i + 1, fuel + 1, hf => by
    cases hs : isspace (string (i + 1))
    · exact ⟨i + 1, le_rfl, by simp [skipSpacesBack, hs], Or.inr hs, fun k hk hk' => by omega⟩
    · obtain ⟨r, hri, hrun, hr, hspaces⟩ := skipSpacesBack_spec i fuel (by omega)
      refine ⟨r, by omega, ?_, hr, fun k hrk hki => ?_⟩
      · rw [skipSpacesBack, if_pos (by simp [hs])]
        simpa using hrun
      · rcases Nat.eq_or_lt_of_le hki with rfl | hki
        exacts [hs, hspaces k hrk (by omega)]

lemma skipSpacesBack_neg_one {fuel : Nat} (hf : 0 < fuel) : skipSpacesBack string fuel (-1) = some (-1) := by
  obtain ⟨fuel, rfl⟩ : ∃ f, fuel = f + 1 := ⟨fuel - 1, by omega⟩
  simp [skipSpacesBack]

end Buffer

section Lists

variable {α : Type} {p : α → Bool} {d : α}

lemma dropWhile_eq_drop (hd : p d = false) : ∀ {s : List α} {j : Nat},
    (∀ k < j, p (s.getD k d) = true) → p (s.getD j d) = false → s.dropWhile p = s.drop j
  | [], _, _, _ => by simp
  | c :: s, 0, _, hj => List.dropWhile_cons_of_neg (by simpa using hj)
  | c :: s, j + 1, hs, hj => by
    rw [List.dropWhile_cons_of_pos (by simpa using hs 0 (Nat.succ_pos j)), List.drop_succ_cons]
    exact dropWhile_eq_drop hd (fun k hk => by simpa using hs (k + 1) (by omega)) (by simpa using hj)

lemma rdropWhile_append_of_forall {A B : List α} (h : ∀ x ∈ B, p x = true) :
    (A ++ B).rdropWhile p = A.rdropWhile p := by
  simp only [List.rdropWhile, List.reverse_append,
    List.dropWhile_append_of_pos (fun x hx => h x (List.mem_reverse.mp hx))]

lemma rdropWhile_eq_take {u : List α} {r : Nat} (hr : r < u.length) (hlast : p (u.getD r d) = false)
    (hspaces : ∀ k, r < k → k < u.length → p (u.getD k d) = true) :
    u.rdropWhile p = u.take (r + 1) := by
  have hdrop : ∀ x ∈ u.drop (r + 1), p x = true := fun x hx => by
    obtain ⟨k, hk, rfl⟩ := List.mem_iff_getElem.mp hx
    have := hspaces (r + 1 + k) (by omega) (by rw [List.length_drop] at hk; omega)
    rwa [List.getD_eq_getElem _ _ (by rw [List.length_drop] at hk; omega), ← List.getElem_drop] at this
  conv_lhs => rw [← List.take_append_drop (r + 1) u]
  rw [rdropWhile_append_of_forall hdrop, List.take_succ, List.getElem?_eq_getElem hr,
    Option.toList_some, List.rdropWhile_concat_neg p _ _ (by rw [List.getD_eq_getElem _ _ hr] at hlast; simp [hlast])]

lemma dropWhile_map_of_forall {β : Type} {f : α → β} {q : β → Bool} :
    ∀ {s : List α}, (∀ x ∈ s, q (f x) = p x) → (s.map f).dropWhile q = (s.dropWhile p).map f
  | [], _ => rfl
  | x :: s, h => by
    rw [List.map_cons, List.dropWhile_cons, List.dropWhile_cons, h x (List.mem_cons_self _ _)]
    split
    · exact dropWhile_map_of_forall fun y hy => h y (List.mem_cons_of_mem _ hy)
    · rfl

lemma trim_map_of_forall {β : Type} {f : α → β} {q : β → Bool} {s : List α}
    (h : ∀ x ∈ s, q (f x) = p x) : trim q (s.map f) = (trim p s).map f := by
  have hd := dropWhile_map_of_forall h
  have hr : ∀ x ∈ (s.dropWhile p).reverse, q (f x) = p x := fun x hx =>
    h x ((List.dropWhile_suffix p).subset (List.mem_reverse.mp hx))
  simp only [trim, List.rdropWhile, hd, ← List.map_reverse, dropWhile_map_of_forall hr]

end Lists

section Main

lemma drop_leadingSpaces : ∀ line : List Char, line.drop (leadingSpaces line) = line.dropWhile isspace
  | [] => rfl
  | c :: line => by
    by_cases hc : isspace c
    · rw [leadingSpaces, if_pos hc, List.drop_succ_cons, drop_leadingSpaces line,
        List.dropWhile_cons_of_pos hc]
    · rw [leadingSpaces, if_neg hc, List.drop_zero, List.dropWhile_cons_of_neg hc]

lemma lastKept_spec (s : List Char) : ∀ i, lastKept s i ≤ i ∧
    (lastKept s i = 0 ∨ isspace (s.getD (lastKept s i) ' ') = false) ∧
      ∀ k, lastKept s i < k → k ≤ i → isspace (s.getD k ' ') = true
  | 0 => ⟨le_rfl, Or.inl rfl, fun k hk hk' => by omega⟩
  | i + 1 => by
    cases hs : isspace (s.getD (i + 1) ' ')
    · rw [lastKept, if_neg (ne_true_of_eq_false hs)]
      exact ⟨le_rfl, Or.inr hs, fun k hk hk' => by omega⟩
    · obtain ⟨hr, hlast, htrail⟩ := lastKept_spec s i
      rw [lastKept, if_pos hs]
      refine ⟨by omega, hlast, fun k hk hki => ?_⟩
      rcases Nat.eq_or_lt_of_le hki with rfl | hki
      exacts [hs, htrail k hk (by omega)]

theorem stripwhite_eq_trim (line : List Char) : stripwhite line = trim isspace line := by
  simp only [stripwhite, trim, drop_leadingSpaces]
  rcases hu : line.dropWhile isspace with _ | ⟨c, u⟩
  · rfl
  · have hc : isspace c = false := by
      have := List.dropWhile_get_zero_not isspace line (by simp [hu])
      simpa [hu] using this
    obtain ⟨hr, hlast, htrail⟩ := lastKept_spec (c :: u) u.length
    rw [List.length_cons, Nat.add_sub_cancel]
    refine (rdropWhile_eq_take (d := ' ') (by rw [List.length_cons]; omega) ?_ fun k hk hk' => ?_).symm
    · rcases hlast with h0 | hlast
      · rw [h0]; exact hc
      · exact hlast
    · exact htrail k hk (by rw [List.length_cons] at hk'; omega)

end Main

namespace Buffer

lemma stripwhite_eq {fuel j len : Nat} {back : Int} {string₁ : Nat → UInt8}
    (h₁ : skipSpaces string fuel 0 = some j)
    (h₂ : (if j ≠ 0 then strcpy fuel 0 j string else pure string) = some string₁)
    (h₃ : strlen string₁ fuel 0 = some len) (h₄ : skipSpacesBack string₁ fuel ((len : Int) - 1) = some back) :
    stripwhite fuel string = some (Function.update string₁ (back + 1).toNat 0) := by
  unfold stripwhite
  rw [h₁, Option.bind_eq_bind, Option.some_bind, h₂, Option.bind_eq_bind, Option.some_bind, h₃,
    Option.bind_eq_bind, Option.some_bind, h₄]
  rfl

lemma stripwhite_front {s : List UInt8} {fuel : Nat} (hs : 0 ∉ s) (h : HoldsAt string 0 s)
    (hfuel : s.length < fuel) : ∃ j string₁, skipSpaces string fuel 0 = some j ∧
      (if j ≠ 0 then strcpy fuel 0 j string else pure string) = some string₁ ∧
      HoldsAt string₁ 0 (s.dropWhile isspace) ∧ ∀ k, s.length < k → string₁ k = string k := by
  have hget : ∀ k ≤ s.length, string k = s.getD k 0 := fun k hk => by simpa using h k hk
  obtain ⟨j, -, hjn, hskip, hj, hspaces⟩ :=
    skipSpaces_spec (by simpa using congrArg isspace h.nul) fuel 0 (Nat.zero_le _) (by omega)
  have hdrop : s.dropWhile isspace = s.drop j :=
    dropWhile_eq_drop isspace_zero (fun k hk => hget k (by omega) ▸ hspaces k (Nat.zero_le _) hk)
      (hget j hjn ▸ hj)
  rw [hdrop]
  by_cases hj0 : j = 0
  · subst hj0
    exact ⟨0, string, hskip, by simp, by simpa using h, fun _ _ => rfl⟩
  · have hz : 0 ∉ s.drop j := fun e => hs (List.mem_of_mem_drop e)
    obtain ⟨string₁, hc, hh, hf⟩ := strcpy_spec hz fuel (Nat.zero_le j) (by simpa using h.drop hjn) (by rw [List.length_drop]; omega)
    exact ⟨j, string₁, hskip, by simp [hj0, hc], hh,
      fun k hk => hf k (Or.inr (by rw [List.length_drop]; omega))⟩

lemma stripwhite_back {u : List UInt8} (fuel : Nat) (hz : 0 ∉ u) (hu : HoldsAt string 0 u)
    (hhead : ∀ c ∈ u.head?, isspace c = false) (hfuel : u.length < fuel) :
    ∃ back : Int, strlen string fuel 0 = some u.length ∧
      skipSpacesBack string fuel ((u.length : Int) - 1) = some back ∧
      HoldsAt (Function.update string (back + 1).toNat 0) 0 (u.rdropWhile isspace) ∧
      (back + 1).toNat ≤ u.length := by
  have hlen := strlen_eq hz fuel hu hfuel
  rw [Nat.zero_add] at hlen
  rcases u with _ | ⟨c, u⟩
  · refine ⟨-1, hlen, skipSpacesBack_neg_one (by omega), fun k hk => ?_, le_rfl⟩
    obtain rfl : k = 0 := by simpa using hk
    simp
  obtain ⟨r, hr, hback, hlast, htrail⟩ :=
    @skipSpacesBack_spec string u.length fuel (by rw [List.length_cons] at hfuel; omega)
  have hkept : (c :: u).rdropWhile isspace = (c :: u).take (r + 1) := by
    refine rdropWhile_eq_take (d := 0) (by rw [List.length_cons]; omega) ?_ fun k hrk hk => ?_
    · rw [← hu r (by rw [List.length_cons]; omega), Nat.zero_add]
      rcases hlast with rfl | hlast
      · rw [hu.head]; exact hhead c rfl
      · exact hlast
    · rw [← hu k hk.le, Nat.zero_add]
      exact htrail k hrk (by rw [List.length_cons] at hk; omega)
  have hlt : r + 1 ≤ (c :: u).length := by rw [List.length_cons]; omega
  refine ⟨r, hlen, by simpa using hback, fun k hk => ?_, by simpa using hlt⟩
  rw [hkept, List.length_take, Nat.min_eq_left hlt] at hk
  rw [hkept, show ((r : Int) + 1).toNat = r + 1 by omega]
  rcases Nat.eq_or_lt_of_le hk with rfl | hk
  · rw [Nat.zero_add, Function.update_same, List.getD_eq_default _ _ (by rw [List.length_take]; omega)]
  · rw [Function.update_noteq (show 0 + k ≠ r + 1 by omega), hu k (by omega),
      List.getD_eq_getElem _ _ (by omega), List.getD_eq_getElem _ _ (by rw [List.length_take]; omega),
      List.getElem_take]

lemma stripwhite_spec (s : List UInt8) (hs : 0 ∉ s) (string : Nat → UInt8)
    (h : HoldsAt string 0 s) (fuel : Nat) (hfuel : s.length < fuel) :
    ∃ string', stripwhite fuel string = some string' ∧ HoldsAt string' 0 (trim isspace s) ∧
      ∀ k, s.length < k → string' k = string k := by
  obtain ⟨j, string₁, hskip, hcopy, hu, hframe⟩ := stripwhite_front hs h hfuel
  have hshorter : (s.dropWhile isspace).length ≤ s.length := (List.dropWhile_suffix _).length_le
  obtain ⟨back, hlen, hback, hholds, hwrite⟩ :=
    stripwhite_back fuel (fun e => hs ((List.dropWhile_suffix _).subset e)) hu
      (fun c hc => by have h₀ := List.head?_dropWhile_not isspace s; rwa [Option.mem_def.mp hc] at h₀)
      (by omega)
  refine ⟨_, stripwhite_eq hskip hcopy hlen hback, hholds, fun k hk => ?_⟩
  rw [Function.update_noteq (show k ≠ (back + 1).toNat by omega), hframe k hk]

theorem stripwhite_leaves_trim (s : List UInt8) (hs : 0 ∉ s) (string : Nat → UInt8)
    (h : HoldsAt string 0 s) (fuel : Nat) (hfuel : s.length < fuel) :
    ∃ string', stripwhite fuel string = some string' ∧ HoldsAt string' 0 (trim isspace s) ∧
      ∀ k, s.length < k → string' k = string k :=
  stripwhite_spec s hs string h fuel hfuel

def byte (c : Char) : UInt8 := c.toNat.toUInt8

lemma char_eq_iff {c d : Char} : c = d ↔ c.toNat = d.toNat :=
  ⟨congrArg _, fun h => Char.ext (UInt32.eq_of_val_eq (Fin.ext h))⟩

lemma byte_eq_iff {c : Char} (hc : c.toNat < 256) {n : Nat} (hn : n < 256) :
    byte c = n.toUInt8 ↔ c.toNat = n := by
  refine ⟨fun h => ?_, fun h => by simp [byte, h]⟩
  have := congrArg UInt8.toNat h
  simp [byte, UInt8.toNat, Nat.toUInt8, UInt8.ofNat, Fin.ofNat] at this
  omega

lemma isspace_byte {c : Char} (hc : c.toNat < 256) : isspace (byte c) = Lsh.isspace c := by
  have e : ∀ n < 256, byte c = (OfNat.ofNat n : UInt8) ↔ c.toNat = n := fun n => byte_eq_iff hc
  simp only [isspace, Lsh.isspace, char_eq_iff, e 32 (by decide), e 9 (by decide), e 10 (by decide),
    e 11 (by decide), e 12 (by decide), e 13 (by decide)]
  rfl

theorem stripwhite_matches_list (line : List Char) (hb : ∀ c ∈ line, c.toNat < 256)
    (hs : 0 ∉ line.map byte) (string : Nat → UInt8) (h : HoldsAt string 0 (line.map byte))
    (fuel : Nat) (hfuel : line.length < fuel) :
    ∃ string', stripwhite fuel string = some string' ∧
      HoldsAt string' 0 ((Lsh.stripwhite line).map byte) := by
  obtain ⟨string', hrun, hholds, -⟩ :=
    stripwhite_spec (line.map byte) hs string h fuel (by rwa [List.length_map])
  rw [trim_map_of_forall fun c hc => isspace_byte (hb c hc), ← stripwhite_eq_trim] at hholds
  exact ⟨string', hrun, hholds⟩

def lsLine (k : Nat) : UInt8 := [32, 108, 115, 32].getD k 0

theorem stripwhite_ls_line :
    ∃ string', stripwhite 5 lsLine = some string' ∧
      HoldsAt string' 0 (trim isspace [32, 108, 115, 32]) ∧ ∀ k, 4 < k → string' k = lsLine k :=
  stripwhite_leaves_trim [32, 108, 115, 32] (by decide) lsLine (fun k _ => by simp [lsLine]) 5
    (by decide)

theorem ls_line_matches_list :
    ∃ string', stripwhite 5 lsLine = some string' ∧
      HoldsAt string' 0 ((Lsh.stripwhite " ls ".toList).map byte) :=
  stripwhite_matches_list " ls ".toList (by decide) (by decide) lsLine
    (by rw [show " ls ".toList.map byte = [32, 108, 115, 32] by decide]; exact fun k _ => by simp [lsLine])
    5 (by decide)

end Buffer

end Eda093.Lsh
