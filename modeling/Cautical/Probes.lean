-- The literals that `global_preprocess` probes: the touched literals of the inner
-- loop and the sorted variables of the outer one. The touched literals are
-- exact and leave bit 1 of `marks` clear, as long as no clause repeats a
-- literal; the sorted order is never probed from its first entry.
import Cautical.LeastConditionalPart
import Cautical.Preprocess

namespace cautical
namespace Internal

/-! ## The touched literals -/

/-- A clause that `get_touched_literals` takes from: a false literal and no true one. -/
def TouchedClause (s : Internal) (c : List Int) : Prop :=
  (∃ y ∈ c, s.val y < 0) ∧ ∀ y ∈ c, s.val y ≤ 0

/-- The open literals of a clause that are not `FIXED` and whose variable has bit 1 clear. -/
def keptLits (s : Internal) (m : Nat → Bool) (c : List Int) : List Int :=
  c.filter fun l => s.val l == 0 && !m l.natAbs && !(s.flags l == .fixed)

/-- The loop over one clause: nothing when a literal is true, and otherwise whether one is
false, with the kept literals. -/
theorem touchedLoop_eq (s : Internal) (m : Nat → Bool) (c : List Int) (t : Bool)
    (vars : List Int) : touchedLoop s m c t vars =
      if c.any (0 < s.val ·) then none else some (t || c.any (s.val · < 0), vars ++ keptLits s m c) := by
  induction c generalizing t vars with
  | nil => simp [touchedLoop, keptLits]
  | cons l c ih =>
    rcases val_cases (s := s) l with h | h | h
    · simp [touchedLoop, h]
    · simp [touchedLoop, keptLits, ih, h, List.filter_cons]
    · simp [touchedLoop, keptLits, ih, h, List.filter_cons]
      split_ifs <;> rfl

theorem foldl_update_apply (b : Bool) (vars : List Int) (m : Nat → Bool) (v : Nat) :
    (vars.foldl (fun m l => Function.update m l.natAbs b) m) v =
      if ∃ x ∈ vars, x.natAbs = v then b else m v := by
  induction vars generalizing m with
  | nil => simp
  | cons x xs ih =>
    rw [List.foldl_cons, ih]
    by_cases hx : x.natAbs = v
    · subst hx; simp
    · simp [Function.update_noteq (Ne.symm hx), hx]

/-- What the scan of `get_touched_literals` has after the clauses `done`, from bits that
were clear: the literals `acc` and the bits `m`. -/
structure TouchedInv (s : Internal) (done : List Clause) (acc : List Int) (m : Nat → Bool) :
    Prop where
  nodup : acc.Nodup
  sound : ∀ x ∈ acc, s.val x = 0 ∧ s.fixed x = false ∧
    ∃ c ∈ done, x ∈ c.lits ∧ TouchedClause s c.lits
  marks : ∀ v, m v = true ↔ ∃ x ∈ acc, x.natAbs = v
  complete : ∀ c ∈ done, TouchedClause s c.lits → ∀ x ∈ c.lits, s.val x = 0 →
    s.fixed x = false → ∃ y ∈ acc, y.natAbs = x.natAbs

section touched

variable {s : Internal} {done : List Clause} {acc : List Int} {m : Nat → Bool}

/-- A clause the scan passes over adds nothing, and nothing is owed for it. -/
theorem TouchedInv.skip (h : TouchedInv s done acc m) {c : Clause}
    (hc : ¬ TouchedClause s c.lits) : TouchedInv s (done ++ [c]) acc m where
  nodup := h.nodup
  sound x hx := by
    obtain ⟨h1, h2, d, hd, hxd⟩ := h.sound x hx
    exact ⟨h1, h2, d, List.mem_append_left _ hd, hxd⟩
  marks := h.marks
  complete d hd := by
    rcases List.mem_append.1 hd with hd | hd
    · exact h.complete d hd
    · rw [List.mem_singleton.1 hd]; exact fun ht => absurd ht hc

/-- A touched clause adds its kept literals and sets their bits. -/
theorem TouchedInv.take (h : TouchedInv s done acc m) {c : Clause} (hnd : c.lits.Nodup)
    (hc : TouchedClause s c.lits) :
    TouchedInv s (done ++ [c]) (acc ++ keptLits s m c.lits)
      ((keptLits s m c.lits).foldl (fun m l => Function.update m l.natAbs true) m) where
  nodup := by
    refine List.nodup_append.2 ⟨h.nodup, hnd.filter _, fun x hx hk => ?_⟩
    have hm := (List.mem_filter.1 hk).2
    simp only [Bool.and_eq_true, Bool.not_eq_true'] at hm
    exact absurd ((h.marks _).2 ⟨x, hx, rfl⟩) (by simp [hm.1.2])
  sound x hx := by
    rcases List.mem_append.1 hx with hx | hx
    · obtain ⟨h1, h2, d, hd, hxd⟩ := h.sound x hx
      exact ⟨h1, h2, d, List.mem_append_left _ hd, hxd⟩
    · obtain ⟨hxc, hm⟩ := List.mem_filter.1 hx
      simp only [Bool.and_eq_true, Bool.not_eq_true', beq_iff_eq] at hm
      exact ⟨hm.1.1, by simpa [fixed] using hm.2, c, by simp, hxc, hc⟩
  marks v := by
    rw [foldl_update_apply, apply_ite (· = true), h.marks]
    simp only [List.mem_append, or_and_right, exists_or]
    split_ifs with hv <;> simp [hv]
  complete d hd hdt x hx hv hf := by
    rcases List.mem_append.1 hd with hd | hd
    · obtain ⟨y, hy, hyx⟩ := h.complete d hd hdt x hx hv hf
      exact ⟨y, List.mem_append_left _ hy, hyx⟩
    · rw [List.mem_singleton.1 hd] at hx
      cases hmx : m x.natAbs
      · refine ⟨x, List.mem_append_right _ (List.mem_filter.2 ⟨hx, ?_⟩), rfl⟩
        simpa [hv, hmx, fixed] using hf
      · obtain ⟨y, hy, hyx⟩ := (h.marks _).1 hmx
        exact ⟨y, List.mem_append_left _ hy, hyx⟩

/-- The scan over the clauses, one clause at a time. -/
theorem TouchedInv.foldl (cs : List Clause) (hnd : ∀ c ∈ cs, c.lits.Nodup)
    (p : List Int × (Nat → Bool)) (h : TouchedInv s done p.1 p.2) :
    let r := cs.foldl (fun (p : List Int × (Nat → Bool)) c =>
      match touchedLoop s p.2 c.lits false [] with
      | some (true, vars) =>
        (p.1 ++ vars, vars.foldl (fun m l => Function.update m l.natAbs true) p.2)
      | _ => p) p
    TouchedInv s (done ++ cs) r.1 r.2 := by
  induction cs generalizing done p with
  | nil => simpa using h
  | cons c cs ih =>
    rw [List.foldl_cons, ← List.singleton_append, ← List.append_assoc]
    refine ih (fun c' hc' => hnd c' (List.mem_cons_of_mem _ hc')) _ ?_
    rw [touchedLoop_eq]
    by_cases ht : TouchedClause s c.lits
    · have hno : c.lits.any (0 < s.val ·) = false := by
        simpa using fun y hy => ht.2 y hy
      have hyes : c.lits.any (s.val · < 0) = true := by simpa using ht.1
      simp only [hno, hyes, Bool.false_or, if_false, List.nil_append]
      exact h.take (hnd c (List.mem_cons_self _ _)) ht
    · have hskip := h.skip ht
      by_cases hany : c.lits.any (0 < s.val ·) = true
      · rw [if_pos hany]; exact hskip
      · have hfalse : c.lits.any (s.val · < 0) = false := by
          by_contra hf; exact ht ⟨by simpa using hf, by simpa using hany⟩
        rw [if_neg hany, hfalse]; exact hskip

end touched

/-- With `globaltouch` on, clauses that repeat no literal and bit 1 of `marks` clear on
entry, `get_touched_literals` returns a list without repeats of open literals that are not
`FIXED`, each in a touched clause; every variable with such an occurrence is in it; and
bit 1 is clear again on return. -/
theorem getTouchedLiterals_exact (s : Internal) (htouch : s.opts.globaltouch = true)
    (hnd : ∀ c ∈ s.clauses, c.lits.Nodup) (hclear : ∀ v, s.marks1 v = false) :
    s.getTouchedLiterals.2.Nodup ∧
      (∀ x ∈ s.getTouchedLiterals.2, s.val x = 0 ∧ s.fixed x = false ∧
        ∃ c ∈ s.clauses, x ∈ c.lits ∧ TouchedClause s c.lits) ∧
      (∀ c ∈ s.clauses, TouchedClause s c.lits → ∀ x ∈ c.lits, s.val x = 0 →
        s.fixed x = false → ∃ y ∈ s.getTouchedLiterals.2, y.natAbs = x.natAbs) ∧
      ∀ v, s.getTouchedLiterals.1.marks1 v = false := by
  have h := TouchedInv.foldl s.clauses hnd ([], s.marks1)
    (show TouchedInv s [] [] s.marks1 from ⟨List.nodup_nil, by simp, by simp [hclear], by simp⟩)
  simp only [List.nil_append] at h
  simp only [getTouchedLiterals, htouch, Bool.not_true, Bool.false_eq_true, if_false]
  refine ⟨h.nodup, h.sound, h.complete, fun v => ?_⟩
  rw [foldl_update_apply]
  split_ifs with hv
  · rfl
  · exact Bool.eq_false_iff.2 fun hm => hv ((h.marks v).1 hm)

theorem getTouchedLiterals_exact_tautologyState :
    tautologyState.opts.globaltouch = true ∧ (∀ c ∈ tautologyState.clauses, c.lits.Nodup) ∧
      (∀ v, tautologyState.marks1 v = false) ∧ tautologyState.getTouchedLiterals.2.Nodup ∧
      (∀ x ∈ tautologyState.getTouchedLiterals.2, tautologyState.val x = 0 ∧
        tautologyState.fixed x = false ∧ ∃ c ∈ tautologyState.clauses, x ∈ c.lits ∧
          TouchedClause tautologyState c.lits) ∧
      (∀ c ∈ tautologyState.clauses, TouchedClause tautologyState c.lits → ∀ x ∈ c.lits,
        tautologyState.val x = 0 → tautologyState.fixed x = false →
          ∃ y ∈ tautologyState.getTouchedLiterals.2, y.natAbs = x.natAbs) ∧
      ∀ v, tautologyState.getTouchedLiterals.1.marks1 v = false :=
  ⟨rfl, by decide, fun _ => rfl, getTouchedLiterals_exact _ rfl (by decide) fun _ => rfl⟩

/-- A clause that repeats an open literal: with `x1` true, `(-x1 ∨ x2 ∨ x2)` is touched and
the scan keeps `x2` twice, since the bit of `x2` is set only after the clause. -/
theorem getTouchedLiterals_repeats_literal :
    (atTrail plainOpts 2 [[-1, 2, 2]] [⟨1, 1, true⟩] 1 []).getTouchedLiterals.2 = [2, 2] := by
  decide

/-! ## The probe order of `globalisort` -/

theorem bumpCount_keys (v : Nat) (l : List (Nat × Nat)) :
    (bumpCount v l).map Prod.fst = l.map Prod.fst := by
  induction l with
  | nil => rfl
  | cons p l ih => unfold bumpCount; split <;> simp_all

/-- The count loop of `get_sorted_literals` keeps the list of variables as it was. -/
theorem countLoop_keys (s : Internal) (cs : List Clause) (counts : List (Nat × Nat)) :
    (cs.foldl (fun cs c => if c.garbage then cs else c.lits.foldl (fun cs l =>
      if s.status l.natAbs == .active then bumpCount l.natAbs cs else cs) cs) counts).map
        Prod.fst = counts.map Prod.fst := by
  have inner : ∀ (ls : List Int) (counts : List (Nat × Nat)), (ls.foldl (fun cs l =>
      if s.status l.natAbs == .active then bumpCount l.natAbs cs else cs) counts).map
        Prod.fst = counts.map Prod.fst := by
    intro ls; induction ls with
    | nil => intro _; rfl
    | cons l ls ih => intro counts; rw [List.foldl_cons, ih]; split <;> simp [bumpCount_keys]
  induction cs generalizing counts with
  | nil => rfl
  | cons c cs ih =>
    rw [List.foldl_cons, ih]
    split
    · rfl
    · exact inner _ _

/-- `get_sorted_literals` returns each `ACTIVE` variable exactly once. -/
theorem getSortedLiterals_perm (s : Internal) :
    s.getSortedLiterals.Perm ((((List.range s.maxVar).map (· + 1)).filter
      (s.status · == .active)).map fun v : Nat => (v : Int)) := by
  refine ((List.perm_insertionSort _ _).map _).trans ?_
  have h := congrArg (List.map fun v : Nat => (v : Int)) (countLoop_keys s s.clauses
    ((((List.range s.maxVar).map (· + 1)).filter (s.status · == .active)).map (·, 0)))
  simp only [List.map_map, Function.comp_def] at h
  rw [h]

theorem getSortedLiterals_nodup (s : Internal) : s.getSortedLiterals.Nodup :=
  (getSortedLiterals_perm s).nodup_iff.2 <| (((List.nodup_range _).map
    fun _ _ => Nat.succ.inj).filter _).map fun _ _ => Int.ofNat_inj.1

/-- The number of occurrences of the variable `v`, in either sign, in the clauses that are
not garbage. -/
def occurrences (s : Internal) (v : Nat) : Nat :=
  ((s.clauses.filter (!·.garbage)).map fun c => c.lits.countP (·.natAbs == v)).sum

theorem bumpCount_map (var : Nat) (g : Nat → Nat) (ks : List Nat) (hks : ks.Nodup) :
    bumpCount var (ks.map fun v => (v, g v)) =
      ks.map fun v => (v, g v + if v = var then 1 else 0) := by
  induction ks with
  | nil => rfl
  | cons k ks ih =>
    obtain ⟨hk, hks⟩ := List.nodup_cons.1 hks
    simp only [List.map_cons, bumpCount]
    by_cases h : k = var
    · subst h
      simp only [if_true, List.cons.injEq, true_and]
      refine List.map_congr_left fun v hv => ?_
      simp [show v ≠ k from fun e => hk (e ▸ hv)]
    · simp [h, ih hks]

theorem countLits_map (s : Internal) (ks : List Nat) (hks : ks.Nodup) (ls : List Int) (g : Nat → Nat) :
    ls.foldl (fun cs l => if s.status l.natAbs == .active then bumpCount l.natAbs cs else cs)
        (ks.map fun v => (v, g v)) =
      ks.map fun v => (v, g v + ls.countP fun l => s.status l.natAbs == .active && l.natAbs == v) := by
  induction ls generalizing g with
  | nil => simp
  | cons l ls ih =>
    rw [List.foldl_cons]
    split
    · next ha =>
      rw [bumpCount_map _ _ _ hks, ih]
      refine List.map_congr_left fun v _ => ?_
      by_cases hv : l.natAbs = v
      · subst hv
        simp [List.countP_cons, ha]
        omega
      · simp [List.countP_cons, ha, hv, Ne.symm hv]
    · next ha =>
      rw [ih]
      refine List.map_congr_left fun v _ => ?_
      simp [List.countP_cons, ha]
theorem countClauses_map (s : Internal) (ks : List Nat) (hks : ks.Nodup) (cs : List Clause)
    (g : Nat → Nat) :
    cs.foldl (fun acc c => if c.garbage then acc else c.lits.foldl (fun acc l =>
        if s.status l.natAbs == .active then bumpCount l.natAbs acc else acc) acc)
      (ks.map fun v => (v, g v)) =
    ks.map fun v => (v, g v + ((cs.filter (!·.garbage)).map fun c =>
      c.lits.countP fun l => s.status l.natAbs == .active && l.natAbs == v).sum) := by
  induction cs generalizing g with
  | nil => simp
  | cons c cs ih =>
    rw [List.foldl_cons]
    by_cases hg : c.garbage = true
    · rw [if_pos hg, ih]; simp [hg]
    · rw [if_neg hg, countLits_map s ks hks, ih]
      refine List.map_congr_left fun v _ => ?_
      simp [hg]
      omega

theorem sorted_counts (occ : Nat → Nat) (counts : List (Nat × Nat))
    (h : ∀ p ∈ counts, p.2 = occ p.1) :
    ((counts.insertionSort fun a b => b.2 ≤ a.2).map fun p => (p.1 : Int)).Sorted
      fun a b => occ b.natAbs ≤ occ a.natAbs := by
  haveI : IsTotal (Nat × Nat) (fun a b => b.2 ≤ a.2) := ⟨fun a b => le_total b.2 a.2⟩
  haveI : IsTrans (Nat × Nat) (fun a b => b.2 ≤ a.2) := ⟨fun _ _ _ h1 h2 => le_trans h2 h1⟩
  have hs := List.sorted_insertionSort (fun a b : Nat × Nat => b.2 ≤ a.2) counts
  have hsub := (List.perm_insertionSort (fun a b : Nat × Nat => b.2 ≤ a.2) counts).subset
  unfold List.Sorted at hs ⊢
  rw [List.pairwise_map]
  refine hs.imp_of_mem fun {a b} ha hb hab => ?_
  simpa [h a (hsub ha), h b (hsub hb)] using hab

/-- `get_sorted_literals` lists every `ACTIVE` variable of `1 .. max_var` exactly once, by
non-increasing number of occurrences in the clauses that are not garbage. -/
theorem getSortedLiterals_spec (s : Internal) :
    s.getSortedLiterals.Perm ((((List.range s.maxVar).map (· + 1)).filter
      (s.status · == .active)).map fun v : Nat => (v : Int)) ∧
    s.getSortedLiterals.Sorted fun a b => s.occurrences b.natAbs ≤ s.occurrences a.natAbs := by
  refine ⟨getSortedLiterals_perm s, ?_⟩
  have hks : (((List.range s.maxVar).map (· + 1)).filter (s.status · == .active)).Nodup :=
    ((List.nodup_range _).map fun _ _ => Nat.succ.inj).filter _
  have hcount := countClauses_map s _ hks s.clauses fun _ => 0
  unfold getSortedLiterals
  dsimp only at hcount ⊢
  rw [hcount]
  refine sorted_counts s.occurrences _ fun p hp => ?_
  obtain ⟨v, hv, rfl⟩ := List.mem_map.1 hp
  have hact : s.status v = .active := by simpa using (List.mem_filter.1 hv).2
  simp only [zero_add, occurrences]
  congr 1
  refine List.map_congr_left fun c _ => List.countP_congr fun l _ => ?_
  by_cases hl : l.natAbs = v
  · simp [hl, hact]
  · simp [hl]
/-- With `globalisort`, turn `count` probes entry `count` of the sorted list. -/
theorem pickProbe_isort {s : Internal} (h : s.opts.globalisort = true) {sorted : List Int}
    {count : Nat} {i : Int} {t : Internal} (hp : pickProbe s sorted count = some (i, t)) :
    ∃ hc : count < sorted.length, i = sorted[count] := by
  unfold pickProbe at hp
  rw [if_pos h] at hp
  split_ifs at hp with hc
  cases hp
  exact ⟨hc, by simp [List.getD_eq_getElem?_getD, hc]⟩

/-- The literals assumed by the calls made, oldest first. -/
def assumedLits (s : Internal) : List Int :=
  (s.calls.filterMap fun c => match c.1 with
    | .assume l _ _ => some l
    | _ => none).reverse

/-- Sorted probing, every variable active. -/
def isortOpts : Options := { plainOpts with globalisort := true, globalorderi := false }

/-- `x1` occurs in both clauses, `x2` and `x3` in one each. -/
def sortedState : Internal := atTrail isortOpts 3 [[1, 2], [1, 3]] [] 0 []

/-- The loop counter starts at `1` and indexes the sorted list directly, so no turn of the
outer loop, in any state, probes the first and most frequent sorted variable. On
`sortedState` the budget never runs out and nothing becomes `FIXED`, yet `x1` is never
assumed: the run probes `x2` and `x3` and stops at `count = 3`. -/
theorem globalPreprocess_skips_first_sorted :
    (∀ s t : Internal, t.opts.globalisort = true → ∀ count, 1 ≤ count → ∀ i t',
      pickProbe t s.getSortedLiterals count = some (i, t') →
        s.getSortedLiterals.head? ≠ some i) ∧
      sortedState.getSortedLiterals = [1, 2, 3] ∧
      sortedState.globalPreprocess.map (assumedLits ·.1) = some [2, 2, -2, 3, 3, -3] := by
  refine ⟨fun s t h count hc i t' hp hhead => ?_, by decide, by decide⟩
  obtain ⟨hlt, rfl⟩ := pickProbe_isort h hp
  rw [List.head?_eq_getElem?, List.getElem?_eq_getElem (by omega), Option.some.injEq,
    (getSortedLiterals_nodup s).getElem_inj_iff] at hhead
  omega

end Internal
end cautical
