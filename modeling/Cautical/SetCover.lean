-- The laws of `greedySetCover`. Every round takes the first set that adds the
-- most elements not yet covered, the rounds end by the loop's own tests before
-- the fuel runs out, the chosen sets are distinct, and what is left uncovered
-- meets no set.
import Cautical.Shrink

namespace cautical

/-- The number of elements of `S` that `covered` lacks: what taking `S` adds. -/
def gain (S covered : List Int) : Nat := (S.filter (· ∉ covered)).length

/-- Each index of `chosen` adds an element to the sets chosen before it, and no set adds
more at that point. -/
def Greedy (subsets : List (List Int)) (chosen : List Nat) : Prop :=
  ∀ t (ht : t < chosen.length),
    0 < gain (subsets.getD chosen[t] []) ((chosen.take t).flatMap (subsets.getD · [])) ∧
      ∀ k < subsets.length, gain (subsets.getD k []) ((chosen.take t).flatMap (subsets.getD · [])) ≤
        gain (subsets.getD chosen[t] []) ((chosen.take t).flatMap (subsets.getD · []))

theorem gain_congr (S : List Int) {c c' : List Int} (h : ∀ x, x ∈ c ↔ x ∈ c') :
    gain S c = gain S c' := by
  simp only [gain, h]

theorem gain_eq_zero {S c : List Int} (h : gain S c = 0) : ∀ x ∈ S, x ∈ c := by
  intro x hx
  simpa using List.filter_eq_nil_iff.1 (List.length_eq_zero.1 h) x hx

/-! ## The best set of a round -/

section best

variable (subsets : List (List Int)) (covered : List Int)

/-- The scan of `bestSubset` after the indices below `j`: nothing chosen while every set
so far adds nothing, or the first set with the largest gain so far. -/
def BestSoFar (j : Nat) (b : Option Nat × Nat) : Prop :=
  (b.1 = none ∧ b.2 = 0 ∧ ∀ k < j, gain (subsets.getD k []) covered = 0) ∨
    ∃ i, b.1 = some i ∧ i < j ∧ b.2 = gain (subsets.getD i []) covered ∧ 0 < b.2 ∧
      ∀ k < j, gain (subsets.getD k []) covered ≤ b.2

theorem bestSoFar_range (j : Nat) :
    BestSoFar subsets covered j ((List.range j).foldl (fun (best : Option Nat × Nat) i =>
      let n := ((subsets.getD i []).filter (· ∉ covered)).length
      if n > best.2 then (some i, n) else best) (none, 0)) := by
  induction j with
  | zero => exact .inl ⟨rfl, rfl, fun k hk => absurd hk (Nat.not_lt_zero k)⟩
  | succ j ih =>
    rw [List.range_succ, List.foldl_append, List.foldl_cons, List.foldl_nil]
    generalize (List.range j).foldl _ (none, 0) = b at ih ⊢
    obtain ⟨b, m⟩ := b
    dsimp only
    split_ifs with hgt
    · refine .inr ⟨j, rfl, Nat.lt_succ_self j, rfl, by omega, fun k hk => ?_⟩
      rcases Nat.lt_succ_iff_lt_or_eq.1 hk with hk | rfl
      · rcases ih with ⟨-, rfl, h0⟩ | ⟨_, -, -, -, -, hle⟩
        · exact (h0 k hk).trans_le (Nat.zero_le _)
        · exact ((hle k hk).trans (Nat.le_of_lt hgt))
      · exact le_rfl
    · rcases ih with ⟨rfl, rfl, h0⟩ | ⟨i, rfl, hi, rfl, hpos, hle⟩
      · refine .inl ⟨rfl, rfl, fun k hk => ?_⟩
        rcases Nat.lt_succ_iff_lt_or_eq.1 hk with hk | rfl
        · exact h0 k hk
        · exact Nat.eq_zero_of_not_pos hgt
      · refine .inr ⟨i, rfl, Nat.lt_succ_of_lt hi, rfl, hpos, fun k hk => ?_⟩
        rcases Nat.lt_succ_iff_lt_or_eq.1 hk with hk | rfl
        · exact hle k hk
        · exact Nat.le_of_not_lt hgt

/-- A round takes a set that adds an element, and no set adds more. -/
theorem bestSubset_some {i : Nat} (h : bestSubset subsets covered = some i) :
    i < subsets.length ∧ 0 < gain (subsets.getD i []) covered ∧
      ∀ k < subsets.length, gain (subsets.getD k []) covered ≤ gain (subsets.getD i []) covered := by
  rcases bestSoFar_range subsets covered subsets.length with ⟨h0, -, -⟩ | ⟨i', h', hi, hm, hpos, hle⟩
  · exact absurd (h.symm.trans h0) (by simp)
  · obtain rfl : i' = i := Option.some.inj (h'.symm.trans h)
    exact ⟨hi, hm ▸ hpos, fun k hk => hm ▸ hle k hk⟩

/-- A round that takes nothing finds every set covered. -/
theorem bestSubset_none (h : bestSubset subsets covered = none) :
    ∀ S ∈ subsets, ∀ x ∈ S, x ∈ covered := by
  intro S hS
  obtain ⟨k, hk, rfl⟩ := List.getElem_of_mem hS
  rcases bestSoFar_range subsets covered subsets.length with ⟨-, -, h0⟩ | ⟨i, h', -⟩
  · exact gain_eq_zero (by simpa [List.getD_eq_getElem?_getD, hk] using h0 k hk)
  · exact absurd (h'.symm.trans h) (by simp)

end best

/-! ## The rounds -/

/-- What the rounds keep: `covered` is the union of the chosen sets, without repeats, and
the chosen indices are distinct, in range and greedy. -/
structure CoverInv (subsets : List (List Int)) (chosen : List Nat) (covered : List Int) :
    Prop where
  nodup : covered.Nodup
  mem : ∀ x, x ∈ covered ↔ ∃ i ∈ chosen, x ∈ subsets.getD i []
  chosen_nodup : chosen.Nodup
  lt : ∀ i ∈ chosen, i < subsets.length
  greedy : Greedy subsets chosen

section rounds

variable {subsets : List (List Int)} {chosen : List Nat} {covered : List Int}

theorem coverInv_nil : CoverInv subsets [] [] :=
  ⟨List.nodup_nil, by simp, List.nodup_nil, by simp, fun _ ht => absurd ht (Nat.not_lt_zero _)⟩

theorem getD_mem {i : Nat} (hi : i < subsets.length) : subsets.getD i [] ∈ subsets := by
  simp [List.getD_eq_getElem?_getD, hi]

/-- A round that takes set `i` keeps the invariant. -/
theorem CoverInv.take (hsets : ∀ S ∈ subsets, S.Nodup) (h : CoverInv subsets chosen covered)
    {i : Nat} (hi : bestSubset subsets covered = some i) :
    CoverInv subsets (chosen ++ [i]) (covered ++ (subsets.getD i []).filter (· ∉ covered)) := by
  obtain ⟨hlt, hpos, hmax⟩ := bestSubset_some subsets covered hi
  have hflat : ∀ x, x ∈ chosen.flatMap (subsets.getD · []) ↔ x ∈ covered := fun x => by
    rw [List.mem_flatMap, h.mem]
  refine ⟨List.nodup_append.2 ⟨h.nodup, (hsets _ (getD_mem hlt)).filter _, fun x hx hx' => ?_⟩,
    fun x => ?_, List.nodup_append.2 ⟨h.chosen_nodup, List.nodup_singleton i, ?_⟩, ?_, ?_⟩
  · simp [hx] at hx'
  · simp only [List.mem_append, List.mem_filter, List.mem_singleton, or_and_right, exists_or,
      exists_eq_left, ← h.mem, decide_eq_true_eq]
    by_cases hx : x ∈ covered <;> simp [hx]
  · intro j hj hji
    rw [List.mem_singleton.1 hji] at hj
    obtain ⟨x, hx⟩ := List.exists_mem_of_length_pos hpos
    obtain ⟨hxS, hxc⟩ := List.mem_filter.1 hx
    exact absurd ((h.mem x).2 ⟨i, hj, hxS⟩) (by simpa using hxc)
  · intro j hj
    rcases List.mem_append.1 hj with hj | hj
    · exact h.lt j hj
    · rw [List.mem_singleton.1 hj]; exact hlt
  · intro t ht
    rcases Nat.lt_succ_iff_lt_or_eq.1 (by simpa using ht) with ht' | rfl
    · rw [List.getElem_append_left ht', List.take_append_of_le_length ht'.le]
      exact h.greedy t ht'
    · rw [List.getElem_concat_length _ _ _ rfl, List.take_left' rfl, gain_congr _ hflat]
      exact ⟨hpos, fun k hk => by rw [gain_congr _ hflat]; exact hmax k hk⟩

/-- Every round keeps the invariant. -/
theorem CoverInv.rounds (hsets : ∀ S ∈ subsets, S.Nodup) (total : List Int) (n : Nat)
    (h : CoverInv subsets chosen covered) :
    CoverInv subsets (greedyRounds subsets total n (chosen, covered)).1
      (greedyRounds subsets total n (chosen, covered)).2 := by
  induction n generalizing chosen covered with
  | zero => exact h
  | succ n ih =>
    unfold greedyRounds
    split_ifs
    · split
      · exact h
      · next i hi => exact ih (h.take hsets hi)
    · exact h

/-- The covered elements are elements of the sets, so there are at most as many as the
sets have elements. -/
theorem CoverInv.length_le (h : CoverInv subsets chosen covered) :
    covered.length ≤ (subsets.map (·.length)).sum := by
  rw [← List.length_flatten]
  refine (List.subperm_of_subset h.nodup fun x hx => ?_).length_le
  obtain ⟨i, hi, hx⟩ := (h.mem x).1 hx
  exact List.mem_flatten.2 ⟨_, getD_mem (h.lt i hi), hx⟩

/-- The rounds end by the loop's own tests, its guard or its `break`, once the fuel is more
than the elements still to cover. -/
theorem CoverInv.rounds_exit (hsets : ∀ S ∈ subsets, S.Nodup) (total : List Int) (n : Nat)
    (h : CoverInv subsets chosen covered)
    (hn : (subsets.map (·.length)).sum < n + covered.length) :
    total.length ≤ (greedyRounds subsets total n (chosen, covered)).2.length ∨
      bestSubset subsets (greedyRounds subsets total n (chosen, covered)).2 = none := by
  induction n generalizing chosen covered with
  | zero => exact absurd h.length_le (by omega)
  | succ n ih =>
    unfold greedyRounds
    split_ifs with hg
    · split
      · next hb => exact .inr hb
      · next i hi =>
        have hgain := (bestSubset_some subsets covered hi).2.1
        refine ih (h.take hsets hi) ?_
        rw [List.length_append]
        exact lt_of_lt_of_le hn (by unfold gain at hgain; omega)
    · exact .inl (Nat.le_of_not_lt hg)

end rounds

/-! ## The cover -/

/-- For sets without repeats (`unordered_set`s) that hold only elements of `total`: the
rounds end by the loop's own tests; the chosen indices are distinct, in range, and each
adds an element not covered before it and as many as any set would; the residual is the
elements of `total`, without repeats, outside the chosen sets; and it meets no set. -/
theorem greedySetCover_spec (subsets : List (List Int)) (total : List Int)
    (hsets : ∀ S ∈ subsets, S.Nodup) (hsub : ∀ S ∈ subsets, ∀ x ∈ S, x ∈ total) :
    (total.length ≤ (greedyRounds subsets total ((subsets.map (·.length)).sum + 1) ([], [])).2.length ∨
      bestSubset subsets (greedyRounds subsets total ((subsets.map (·.length)).sum + 1)
        ([], [])).2 = none) ∧
      (greedySetCover subsets total).1.Nodup ∧
      (∀ i ∈ (greedySetCover subsets total).1, i < subsets.length) ∧
      Greedy subsets (greedySetCover subsets total).1 ∧
      (greedySetCover subsets total).2.Nodup ∧
      (∀ x, x ∈ (greedySetCover subsets total).2 ↔
        x ∈ total ∧ ∀ i ∈ (greedySetCover subsets total).1, x ∉ subsets.getD i []) ∧
      ∀ x ∈ (greedySetCover subsets total).2, ∀ S ∈ subsets, x ∉ S := by
  unfold greedySetCover
  have h := CoverInv.rounds hsets total ((subsets.map (·.length)).sum + 1) coverInv_nil
  have hexit := CoverInv.rounds_exit hsets total ((subsets.map (·.length)).sum + 1)
    coverInv_nil (by simp)
  generalize greedyRounds subsets total _ ([], []) = r at h hexit
  have hres : ∀ x, x ∈ total.dedup.filter (· ∉ r.2) ↔ x ∈ total ∧ x ∉ r.2 := by simp
  refine ⟨hexit, h.chosen_nodup, h.lt, h.greedy, (List.nodup_dedup total).filter _,
    fun x => by simp [greedySetCover, hres, h.mem], fun x hx S hS hxS => ?_⟩
  obtain ⟨hxt, hxr⟩ := (hres x).1 hx
  rcases hexit with hlen | hnone
  · have hle : r.2.length ≤ (total.filter (· ≠ x)).length := by
      refine (List.subperm_of_subset h.nodup fun y hy => ?_).length_le
      obtain ⟨i, hi, hyi⟩ := (h.mem y).1 hy
      exact List.mem_filter.2 ⟨hsub _ (getD_mem (h.lt i hi)) y hyi,
        decide_eq_true fun hyx => hxr (hyx ▸ hy)⟩
    have hlt : (total.filter (· ≠ x)).length < total.length :=
      List.length_filter_lt_length_iff_exists.2 ⟨x, hxt, by simp⟩
    omega
  · exact hxr (bestSubset_none subsets r.2 hnone S hS x hxS)

/-- Two sets over three elements: the first round takes either, the second the other. -/
theorem greedySetCover_spec_twoSets :
    (∀ S ∈ [[1, 2], [2, 3]], S.Nodup) ∧ (∀ S ∈ [[1, 2], [2, 3]], ∀ x ∈ S, x ∈ [1, 2, 3]) ∧
      ((([1, 2, 3] : List Int).length ≤ (greedyRounds [[1, 2], [2, 3]] [1, 2, 3]
        (([[1, 2], [2, 3]].map (·.length)).sum + 1) ([], [])).2.length ∨
        bestSubset [[1, 2], [2, 3]] (greedyRounds [[1, 2], [2, 3]] [1, 2, 3]
          (([[1, 2], [2, 3]].map (·.length)).sum + 1) ([], [])).2 = none) ∧
      (greedySetCover [[1, 2], [2, 3]] [1, 2, 3]).1.Nodup ∧
      (∀ i ∈ (greedySetCover [[1, 2], [2, 3]] [1, 2, 3]).1, i < [[1, 2], [2, 3]].length) ∧
      Greedy [[1, 2], [2, 3]] (greedySetCover [[1, 2], [2, 3]] [1, 2, 3]).1 ∧
      (greedySetCover [[1, 2], [2, 3]] [1, 2, 3]).2.Nodup ∧
      (∀ x, x ∈ (greedySetCover [[1, 2], [2, 3]] [1, 2, 3]).2 ↔
        x ∈ [1, 2, 3] ∧ ∀ i ∈ (greedySetCover [[1, 2], [2, 3]] [1, 2, 3]).1,
          x ∉ [[1, 2], [2, 3]].getD i []) ∧
      ∀ x ∈ (greedySetCover [[1, 2], [2, 3]] [1, 2, 3]).2, ∀ S ∈ [[1, 2], [2, 3]], x ∉ S) :=
  ⟨by decide, by decide, greedySetCover_spec _ _ (by decide) (by decide)⟩

end cautical
