-- The laws of `compare_alpha_a` and `imp_sort_alpha_a`. From a consistent trail
-- closed under propagation, every comparison the sort makes assumes an open
-- literal and propagates it inside the trail, so the `assert (false)` branch is
-- never reached; the answers are those of one transitive relation; and the double
-- loop leaves no literal after one it strictly implies.
import Cautical.LeastConditionalPart
import Cautical.Propagation

namespace cautical
namespace Internal

/-! ## What a comparison changes -/

theorem backtrack_trail (s : Internal) (n : Nat) :
    (s.backtrack n).trail = s.trail.filter (·.level ≤ n) := rfl

theorem searchAssumeDecision_trail (s : Internal) (l : Int) :
    (s.searchAssumeDecision l).trail = ⟨l, s.level + 1, true⟩ :: s.trail := rfl

/-- Propagation puts its units on top of the trail, at the current level. -/
theorem propagateFrom_trail (n : Nat) (s : Internal) :
    ∃ new : List Assigned, (propagateFrom n s).1.trail = new ++ s.trail ∧
      ∀ a ∈ new, a.level = s.level := by
  induction n generalizing s with
  | zero => exact ⟨[], rfl, by simp⟩
  | succ n ih =>
    unfold propagateFrom
    split
    · exact ⟨[], rfl, by simp⟩
    · exact ⟨[], rfl, by simp⟩
    · next l _ =>
      obtain ⟨new, hnew, hlev⟩ := ih (s.assign l false)
      refine ⟨new ++ [⟨l, s.level, false⟩], by simp [hnew], fun a ha => ?_⟩
      rcases List.mem_append.1 ha with ha | ha
      · simpa using hlev a ha
      · simp [List.mem_singleton.1 ha]

/-- Propagation reads only the clauses, the trail and the level. -/
theorem propagateFrom_congr (n : Nat) (s s' : Internal) (hcl : s.clauses = s'.clauses)
    (htr : s.trail = s'.trail) (hlev : s.level = s'.level) :
    (propagateFrom n s).2 = (propagateFrom n s').2 ∧
      (propagateFrom n s).1.trail = (propagateFrom n s').1.trail := by
  induction n generalizing s s' with
  | zero => exact ⟨rfl, htr⟩
  | succ n ih =>
    have hu : s.nextUnit = s'.nextUnit := by
      simp only [nextUnit, unitOf, val, hcl, htr]
    unfold propagateFrom
    rw [hu]
    split
    · exact ⟨rfl, htr⟩
    · exact ⟨rfl, htr⟩
    · exact ih _ _ (by simpa using hcl) (by simp [htr, hlev]) (by simpa using hlev)

theorem val_of_trail_eq {s s' : Internal} (h : s.trail = s'.trail) (x : Int) :
    s.val x = s'.val x := by
  simp only [val, h]

/-- A comparison leaves the root of the trail and the clauses as they were. -/
theorem compareAlphaA_root (t : Internal) (a b : Int) :
    ((t.compareAlphaA a b).1.backtrack 0).trail = (t.backtrack 0).trail ∧
      (t.compareAlphaA a b).1.clauses = t.clauses := by
  refine ⟨?_, by simp [compareAlphaA]⟩
  obtain ⟨new, hnew, hlev⟩ :=
    propagateFrom_trail (((t.backtrack 0).searchAssumeDecision a).litCount + 1)
    (((t.backtrack 0).searchAssumeDecision a).log .propagate)
  simp only [compareAlphaA, propagate, backtrack_trail, hnew, List.filter_append]
  rw [List.filter_eq_nil_iff.2 fun x hx => by simp [hlev x hx]]
  simp [searchAssumeDecision_trail, List.filter_filter, backtrack_trail]

/-- The answer of a comparison depends only on the root of the trail and the clauses. -/
theorem compareAlphaA_congr {t t' : Internal}
    (htr : (t.backtrack 0).trail = (t'.backtrack 0).trail)
    (hcl : t.clauses = t'.clauses) (a b : Int) :
    (t.compareAlphaA a b).2 = (t'.compareAlphaA a b).2 := by
  have hcount : ((t.backtrack 0).searchAssumeDecision a).litCount =
      ((t'.backtrack 0).searchAssumeDecision a).litCount := by
    simp [litCount, hcl]
  have h := propagateFrom_congr (((t.backtrack 0).searchAssumeDecision a).litCount + 1)
    (((t.backtrack 0).searchAssumeDecision a).log .propagate)
    (((t'.backtrack 0).searchAssumeDecision a).log .propagate) (by simp [hcl])
    (by simp [searchAssumeDecision_trail, htr]) (by simp)
  simp only [compareAlphaA, propagate, hcount] at h ⊢
  rw [h.1, val_of_trail_eq h.2]

/-! ## The root of the trail is `FIXED` -/

/-- Every assignment at the root is `FIXED`, as `assign` marks it. -/
def RootFixed (s : Internal) : Prop := ∀ a ∈ s.trail, a.level = 0 → s.fixed a.lit = true

instance (s : Internal) : Decidable s.RootFixed :=
  inferInstanceAs (Decidable (∀ a ∈ s.trail, a.level = 0 → s.fixed a.lit = true))

/-- Putting `a` on the trail keeps the root `FIXED` when no variable leaves `FIXED` and `a`
is `FIXED` if it is at the root. -/
theorem RootFixed.push {s t : Internal} (h : s.RootFixed) {a : Assigned}
    (ht : t.trail = a :: s.trail) (hs : ∀ v, s.status v = .fixed → t.status v = .fixed)
    (ha : a.level = 0 → t.status a.lit.natAbs = .fixed) : t.RootFixed := by
  intro b hb h0
  simp only [fixed, flags, beq_iff_eq]
  rw [ht] at hb
  rcases List.mem_cons.1 hb with rfl | hb
  · exact ha h0
  · exact hs _ (by simpa [fixed, flags] using h b hb h0)

theorem RootFixed.backtrack {s : Internal} (h : s.RootFixed) (n : Nat) :
    (s.backtrack n).RootFixed :=
  fun a ha h0 => h a (List.mem_of_mem_filter ha) h0

/-! ## Keys and values -/

/-- Every key of `times_touched` is a true literal that is not `FIXED`, whatever the marks:
the scan counts only the true literals of clauses with no true `FIXED` literal. -/
theorem scan_keys (s : Internal) :
    ∀ k ∈ s.scan.timesTouched.map Prod.fst, 0 < s.val k ∧ s.fixed k = false := by
  suffices h : ∀ (cs : List Clause) (sc : Scan),
      (∀ k ∈ sc.timesTouched.map Prod.fst, 0 < s.val k ∧ s.fixed k = false) →
        ∀ k ∈ (cs.foldl s.scanClause sc).timesTouched.map Prod.fst,
          0 < s.val k ∧ s.fixed k = false from h s.clauses _ (by simp)
  intro cs
  induction cs with
  | nil => exact fun _ h => h
  | cons c cs ih =>
    intro sc h
    refine ih _ ?_
    have ht : ∀ k ∈ (c.lits.foldl (s.touchLit sc.marks)
        ⟨false, sc.timesTouched, []⟩).timesTouched.map Prod.fst,
        ¬ (c.lits.any fun l => decide (s.val l > 0) && s.fixed l) = true →
          0 < s.val k ∧ s.fixed k = false := fun k hk hfix => by
      rcases (mem_touch_keys s sc.marks c.lits _ k).1 hk with hk | ⟨hkc, hpos⟩
      · exact h k hk
      · refine ⟨hpos, ?_⟩
        simp only [List.any_eq_true, Bool.and_eq_true, decide_eq_true_eq, not_exists,
          not_and] at hfix
        simpa using hfix k hkc hpos
    unfold scanClause
    split_ifs with h1 h2 h3
    · exact h
    · exact h
    · exact h
    · dsimp only
      split <;> exact fun k hk => ht k hk h3

/-- Within a consistent trail, the literals of a trail whose entries are true there. -/
theorem consistent_of_within {α t : Internal} (hcons : α.Consistent)
    (hin : ∀ a ∈ t.trail, 0 < α.val a.lit) : t.Consistent := fun a ha b hb hab => by
  have h1 := hin a ha
  have h2 := hin b hb
  rw [hab, val_neg hcons] at h1
  omega

/-- The root of a trail lies inside it. -/
theorem root_within (s : Internal) : ∀ e ∈ (s.backtrack 0).trail, 0 < s.val e.lit :=
  fun e he => val_pos_iff.2 ⟨e, List.mem_of_mem_filter he, rfl⟩

/-- Assuming a literal true on `α` from a root inside `α` stays inside `α`. -/
theorem assume_within {α s : Internal} {a : Int}
    (hroot : ∀ e ∈ (s.backtrack 0).trail, 0 < α.val e.lit) (ha : 0 < α.val a) :
    ∀ e ∈ ((s.backtrack 0).searchAssumeDecision a).trail, 0 < α.val e.lit := by
  intro e he
  rcases List.mem_cons.1 he with rfl | he
  · exact ha
  · exact hroot e he

/-- `propagate ()` started inside a consistent trail closed under propagation. -/
theorem propagate_within {α : Internal} (hcons : α.Consistent) (hfix : α.nextUnit = none)
    (t : Internal) (hcl : t.clauses = α.clauses) (hin : ∀ a ∈ t.trail, 0 < α.val a.lit) :
    t.propagate.2 = true ∧ ∀ a ∈ t.propagate.1.trail, 0 < α.val a.lit :=
  propagateFrom_within hcons hfix _ _ (by simpa using hcl) (by simpa using hin)

theorem mem_propagate_trail {t : Internal} {e : Assigned} (he : e ∈ t.trail) :
    e ∈ t.propagate.1.trail := by
  obtain ⟨new, hnew, -⟩ := propagateFrom_trail (t.litCount + 1) (t.log .propagate)
  rw [propagate, hnew]
  exact List.mem_append_right _ he

/-! ## The comparisons of the sort -/

theorem getD_of_lt {l : List Int} {i : Nat} (h : i < l.length) : l.getD i 0 = l[i] := by
  simp [List.getD_eq_getElem?_getD, h]

/-- Swapping two positions gives a permutation. -/
theorem swap_perm {l : List Int} {i j : Nat} (hi : i < l.length) (hj : j < l.length) :
    ((l.set j (l.getD i 0)).set i (l.getD j 0)).Perm l := by
  rw [List.perm_iff_count]
  intro b
  rw [List.count_set _ _ _ _ (by simpa using hi), List.count_set _ _ _ _ hj, List.getElem_set]
  simp only [getD_of_lt hi, getD_of_lt hj, ite_self]
  have hc : (if (l[j] == b) = true then 1 else 0) ≤ l.count b := by
    split_ifs with h
    · exact List.count_pos_iff.2 (by simpa [beq_iff_eq.1 h] using List.getElem_mem hj)
    · exact Nat.zero_le _
  split_ifs at hc ⊢ <;> omega

theorem getD_swap {l : List Int} {i j : Nat} (k : Nat) (hi : i < l.length) (hj : j < l.length) :
    ((l.set j (l.getD i 0)).set i (l.getD j 0)).getD k 0 =
      if k = i then l.getD j 0 else if k = j then l.getD i 0 else l.getD k 0 := by
  simp only [List.getD_eq_getElem?_getD]
  by_cases hki : k = i
  · subst hki
    rw [if_pos rfl, List.getElem?_set_self (by simpa using hi)]
    rfl
  · rw [if_neg hki, List.getElem?_set_ne (Ne.symm hki)]
    by_cases hkj : k = j
    · subst hkj
      rw [if_pos rfl, List.getElem?_set_self hj]
      rfl
    · rw [if_neg hkj, List.getElem?_set_ne (Ne.symm hkj)]

/-- The states and orders `imp_sort_alpha_a` passes through: the start, and each comparison
of positions `i < j` of the current order. -/
inductive SortReach (t0 : Internal) (l0 : List Int) : Internal × List Int → Prop
  | start : SortReach t0 l0 (t0, l0)
  | step {p : Internal × List Int} {i j : Nat} : SortReach t0 l0 p → i < j → j < l0.length →
      SortReach t0 l0 (impSortStep i p j)

/-- On the way, the root of the trail and the clauses stay, and the order is a permutation. -/
theorem SortReach.inv {t0 : Internal} {l0 : List Int} {p : Internal × List Int}
    (h : SortReach t0 l0 p) : (p.1.backtrack 0).trail = (t0.backtrack 0).trail ∧
      p.1.clauses = t0.clauses ∧ p.2.Perm l0 := by
  induction h with
  | start => exact ⟨rfl, rfl, List.Perm.refl _⟩
  | @step p i j _ hij hj ih =>
    obtain ⟨htr, hcl, hperm⟩ := ih
    obtain ⟨htr', hcl'⟩ := compareAlphaA_root p.1 (p.2.getD j 0) (p.2.getD i 0)
    refine ⟨htr'.trans htr, hcl'.trans hcl, ?_⟩
    unfold impSortStep
    dsimp only
    split_ifs
    · rw [← hperm.length_eq] at hj
      exact (swap_perm (by omega) hj).trans hperm
    · exact hperm

/-- From a consistent trail closed under propagation whose root is `FIXED`, every comparison
that `imp_sort_alpha_a` makes on the `alpha_a` of `least_conditional_part` assumes a literal
that is open at the root, and its propagation stays inside the trail: it never conflicts, so
the `assert (false)` branch is never reached, and no clause is learned. -/
theorem impSortAlphaA_compares_inside (s : Internal) (hcons : s.Consistent)
    (hfix : s.nextUnit = none) (hroot : s.RootFixed) :
    ∀ p, SortReach s.conditionalPart.1 s.conditionalPart.2.2.1 p → ∀ i j, i < j →
      j < s.conditionalPart.2.2.1.length →
        (p.1.backtrack 0).val (p.2.getD j 0) = 0 ∧
        ((p.1.backtrack 0).searchAssumeDecision (p.2.getD j 0)).propagate.2 = true ∧
        (∀ x ∈ ((p.1.backtrack 0).searchAssumeDecision (p.2.getD j 0)).propagate.1.trail,
          0 < s.val x.lit) ∧
        (impSortStep i p j).1.clauses = s.clauses := by
  intro p hp i j hij hj
  obtain ⟨htr, hcl, hperm⟩ := hp.inv
  have hjp : j < p.2.length := by rw [hperm.length_eq]; exact hj
  have ha : p.2.getD j 0 ∈ s.conditionalPart.2.2.1 :=
    hperm.mem_iff.1 (getD_of_lt hjp ▸ List.getElem_mem hjp)
  rw [conditionalPart_alphaA] at ha
  obtain ⟨hpos, hnf⟩ := scan_keys s _ (List.mem_filter.1 ha).1
  have hrt : ∀ e ∈ (p.1.backtrack 0).trail, e ∈ s.trail ∧ e.level = 0 := fun e he => by
    rw [htr, backtrack_trail] at he
    simpa using List.mem_filter.1 he
  have h0 : (p.1.backtrack 0).val (p.2.getD j 0) = 0 := val_eq_zero_of fun e he => by
    obtain ⟨he, hl⟩ := hrt e he
    refine ⟨fun hea => absurd (hroot e he hl) (by rw [hea, hnf]; decide), fun hea => ?_⟩
    obtain ⟨e', he', he'a⟩ := val_pos_iff.1 hpos
    exact hcons e' he' e he (by rw [he'a, hea, neg_neg])
  have hw := propagate_within hcons hfix ((p.1.backtrack 0).searchAssumeDecision (p.2.getD j 0))
    (by simpa using hcl) (assume_within (fun e he => val_pos_iff.2 ⟨e, (hrt e he).1, rfl⟩) hpos)
  exact ⟨h0, hw.1, hw.2, (compareAlphaA_root p.1 _ (p.2.getD i 0)).2.trans hcl⟩

/-- The sort state of `shrinkState`: `alpha_a` holds two literals, and the root is empty. -/
theorem impSortAlphaA_compares_inside_shrinkState :
    (shrinkState bcpOpts).conditionalPart.2.2.1 = [-3, 2] ∧ (shrinkState bcpOpts).Consistent ∧
      (shrinkState bcpOpts).nextUnit = none ∧ (shrinkState bcpOpts).RootFixed ∧
      ∀ p, SortReach (shrinkState bcpOpts).conditionalPart.1
        (shrinkState bcpOpts).conditionalPart.2.2.1 p → ∀ i j, i < j →
          j < (shrinkState bcpOpts).conditionalPart.2.2.1.length →
            (p.1.backtrack 0).val (p.2.getD j 0) = 0 ∧
            ((p.1.backtrack 0).searchAssumeDecision (p.2.getD j 0)).propagate.2 = true ∧
            (∀ x ∈ ((p.1.backtrack 0).searchAssumeDecision (p.2.getD j 0)).propagate.1.trail,
              0 < (shrinkState bcpOpts).val x.lit) ∧
            (impSortStep i p j).1.clauses = (shrinkState bcpOpts).clauses :=
  ⟨by decide, by decide, by decide, by decide,
    impSortAlphaA_compares_inside _ (by decide) (by decide) (by decide)⟩

/-! ## The order the sort leaves -/

/-- Assuming `a` from the root propagates `b` true without a conflict. -/
def Propagates (s : Internal) (a b : Int) : Prop :=
  ((s.backtrack 0).searchAssumeDecision a).propagate.2 = true ∧
    0 < ((s.backtrack 0).searchAssumeDecision a).propagate.1.val b

instance (s : Internal) (a b : Int) : Decidable (s.Propagates a b) :=
  inferInstanceAs (Decidable (_ ∧ _))

/-- `compare_alpha_a (a, b)` answers whether `a` propagates `b`. -/
theorem compareAlphaA_iff (s : Internal) (a b : Int) :
    (s.compareAlphaA a b).2 = true ↔ s.Propagates a b := by
  simp [compareAlphaA, Propagates]

/-- On a consistent trail closed under propagation, propagation from the root is transitive:
the propagation from `a` is again such a trail, and the one from `b` stays inside it. -/
theorem Propagates.trans {s : Internal} (hcons : s.Consistent) (hfix : s.nextUnit = none)
    {a b c : Int} (ha : 0 < s.val a) (hab : s.Propagates a b) (hbc : s.Propagates b c) :
    s.Propagates a c := by
  have hwa := propagate_within hcons hfix ((s.backtrack 0).searchAssumeDecision a) (by simp)
    (assume_within (root_within s) ha)
  have hroot : ∀ e ∈ (s.backtrack 0).trail,
      0 < ((s.backtrack 0).searchAssumeDecision a).propagate.1.val e.lit := fun e he =>
    val_pos_iff.2 ⟨e, mem_propagate_trail (List.mem_cons_of_mem _ he), rfl⟩
  have hwb := propagate_within (consistent_of_within hcons hwa.2) (propagate_fixpoint _ hab.1)
    ((s.backtrack 0).searchAssumeDecision b) (by simp) (assume_within hroot hab.2)
  obtain ⟨e, he, rfl⟩ := val_pos_iff.1 hbc.2
  exact ⟨hab.1, hwb.2 e he⟩

/-- In a state on the way, a comparison answers as it would on the start state. -/
theorem impSortStep_of_reach {s : Internal} {l0 : List Int} {p : Internal × List Int}
    (hp : SortReach s l0 p) (i j : Nat) :
    (impSortStep i p j).2 = if s.Propagates (p.2.getD j 0) (p.2.getD i 0) then
      (p.2.set j (p.2.getD i 0)).set i (p.2.getD j 0) else p.2 := by
  obtain ⟨htr, hcl, -⟩ := hp.inv
  simp only [impSortStep, compareAlphaA_congr htr hcl, compareAlphaA_iff]

/-- Position `p` may stand before position `q`: the literal at `q` does not strictly imply
the one at `p`. -/
def InOrder (s : Internal) (l : List Int) (p q : Nat) : Prop :=
  s.Propagates (l.getD q 0) (l.getD p 0) → s.Propagates (l.getD p 0) (l.getD q 0)

/-- The invariant of the double loop before the head `i` meets position `J`: the heads before
`i` are in order with every later position, and `i` with the positions it has met. -/
structure SortInv (s : Internal) (l0 : List Int) (i J : Nat) (p : Internal × List Int) :
    Prop where
  reach : SortReach s l0 p
  settled : ∀ a b, a < i → a < b → b < l0.length → s.InOrder p.2 a b
  head : ∀ k, i < k → k < J → s.InOrder p.2 i k

section sortInv

variable {s : Internal} (hcons : s.Consistent) (hfix : s.nextUnit = none) {l0 : List Int}
  (htrue : ∀ a ∈ l0, 0 < s.val a)
include hcons hfix htrue

/-- One comparison: a swap puts `alpha_a [J]` at the head; every position the head met is
still in order with it by transitivity, and so is the old head. -/
theorem SortInv.step {i J : Nat} {p : Internal × List Int} (h : SortInv s l0 i J p)
    (hiJ : i < J) (hJ : J < l0.length) : SortInv s l0 i (J + 1) (impSortStep i p J) := by
  have hperm := h.reach.inv.2.2
  have hlen : p.2.length = l0.length := hperm.length_eq
  have htrue' : ∀ k < l0.length, 0 < s.val (p.2.getD k 0) := fun k hk =>
    htrue _ (hperm.mem_iff.1 (getD_of_lt (hlen ▸ hk) ▸ List.getElem_mem _))
  by_cases hs : s.Propagates (p.2.getD J 0) (p.2.getD i 0)
  · have hsw : ∀ k, (impSortStep i p J).2.getD k 0 = if k = i then p.2.getD J 0
        else if k = J then p.2.getD i 0 else p.2.getD k 0 := fun k => by
      rw [impSortStep_of_reach h.reach, if_pos hs, getD_swap k (by omega) (by omega)]
    refine ⟨h.reach.step hiJ hJ, fun a b ha hab hb => ?_, fun k hik hkJ => ?_⟩
    · simp only [InOrder, hsw, show a ≠ i by omega, show a ≠ J by omega, if_false]
      split_ifs
      · exact h.settled a J ha (by omega) hJ
      · exact h.settled a i ha (by omega) (by omega)
      · exact h.settled a b ha hab hb
    · simp only [InOrder, hsw, show k ≠ i by omega, if_true, if_false]
      split_ifs with hkJ'
      · exact fun _ => hs
      · exact fun hz => hs.trans hcons hfix (htrue' J hJ)
          (h.head k hik (by omega) (hz.trans hcons hfix (htrue' k (by omega)) hs))
  · have hl : (impSortStep i p J).2 = p.2 := by rw [impSortStep_of_reach h.reach, if_neg hs]
    refine ⟨h.reach.step hiJ hJ, hl ▸ h.settled, fun k hik hkJ => hl ▸ ?_⟩
    rcases Nat.lt_or_ge k J with hk | hk
    · exact h.head k hik hk
    · obtain rfl : k = J := by omega
      exact fun h' => absurd h' hs

/-- The inner loop for the head `i`, from position `J` to the end. -/
theorem SortInv.innerLoop {i : Nat} : ∀ (m J : Nat) (p : Internal × List Int), i < J →
    J + m = l0.length → SortInv s l0 i J p →
      SortInv s l0 i l0.length ((List.range' J m).foldl (impSortStep i) p)
  | 0, J, p, _, hJ, h => by
    obtain rfl : J = l0.length := hJ
    exact h
  | m + 1, J, p, hiJ, hJ, h => by
    rw [List.range'_succ, List.foldl_cons]
    exact SortInv.innerLoop m (J + 1) _ (by omega) (by omega)
      (h.step hcons hfix htrue hiJ (by omega))

/-- The outer loop, from the head `K` on. -/
theorem SortInv.outerLoop : ∀ (m K : Nat) (p : Internal × List Int), K + m = l0.length →
    SortInv s l0 K (K + 1) p → SortInv s l0 l0.length (l0.length + 1)
      ((List.range' K m).foldl (fun p i =>
        (List.range' (i + 1) (l0.length - (i + 1))).foldl (impSortStep i) p) p)
  | 0, K, p, hK, h => by
    obtain rfl : K = l0.length := hK
    exact h
  | m + 1, K, p, hK, h => by
    rw [List.range'_succ, List.foldl_cons]
    have hin := SortInv.innerLoop hcons hfix htrue (l0.length - (K + 1)) (K + 1) p (by omega)
      (by omega) h
    refine SortInv.outerLoop m (K + 1) _ (by omega) ⟨hin.reach, fun a b ha hab hb => ?_,
      fun k hk hk2 => absurd hk2 (by omega)⟩
    rcases Nat.lt_succ_iff_lt_or_eq.1 ha with ha | rfl
    · exact hin.settled a b ha hab hb
    · exact hin.head b hab hb

end sortInv

/-- From a consistent trail closed under propagation, `imp_sort_alpha_a` returns a
permutation of literals true on it in which no literal stands after one it strictly
implies: wherever the later literal propagates the earlier one, the earlier one propagates
the later one back. -/
theorem impSortAlphaA_sorted (s : Internal) (hcons : s.Consistent) (hfix : s.nextUnit = none)
    (alphaA : List Int) (htrue : ∀ a ∈ alphaA, 0 < s.val a) :
    (s.impSortAlphaA alphaA).2.Perm alphaA ∧
      ∀ p q, p < q → q < alphaA.length →
        s.Propagates ((s.impSortAlphaA alphaA).2.getD q 0)
          ((s.impSortAlphaA alphaA).2.getD p 0) →
        s.Propagates ((s.impSortAlphaA alphaA).2.getD p 0)
          ((s.impSortAlphaA alphaA).2.getD q 0) := by
  have h := SortInv.outerLoop hcons hfix htrue alphaA.length 0 (s, alphaA) (Nat.zero_add _)
    ⟨.start, fun _ _ h => absurd h (Nat.not_lt_zero _), fun _ h h' => absurd h' (by omega)⟩
  rw [← List.range_eq_range'] at h
  exact ⟨h.reach.inv.2.2, fun p q hpq hq => h.settled p q (by omega) hpq hq⟩

/-- `x1` decided implies `x2`, which implies `x3`. -/
def chainState : Internal :=
  atTrail plainOpts 3 [[-1, 2], [-2, 3]] [⟨3, 1, false⟩, ⟨2, 1, false⟩, ⟨1, 1, true⟩] 1 []

/-- The sort turns `[3, 2, 1]` around, each literal before those it implies. -/
theorem impSortAlphaA_sorted_chainState :
    chainState.Consistent ∧ chainState.nextUnit = none ∧ (∀ a ∈ [3, 2, 1], 0 < chainState.val a) ∧
      (chainState.impSortAlphaA [3, 2, 1]).2 = [1, 2, 3] ∧
      ((chainState.impSortAlphaA [3, 2, 1]).2.Perm [3, 2, 1] ∧
        ∀ p q, p < q → q < [3, 2, 1].length →
          chainState.Propagates ((chainState.impSortAlphaA [3, 2, 1]).2.getD q 0)
            ((chainState.impSortAlphaA [3, 2, 1]).2.getD p 0) →
          chainState.Propagates ((chainState.impSortAlphaA [3, 2, 1]).2.getD p 0)
            ((chainState.impSortAlphaA [3, 2, 1]).2.getD q 0)) :=
  ⟨by decide, by decide, by decide, by decide,
    impSortAlphaA_sorted chainState (by decide) (by decide) [3, 2, 1] (by decide)⟩

end Internal
end cautical
