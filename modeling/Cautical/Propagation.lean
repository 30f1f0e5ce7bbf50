-- What the model's unit propagation computes. It assigns open literals only, it
-- reaches a fixpoint within its fuel, and started inside a consistent trail that
-- is closed under propagation it never leaves that trail: it cannot conflict, and
-- everything it assigns is already true there.
import Mathlib.Algebra.Order.BigOperators.Group.List
import Cautical.Semantics

namespace cautical
namespace Internal

/-! ## Values on the trail -/

section values

variable {s : Internal} {x : Int}

theorem val_pos_iff : 0 < s.val x ↔ ∃ a ∈ s.trail, a.lit = x := by
  unfold val
  split_ifs with h1 h2
  · simpa using h1
  · simp only [List.any_eq_true, beq_iff_eq, not_exists, not_and] at h1
    exact iff_of_false (by decide) fun ⟨a, ha, hx⟩ => h1 a ha hx
  · simp only [List.any_eq_true, beq_iff_eq, not_exists, not_and] at h1
    exact iff_of_false (by decide) fun ⟨a, ha, hx⟩ => h1 a ha hx

theorem val_eq_neg_one : s.val x = -1 → ∃ a ∈ s.trail, a.lit = -x := by
  intro h
  unfold val at h
  split_ifs at h with h1 h2
  · simpa using h2

theorem val_eq_zero_iff :
    s.val x = 0 ↔ s.trail.any (·.lit == x) = false ∧ s.trail.any (·.lit == -x) = false := by
  unfold val
  split_ifs with h1 h2
  · simp [h1]
  · simp [h2]
  · simpa using And.intro h1 h2

theorem val_neg_eq_zero : s.val (-x) = 0 ↔ s.val x = 0 := by
  rw [val_eq_zero_iff, val_eq_zero_iff, neg_neg, and_comm]

theorem val_eq_zero_of (h : ∀ e ∈ s.trail, e.lit ≠ x ∧ e.lit ≠ -x) : s.val x = 0 :=
  val_eq_zero_iff.2 ⟨List.any_eq_false.2 fun e he => by simpa using (h e he).1,
    List.any_eq_false.2 fun e he => by simpa using (h e he).2⟩

theorem val_assign_self (l : Int) (d : Bool) : (s.assign l d).val l = 1 :=
  (val_cases (s := s.assign l d) l).resolve_right fun h => by
    have := val_pos_iff (s := s.assign l d).2 ⟨⟨l, s.level, d⟩, by simp, rfl⟩
    rcases h with h | h <;> rw [h] at this <;> omega

/-- Assigning an open literal leaves every assigned literal as it was. -/
theorem val_assign_of_ne_zero {l : Int} (d : Bool) (hl : s.val l = 0) (hx : s.val x ≠ 0) :
    (s.assign l d).val x = s.val x := by
  have hlx : l ≠ x := fun h => hx (h ▸ hl)
  have hlnx : l ≠ -x := by
    rintro rfl
    exact hx (val_neg_eq_zero.1 hl)
  unfold val
  simp only [assign_trail, List.any_cons, beq_false_of_ne hlx, beq_false_of_ne hlnx,
    Bool.false_or]

end values

/-! ## Reading `nextUnit` -/

section units

variable {s : Internal}

theorem nextUnit_eq_none :
    s.nextUnit = none ↔ ∀ c ∈ s.clauses, c.garbage = false → s.unitOf c.lits = none := by
  unfold nextUnit
  rw [List.findSome?_eq_none_iff]
  refine forall₂_congr fun c _ => ?_
  cases c.garbage <;> simp

theorem nextUnit_eq_some {u : Option Int} (h : s.nextUnit = some u) :
    ∃ c ∈ s.clauses, c.garbage = false ∧ s.unitOf c.lits = some u := by
  obtain ⟨c, hc, hu⟩ := List.exists_of_findSome?_eq_some h
  cases hg : c.garbage
  · exact ⟨c, hc, hg, by simpa [hg] using hu⟩
  · simp [hg] at hu

/-- A clause is unit or falsified when no literal is true and its open literals are at
most one. -/
theorem unitOf_eq_some_iff {c : List Int} {u : Option Int} :
    s.unitOf c = some u ↔ (∀ x ∈ c, s.val x ≠ 1) ∧ c.filter (s.val · == 0) = u.toList := by
  unfold unitOf
  by_cases h : c.any (s.val · == 1) = true
  · rw [if_pos h]
    obtain ⟨x, hx, h1⟩ := List.any_eq_true.1 h
    exact iff_of_false (by simp) fun h' => h'.1 x hx (by simpa using h1)
  · rw [if_neg h]
    have hno : ∀ x ∈ c, s.val x ≠ 1 := by simpa using h
    rw [and_iff_right hno]
    generalize c.filter (s.val · == 0) = f
    rcases f with _ | ⟨l, _ | ⟨l', rest⟩⟩ <;> cases u <;> simp

end units

/-! ## Propagation reaches a fixpoint -/

/-- The literal occurrences that are still open: a measure that each propagated unit
lowers. -/
def openCount (s : Internal) : Nat :=
  (s.clauses.map fun c => (c.lits.filter (s.val · == 0)).length).sum

theorem openCount_le (s : Internal) : s.openCount ≤ s.litCount :=
  List.sum_le_sum fun _ _ => List.length_filter_le _ _

/-- Assigning an open literal of a clause closes at least that occurrence. -/
theorem openCount_assign_lt {s : Internal} {l : Int} (d : Bool) {c : Clause}
    (hc : c ∈ s.clauses) (hl : l ∈ c.lits) (h0 : s.val l = 0) :
    (s.assign l d).openCount < s.openCount := by
  have hsub : ∀ c' : Clause, ((c'.lits.filter ((s.assign l d).val · == 0))).Sublist
      (c'.lits.filter (s.val · == 0)) := fun c' =>
    List.monotone_filter_right _ fun x hx => by
      simp only [beq_iff_eq] at hx ⊢
      by_contra hne; rw [val_assign_of_ne_zero d h0 hne] at hx; exact hne hx
  refine List.sum_lt_sum _ _ (fun c' _ => (hsub c').length_le) ⟨c, hc, ?_⟩
  refine lt_of_le_of_ne (hsub c).length_le fun heq => ?_
  have hmem : l ∈ c.lits.filter (s.val · == 0) := List.mem_filter.2 ⟨hl, by simpa using h0⟩
  rw [← (hsub c).eq_of_length heq] at hmem
  simp [val_assign_self] at hmem

/-- The unit a propagation step assigns is an open literal of a clause. -/
theorem mem_of_nextUnit {s : Internal} {l : Int} (h : s.nextUnit = some (some l)) :
    ∃ c ∈ s.clauses, l ∈ c.lits ∧ s.val l = 0 := by
  obtain ⟨c, hc, -, hcu⟩ := nextUnit_eq_some h
  have hl : l ∈ c.lits.filter (s.val · == 0) := by rw [(unitOf_eq_some_iff.1 hcu).2]; simp
  obtain ⟨hlc, hl0⟩ := List.mem_filter.1 hl
  exact ⟨c, hc, hlc, by simpa using hl0⟩

/-- With more fuel than open occurrences, propagation that ends without a conflict ends at a
fixpoint. -/
theorem propagateFrom_fixpoint (n : Nat) (s : Internal) (hn : s.openCount < n)
    (h : (propagateFrom n s).2 = true) : (propagateFrom n s).1.nextUnit = none := by
  induction n generalizing s with
  | zero => omega
  | succ n ih =>
    unfold propagateFrom at h ⊢
    split <;> rename_i hu <;> simp only [hu] at h
    · exact hu
    · exact absurd h (by decide)
    · obtain ⟨c, hc, hlc, hl0⟩ := mem_of_nextUnit hu
      exact ih _ (lt_of_lt_of_le (openCount_assign_lt false hc hlc hl0) (by omega)) h

/-- `propagate ()` that answers `true` leaves no unit and no falsified clause. -/
theorem propagate_fixpoint (s : Internal) (h : s.propagate.2 = true) :
    s.propagate.1.nextUnit = none :=
  propagateFrom_fixpoint _ _ (Nat.lt_succ_of_le (openCount_le s)) h

/-! ## Propagation inside a closed trail -/

section closed

variable {α t : Internal} {x : Int}

/-- Every literal on `t` being true on a consistent `α`, a literal `t` assigns has the same
value on `α`. -/
theorem val_of_within (hcons : α.Consistent) (hin : ∀ a ∈ t.trail, 0 < α.val a.lit)
    (hx : t.val x ≠ 0) : α.val x = t.val x := by
  rcases val_cases (s := t) x with h | h | h
  · obtain ⟨a, ha, rfl⟩ := val_pos_iff.1 (h ▸ (by decide : (0 : Int) < 1))
    have := hin a ha
    rw [h]; rcases val_cases (s := α) a.lit with h' | h' | h' <;> omega
  · obtain ⟨a, ha, hax⟩ := val_eq_neg_one h
    have := hin a ha
    rw [hax] at this
    rw [h, ← neg_neg x, val_neg hcons (-x)]
    rcases val_cases (s := α) (-x) with h' | h' | h' <;> omega
  · exact absurd h hx

/-- A clause that is unit or falsified on a trail inside a consistent `α`, and neither on `α`,
has its unit true on `α`: the literals `α` leaves open are open on the trail, and the others
have the same value on both. -/
theorem unitOf_within (hcons : α.Consistent) (hin : ∀ a ∈ t.trail, 0 < α.val a.lit)
    {c : List Int} (hα : α.unitOf c = none) {u : Option Int} (hu : t.unitOf c = some u) :
    ∃ l ∈ u, α.val l = 1 := by
  by_contra hnt
  push_neg at hnt
  obtain ⟨hno, hf⟩ := unitOf_eq_some_iff.1 hu
  have htrue : ∀ x ∈ c, α.val x ≠ 1 := fun x hx h1 => by
    by_cases h0 : t.val x = 0
    · have : x ∈ u.toList := hf ▸ List.mem_filter.2 ⟨hx, by simpa using h0⟩
      exact hnt x (Option.mem_toList.1 this) h1
    · exact hno x hx (val_of_within hcons hin h0 ▸ h1)
  have hsub : (c.filter (α.val · == 0)).Sublist u.toList := hf ▸
    List.monotone_filter_right _ fun x hx => by
      simp only [beq_iff_eq] at hx ⊢
      by_contra hne; rw [val_of_within hcons hin hne] at hx; exact hne hx
  obtain ⟨u', hu'⟩ : ∃ u', α.unitOf c = some u' := by
    cases u with
    | none => exact ⟨none, unitOf_eq_some_iff.2 ⟨htrue, List.eq_nil_of_sublist_nil hsub⟩⟩
    | some l =>
      rcases List.sublist_singleton.1 hsub with h | h
      · exact ⟨none, unitOf_eq_some_iff.2 ⟨htrue, h⟩⟩
      · exact ⟨some l, unitOf_eq_some_iff.2 ⟨htrue, h⟩⟩
  rw [hα] at hu'
  cases hu'

/-- Started from literals that are true on a consistent trail `α` closed under propagation,
over the same clauses, propagation never conflicts and assigns only literals true on `α`. -/
theorem propagateFrom_within (hcons : α.Consistent) (hfix : α.nextUnit = none) (n : Nat)
    (t : Internal) (hcl : t.clauses = α.clauses) (hin : ∀ a ∈ t.trail, 0 < α.val a.lit) :
    (propagateFrom n t).2 = true ∧ ∀ a ∈ (propagateFrom n t).1.trail, 0 < α.val a.lit := by
  induction n generalizing t with
  | zero => exact ⟨rfl, hin⟩
  | succ n ih =>
    unfold propagateFrom
    split <;> rename_i hu
    · exact ⟨rfl, hin⟩
    · obtain ⟨c, hc, hg, hcu⟩ := nextUnit_eq_some hu
      obtain ⟨l, hl, -⟩ :=
        unitOf_within hcons hin (nextUnit_eq_none.1 hfix c (hcl ▸ hc) hg) hcu
      cases hl
    · next l =>
      obtain ⟨c, hc, hg, hcu⟩ := nextUnit_eq_some hu
      obtain ⟨l', hl', h1⟩ :=
        unitOf_within hcons hin (nextUnit_eq_none.1 hfix c (hcl ▸ hc) hg) hcu
      cases hl'
      exact ih _ hcl fun a ha => by
        rcases List.mem_cons.1 ha with rfl | ha
        · dsimp only; omega
        · exact hin a ha

end closed

end Internal
end cautical
