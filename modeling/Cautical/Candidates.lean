-- What becomes of a candidate clause once `least_conditional_part` has chosen it.
-- Within its length bound the triviality filter `check_if_clause_trivial`
-- discards only clauses that the clause database and the root units already
-- entail: it assumes their negations in turn, and a true literal or a conflict
-- means that every model satisfies the clause.
import Cautical.Propagation
import Cautical.LeastConditionalPart

namespace cautical
namespace Internal

/-! ## Propagation keeps what a model makes true -/

/-- `τ` makes every literal of the trail true. -/
def TrailTrue (τ : Assignment) (s : Internal) : Prop := ∀ a ∈ s.trail, litTrue τ a.lit = true

/-- `τ` satisfies every clause that is not garbage, learned ones included: the clauses that
`propagate` reads. -/
def ClausesTrue (τ : Assignment) (s : Internal) : Prop :=
  ∀ c ∈ s.clauses, c.garbage = false → clauseTrue τ c.lits = true

section sound

variable {τ : Assignment} {s : Internal}

theorem ClausesTrue.of_clauses {t : Internal} (h : ClausesTrue τ s) (ht : t.clauses = s.clauses) :
    ClausesTrue τ t :=
  fun c hc hg => h c (ht ▸ hc) hg

theorem TrailTrue.pos (h : TrailTrue τ s) {x : Int} (hx : 0 < s.val x) : litTrue τ x = true := by
  obtain ⟨a, ha, rfl⟩ := val_pos_iff.1 hx
  exact h a ha

theorem TrailTrue.neg (h : TrailTrue τ s) {x : Int} (hx : s.val x = -1) :
    litTrue τ x = false := by
  obtain ⟨a, ha, hax⟩ := val_eq_neg_one hx
  have hx0 : x ≠ 0 := by
    rintro rfl
    have := val_pos_iff.2 ⟨a, ha, by simpa using hax⟩
    omega
  have := h a ha
  rw [hax, litTrue_neg τ hx0] at this
  simpa using this

theorem TrailTrue.cons (h : TrailTrue τ s) {t : Internal} {a : Assigned}
    (ha : litTrue τ a.lit = true) (ht : t.trail = a :: s.trail) : TrailTrue τ t := by
  intro b hb
  rw [ht] at hb
  rcases List.mem_cons.1 hb with rfl | hb
  · exact ha
  · exact h b hb

theorem TrailTrue.assign (h : TrailTrue τ s) {l : Int} (hl : litTrue τ l = true) (d : Bool) :
    TrailTrue τ (s.assign l d) :=
  h.cons (a := ⟨l, s.level, d⟩) hl rfl

theorem TrailTrue.searchAssumeDecision (h : TrailTrue τ s) {l : Int} (hl : litTrue τ l = true) :
    TrailTrue τ (s.searchAssumeDecision l) :=
  h.cons (a := ⟨l, s.level + 1, true⟩) hl rfl

/-- Under a model of the clause and of the trail, a clause is never falsified, and the
literal it is unit on is true. -/
theorem unitOf_sound (ht : TrailTrue τ s) {c : List Int} (hc : clauseTrue τ c = true)
    {u : Option Int} (h : s.unitOf c = some u) : ∃ l, u = some l ∧ litTrue τ l = true := by
  obtain ⟨hno, hf⟩ := unitOf_eq_some_iff.1 h
  obtain ⟨x, hx, hτx⟩ := List.any_eq_true.1 hc
  have h0 : s.val x = 0 := by
    rcases val_cases (s := s) x with h1 | h1 | h1
    · exact absurd h1 (hno x hx)
    · rw [ht.neg h1] at hτx; cases hτx
    · exact h1
  have hmem : x ∈ u.toList := hf ▸ List.mem_filter.2 ⟨hx, by simpa using h0⟩
  cases u with
  | none => simp at hmem
  | some l =>
    simp only [Option.toList_some, List.mem_singleton] at hmem
    exact ⟨x, hmem ▸ rfl, hτx⟩

/-- Propagation under a model of the clauses and of the trail never conflicts, and the
model makes every literal it assigns true. -/
theorem propagateFrom_sound (hc : ClausesTrue τ s) (ht : TrailTrue τ s) (n : Nat) :
    (propagateFrom n s).2 = true ∧ TrailTrue τ (propagateFrom n s).1 := by
  induction n generalizing s with
  | zero => exact ⟨rfl, ht⟩
  | succ n ih =>
    unfold propagateFrom
    split
    · exact ⟨rfl, ht⟩
    · next h =>
      obtain ⟨c, hc', hg, hu⟩ := nextUnit_eq_some h
      obtain ⟨l, hl, -⟩ := unitOf_sound ht (hc c hc' hg) hu
      cases hl
    · next l h =>
      obtain ⟨c, hc', hg, hu⟩ := nextUnit_eq_some h
      obtain ⟨l', hl, hτ⟩ := unitOf_sound ht (hc c hc' hg) hu
      cases hl
      exact ih (hc.of_clauses rfl) (ht.assign hτ false)

theorem propagate_sound (hc : ClausesTrue τ s) (ht : TrailTrue τ s) :
    s.propagate.2 = true ∧ TrailTrue τ s.propagate.1 :=
  propagateFrom_sound (s := s.log .propagate) (hc.of_clauses rfl) ht _

/-- The loop of `check_if_clause_trivial`, under a model of the clauses and of the trail
that falsifies the clause, finds no true literal and no conflict. -/
theorem trivialLoop_sound (c : List Int) (h0 : ∀ l ∈ c, l ≠ 0) (hf : clauseTrue τ c = false)
    (hc : ClausesTrue τ s) (ht : TrailTrue τ s) : (trivialLoop c s).2 = false := by
  induction c generalizing s with
  | nil => rfl
  | cons l c ih =>
    have hl : litTrue τ l = false := by
      simpa using List.any_eq_false.1 hf l (List.mem_cons_self l c)
    have hf' : clauseTrue τ c = false :=
      List.any_eq_false.2 fun x hx => List.any_eq_false.1 hf x (List.mem_cons_of_mem l hx)
    have h0' : ∀ x ∈ c, x ≠ 0 := fun x hx => h0 x (List.mem_cons_of_mem l hx)
    unfold trivialLoop
    dsimp only
    by_cases hp : s.val l > 0
    · rw [ht.pos hp] at hl; cases hl
    rw [if_neg hp]
    by_cases hn : s.val l < 0
    · rw [if_pos hn]; exact ih h0' hf' hc ht
    rw [if_neg hn]
    have hneg : litTrue τ (-1 * l) = true := by
      rw [show -1 * l = -l by omega, litTrue_neg τ (h0 l (List.mem_cons_self l c)), hl]; rfl
    have hs := propagate_sound (s := s.searchAssumeDecision (-1 * l)) (hc.of_clauses rfl)
      (ht.searchAssumeDecision hneg)
    rw [if_pos hs.1]
    exact ih h0' hf' (hc.of_clauses (by simp)) hs.2

end sound

/-! ## What the triviality filter discards -/

/-- Within the length bound, what `check_if_clause_trivial` discards is entailed: every
assignment that satisfies the clauses that are not garbage, learned ones included, and
makes the root-level assignments true, satisfies it. -/
theorem checkIfClauseTrivial_entailed (s : Internal) (c : List Int)
    (hlen : (c.length : Int) ≤ s.opts.globalmaxlen) (h0 : ∀ l ∈ c, l ≠ 0)
    (htriv : (s.checkIfClauseTrivial c).2 = true) (τ : Assignment) (hc : ClausesTrue τ s)
    (hroot : ∀ a ∈ s.trail, a.level = 0 → litTrue τ a.lit = true) : clauseTrue τ c = true := by
  unfold checkIfClauseTrivial at htriv
  rw [if_neg (by omega)] at htriv
  have ht : TrailTrue τ (s.backtrack 0) := fun a ha => by
    obtain ⟨ha, h0⟩ := List.mem_filter.1 ha
    exact hroot a ha (by simpa using h0)
  by_contra hf
  have := trivialLoop_sound (s := s.backtrack 0) c h0 (by simpa using hf) (hc.of_clauses rfl) ht
  dsimp only at htriv
  rw [this] at htriv
  cases htriv

/-- `(x1 ∨ x2)` at the root: assuming `-x1` makes `x2` true, so the clause is trivial. -/
def binaryState : Internal := atTrail plainOpts 2 [[1, 2]] [] 0 []

theorem checkIfClauseTrivial_entailed_binaryState :
    ((([1, 2] : List Int).length : Int) ≤ binaryState.opts.globalmaxlen) ∧
      (∀ l ∈ ([1, 2] : List Int), l ≠ 0) ∧ (binaryState.checkIfClauseTrivial [1, 2]).2 = true ∧
      ClausesTrue (fun _ => true) binaryState ∧
      (∀ a ∈ binaryState.trail, a.level = 0 → litTrue (fun _ => true) a.lit = true) ∧
      clauseTrue (fun _ => true) [1, 2] = true := by
  have hc : ClausesTrue (fun _ => true) binaryState := by
    intro c hc _
    simp only [binaryState, atTrail, List.map_cons, List.map_nil, List.mem_singleton] at hc
    subst hc
    rfl
  have hroot : ∀ a ∈ binaryState.trail, a.level = 0 → litTrue (fun _ => true) a.lit = true :=
    fun a ha => by simp [binaryState, atTrail] at ha
  exact ⟨by decide, by decide, by decide, hc, hroot,
    checkIfClauseTrivial_entailed binaryState [1, 2] (by decide) (by decide) (by decide) _ hc hroot⟩

end Internal
end cautical
