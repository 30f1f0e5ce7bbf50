-- How the solver hands its formula out: `traverse_clauses` gives a clause iterator
-- the irredundant clauses, `traverse_constraint` the constraint, and `dump` prints
-- the formula in DIMACS. Literals true at the root satisfy a clause, which is left
-- out; literals false at the root are dropped; the rest are externalized. The
-- loops are proved equal to handing out a list computed first, and that list
-- means what the clauses mean under every assignment that keeps the root units.
import Cautical.LeastConditionalPart
import Cautical.Propagation

namespace cautical

/-- Modelled from the spec: `externalize (lit)` (internal.hpp, not in the source), the
external literal of `lit` through the table `i2e`, with the sign of `lit`. -/
def externalize (i2e : Nat → Int) (lit : Int) : Int :=
  if lit < 0 then -i2e lit.natAbs else i2e lit.natAbs

/-- Handing `es` to a clause iterator in order, up to the first that it refuses. The
iterator's `clause` is a function of its state and the clause. -/
def feed {σ : Type} (it : σ → List Int → σ × Bool) : List (List Int) → σ → σ × Bool
  | [], st => (st, true)
  | e :: es, st =>
    let r := it st e
    if r.2 then feed it es r.1 else (r.1, false)

theorem feed_singleton {σ : Type} (it : σ → List Int → σ × Bool) (e : List Int) (st : σ) :
    feed it [e] st = it st e := by
  simp only [feed]
  rcases it st e with ⟨_, _ | _⟩ <;> rfl

namespace Internal

/-! ## The model -/

/-- Modelled from the spec: `fixed (lit)` (internal.hpp, not in the source), the value of
`lit` when its variable is assigned at the root, and `0` otherwise. -/
def fixedVal (s : Internal) (lit : Int) : Int := (s.backtrack 0).val lit

/-- The loop over the literals of one clause in `traverse_clauses` and
`traverse_constraint`: a literal true at the root ends it with the clause satisfied
(`none`), one false at the root is passed over, and the others are externalized. -/
def exportLits (s : Internal) (i2e : Nat → Int) : List Int → List Int → Option (List Int)
  | [], eclause => some eclause
  | ilit :: rest, eclause =>
    let tmp := s.fixedVal ilit
    if tmp > 0 then none
    else if tmp < 0 then exportLits s i2e rest eclause
    else exportLits s i2e rest (eclause ++ [externalize i2e ilit])

section traverse

variable {σ : Type} (s : Internal) (i2e : Nat → Int) (it : σ → List Int → σ × Bool)

/-- The loop of `traverse_clauses` over `clauses`: garbage and redundant clauses are
skipped, and a satisfied one is not handed out. -/
def traverseLoop : List Clause → σ → σ × Bool
  | [], st => (st, true)
  | c :: cs, st =>
    if c.garbage then traverseLoop cs st
    else if c.redundant then traverseLoop cs st
    else match s.exportLits i2e c.lits [] with
      | none => traverseLoop cs st
      | some e =>
        let r := it st e
        if !r.2 then (r.1, false) else traverseLoop cs r.1

/-- `traverse_clauses (it)`: the empty clause alone when `unsat`. -/
def traverseClauses (st : σ) : σ × Bool :=
  if s.unsat then it st [] else traverseLoop s i2e it s.clauses st

/-- `traverse_constraint (it)`, with the members `constraint` and `unsat_constraint`. -/
def traverseConstraint (constraint : List Int) (unsatConstraint : Bool) (st : σ) : σ × Bool :=
  if constraint.isEmpty && !unsatConstraint then (st, true)
  else if s.unsat then it st []
  else match s.exportLits i2e constraint [] with
    | none => (st, true)
    | some e =>
      let r := it st e
      if !r.2 then (r.1, false) else (r.1, true)

end traverse

/-- `dump ()`: the header `p cnf max_var m` and the lines printed after it, each without
its closing `0`: the root units, the clauses that are not garbage, and the assumptions. -/
def dump (s : Internal) (assumptions : List Int) : (Nat × Nat) × List (List Int) :=
  let vars := (List.range s.maxVar).map fun i => ((i + 1 : Nat) : Int)
  let m := vars.foldl (fun m idx => if s.fixedVal idx ≠ 0 then m + 1 else m) assumptions.length
  let m := s.clauses.foldl (fun m c => if !c.garbage then m + 1 else m) m
  ((s.maxVar, m),
    vars.filterMap (fun idx =>
      let tmp := s.fixedVal idx
      if tmp ≠ 0 then some [if tmp < 0 then -idx else idx] else none) ++
    (s.clauses.filter (!·.garbage)).map (·.lits) ++ assumptions.map ([·]))

/-! ## What is handed out -/

/-- What one clause comes out as: nothing when a literal is true at the root, and
otherwise its literals that are open at the root, externalized. -/
def exportClause (s : Internal) (i2e : Nat → Int) (c : List Int) : Option (List Int) :=
  if c.any (0 < s.fixedVal ·) then none
  else some ((c.filter (s.fixedVal · = 0)).map (externalize i2e))

/-- The clauses `traverse_clauses` hands out, in order. -/
def exportedClauses (s : Internal) (i2e : Nat → Int) : List (List Int) :=
  if s.unsat then [[]]
  else (s.clauses.filter fun c => !c.garbage && !c.redundant).filterMap (s.exportClause i2e ·.lits)

/-- The clauses `traverse_constraint` hands out: none for an empty constraint that is not
falsified. -/
def exportedConstraint (s : Internal) (i2e : Nat → Int) (constraint : List Int)
    (unsatConstraint : Bool) : List (List Int) :=
  if constraint.isEmpty && !unsatConstraint then []
  else if s.unsat then [[]]
  else (s.exportClause i2e constraint).toList

theorem exportLits_eq (s : Internal) (i2e : Nat → Int) (c acc : List Int) :
    s.exportLits i2e c acc = (s.exportClause i2e c).map (acc ++ ·) := by
  induction c generalizing acc with
  | nil => simp [exportLits, exportClause]
  | cons l c ih =>
    unfold exportLits exportClause
    simp only [ih]
    by_cases hp : 0 < s.fixedVal l
    · simp [hp]
    by_cases hn : s.fixedVal l < 0
    · simp [hp, hn, exportClause, show s.fixedVal l ≠ 0 by omega]
    · have h0 : s.fixedVal l = 0 := by omega
      simp [h0, exportClause]
      split_ifs <;> simp

theorem exportLits_nil (s : Internal) (i2e : Nat → Int) (c : List Int) :
    s.exportLits i2e c [] = s.exportClause i2e c := by
  simp [exportLits_eq]

theorem traverseLoop_eq_feed {σ : Type} (s : Internal) (i2e : Nat → Int)
    (it : σ → List Int → σ × Bool) (cs : List Clause) (st : σ) :
    traverseLoop s i2e it cs st =
      feed it ((cs.filter fun c => !c.garbage && !c.redundant).filterMap
        (s.exportClause i2e ·.lits)) st := by
  induction cs generalizing st with
  | nil => rfl
  | cons c cs ih =>
    unfold traverseLoop
    rw [exportLits_nil]
    by_cases hg : c.garbage = true
    · simp [hg, ih]
    by_cases hr : c.redundant = true
    · simp [hg, hr, ih]
    have hkeep : (!c.garbage && !c.redundant) = true := by simp_all
    simp only [if_neg hg, if_neg hr, List.filter_cons, hkeep, if_true]
    cases he : s.exportClause i2e c.lits with
    | none => simp [List.filterMap_cons, he, ih]
    | some e =>
      simp only [List.filterMap_cons, he, feed]
      cases (it st e).2 <;> simp [ih]

/-- `traverse_clauses` hands its iterator exactly `exportedClauses`, in order, up to the
first it refuses, and `traverse_constraint` exactly `exportedConstraint`; each answers
whether the iterator took them all. -/
theorem traverse_eq_feed {σ : Type} (s : Internal) (i2e : Nat → Int)
    (it : σ → List Int → σ × Bool) (constraint : List Int) (unsatConstraint : Bool) (st : σ) :
    s.traverseClauses i2e it st = feed it (s.exportedClauses i2e) st ∧
      s.traverseConstraint i2e it constraint unsatConstraint st =
        feed it (s.exportedConstraint i2e constraint unsatConstraint) st := by
  constructor
  · unfold traverseClauses exportedClauses
    split_ifs
    · exact (feed_singleton it [] st).symm
    · exact traverseLoop_eq_feed s i2e it s.clauses st
  · unfold traverseConstraint exportedConstraint
    split_ifs
    · rfl
    · exact (feed_singleton it [] st).symm
    · rw [exportLits_nil]
      cases s.exportClause i2e constraint with
      | none => rfl
      | some e =>
        rw [Option.toList_some, feed_singleton]
        dsimp only
        rcases it st e with ⟨_, _ | _⟩ <;> rfl

/-! ## What the handed-out clauses mean -/

section meaning

variable {s : Internal} {i2e : Nat → Int} {τ τₑ : Assignment}

/-- A literal false at the root has its negation true there. -/
theorem fixedVal_neg_pos {l : Int} (h : s.fixedVal l < 0) : 0 < s.fixedVal (-l) := by
  have h1 : (s.backtrack 0).val l = -1 := by
    rcases val_cases (s := s.backtrack 0) l with h1 | h1 | h1 <;> unfold fixedVal at h <;> omega
  obtain ⟨a, ha, hal⟩ := val_eq_neg_one h1
  exact val_pos_iff.2 ⟨a, ha, hal⟩

/-- A literal of a clause with no literal true at the root, true under an assignment
that keeps the root units, is open at the root. -/
theorem fixedVal_eq_zero (hroot : ∀ l, 0 < s.fixedVal l → litTrue τ l = true) {l : Int}
    (hnp : ¬ 0 < s.fixedVal l) (hτ : litTrue τ l = true) : s.fixedVal l = 0 := by
  by_contra h0
  have hn : s.fixedVal l < 0 := by omega
  have hl0 : l ≠ 0 := by rintro rfl; exact hnp (by simpa using fixedVal_neg_pos hn)
  have := hroot _ (fixedVal_neg_pos hn)
  rw [litTrue_neg τ hl0, hτ] at this
  cases this

/-- Under an assignment that keeps the root units, a clause is true exactly when what
it comes out as is true under the external assignment that induces it. -/
theorem exportClause_true (hroot : ∀ l, 0 < s.fixedVal l → litTrue τ l = true)
    (hext : ∀ l, litTrue τₑ (externalize i2e l) = litTrue τ l) (c : List Int) :
    clauseTrue τ c = true ↔ ∀ e ∈ (s.exportClause i2e c).toList, clauseTrue τₑ e = true := by
  unfold exportClause
  split_ifs with hsat
  · obtain ⟨l, hl, hp⟩ := List.any_eq_true.1 hsat
    simp only [Option.toList_none, List.not_mem_nil, false_implies, implies_true, iff_true]
    exact List.any_eq_true.2 ⟨l, hl, hroot l (by simpa using hp)⟩
  · simp only [Option.toList_some, List.mem_singleton, forall_eq, clauseTrue, List.any_eq_true,
      List.mem_map, List.mem_filter]
    constructor
    · rintro ⟨l, hl, hτ⟩
      have hnp : ¬ 0 < s.fixedVal l := fun hp => hsat (List.any_eq_true.2 ⟨l, hl, by simpa⟩)
      exact ⟨_, ⟨l, ⟨hl, by simpa using fixedVal_eq_zero hroot hnp hτ⟩, rfl⟩, by rw [hext]; exact hτ⟩
    · rintro ⟨_, ⟨l, ⟨hl, -⟩, rfl⟩, hτ⟩
      exact ⟨l, hl, by rwa [hext] at hτ⟩

/-- When `unsat` is not set, the irredundant clauses that are not garbage all hold under
an assignment that keeps the root units exactly when every clause `traverse_clauses`
hands out holds under the external assignment that induces it; and so for a constraint
that is not empty, or is falsified. -/
theorem exported_equiv (hroot : ∀ l, 0 < s.fixedVal l → litTrue τ l = true)
    (hext : ∀ l, litTrue τₑ (externalize i2e l) = litTrue τ l) (hu : s.unsat = false)
    (constraint : List Int) (unsatConstraint : Bool)
    (hc : constraint ≠ [] ∨ unsatConstraint = true) :
    ((∀ c ∈ s.clauses, c.garbage = false → c.redundant = false → clauseTrue τ c.lits = true) ↔
      ∀ e ∈ s.exportedClauses i2e, clauseTrue τₑ e = true) ∧
    (clauseTrue τ constraint = true ↔
      ∀ e ∈ s.exportedConstraint i2e constraint unsatConstraint, clauseTrue τₑ e = true) := by
  constructor
  · simp only [exportedClauses, hu, Bool.false_eq_true, if_false]
    constructor
    · intro h e he
      obtain ⟨c, hc, he⟩ := List.mem_filterMap.1 he
      obtain ⟨hc, hk⟩ := List.mem_filter.1 hc
      simp only [Bool.and_eq_true, Bool.not_eq_true'] at hk
      exact (exportClause_true hroot hext c.lits).1 (h c hc hk.1 hk.2) e (by simp [he])
    · intro h c hc hg hr
      refine (exportClause_true hroot hext c.lits).2 fun e he => h e ?_
      exact List.mem_filterMap.2 ⟨c, List.mem_filter.2 ⟨hc, by simp [hg, hr]⟩, by simpa using he⟩
  · have hne : (constraint.isEmpty && !unsatConstraint) = false := by
      rcases hc with hc | hc
      · simp [List.isEmpty_iff, hc]
      · simp [hc]
    simp only [exportedConstraint, hne, hu, Bool.false_eq_true, if_false]
    exact exportClause_true hroot hext constraint

end meaning

/-- `x1` false at the root, under the clauses `(x1 ∨ x2)` and `(-x1 ∨ x2)`. -/
def rootState : Internal := atTrail plainOpts 2 [[1, 2], [-1, 2]] [⟨-1, 0, false⟩] 0 []

theorem exported_equiv_rootState :
    (∀ l, 0 < rootState.fixedVal l → litTrue (fun _ => false) l = true) ∧
    (∀ l, litTrue (fun _ => false) (externalize (fun v => (v : Int)) l) =
      litTrue (fun _ => false) l) ∧
    rootState.unsat = false ∧ ([1] ≠ [] ∨ false = true) ∧
    (((∀ c ∈ rootState.clauses, c.garbage = false → c.redundant = false →
        clauseTrue (fun _ => false) c.lits = true) ↔
      ∀ e ∈ rootState.exportedClauses (fun v => (v : Int)), clauseTrue (fun _ => false) e = true) ∧
    (clauseTrue (fun _ => false) [1] = true ↔
      ∀ e ∈ rootState.exportedConstraint (fun v => (v : Int)) [1] false,
        clauseTrue (fun _ => false) e = true)) := by
  have hroot : ∀ l, 0 < rootState.fixedVal l → litTrue (fun _ => false) l = true := by
    intro l h
    obtain ⟨a, ha, rfl⟩ := val_pos_iff.1 h
    rw [show (rootState.backtrack 0).trail = [⟨-1, 0, false⟩] from rfl,
      List.mem_singleton] at ha
    subst ha
    rfl
  have hext : ∀ l, litTrue (fun _ => false) (externalize (fun v => (v : Int)) l) =
      litTrue (fun _ => false) l := fun l => by
    rw [show externalize (fun v => (v : Int)) l = l by
      unfold externalize; dsimp only; split_ifs <;> omega]
  exact ⟨hroot, hext, rfl, .inl (by decide),
    exported_equiv hroot hext rfl [1] false (.inl (by decide))⟩

end Internal
end cautical
