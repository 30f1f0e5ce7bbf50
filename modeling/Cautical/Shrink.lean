-- The helpers that `least_conditional_part` calls between the scan and the
-- clause assembly: the orderings of `alpha_a`, the two set covers, and the
-- greedy, binary-clause and propagation strategies that shrink the clause.
import Mathlib.Data.List.Dedup
import Cautical.Collab

namespace cautical

/-! ## The set covers -/

/-- `greedySetCoverSpecial`: for each literal of `curr_global_try` in order it takes the
subset at that literal's position in `alpha_a` (`alpha_a.size ()` when it is absent), and
returns the positions taken and the elements of `total_elements` they leave uncovered.
An out-of-range position reads no subset here; in the source it reads past the vector. -/
def greedySetCoverSpecial (currGlobalTry alphaA : List Int) (subsets : List (List Int))
    (total : List Int) : List Nat × List Int :=
  let chosen := currGlobalTry.map fun learn => alphaA.indexOf learn
  let covered := chosen.flatMap fun i => subsets.getD i []
  (chosen, total.dedup.filter (· ∉ covered))

/-- The subset that adds the most elements not yet covered (the first of those), if any
adds one. -/
def bestSubset (subsets : List (List Int)) (covered : List Int) : Option Nat :=
  ((List.range subsets.length).foldl (fun (best : Option Nat × Nat) i =>
    let n := ((subsets.getD i []).filter (· ∉ covered)).length
    if n > best.2 then (some i, n) else best) (none, 0)).1

/-- The rounds of `greedySetCover`. Each round covers a new element of the union of the
subsets, so that many rounds, plus one, are enough. -/
def greedyRounds (subsets : List (List Int)) (total : List Int) :
    Nat → List Nat × List Int → List Nat × List Int
  | 0, acc => acc
  | n + 1, (chosen, covered) =>
    if covered.length < total.length then
      match bestSubset subsets covered with
      | none => (chosen, covered)
      | some i => greedyRounds subsets total n
          (chosen ++ [i], covered ++ (subsets.getD i []).filter (· ∉ covered))
    else (chosen, covered)

/-- `greedySetCover`: repeatedly takes the subset that adds the most uncovered elements. -/
def greedySetCover (subsets : List (List Int)) (total : List Int) : List Nat × List Int :=
  let r := greedyRounds subsets total ((subsets.map (·.length)).sum + 1) ([], [])
  (r.1, total.dedup.filter (· ∉ r.2))

namespace Internal

/-! ## Ordering `alpha_a` -/

/-- `compare_alpha_a (a, b)`: assumes `a` from the root and answers whether `b` became
true. A conflict meets only `assert (false)` in the source, and the answer is `false`. -/
def compareAlphaA (s : Internal) (a b : Int) : Internal × Bool :=
  let r := ((s.backtrack 0).searchAssumeDecision a).propagate
  (r.1, r.2 && decide (r.1.val b > 0))

/-- One comparison of `imp_sort_alpha_a`: positions `i < j` swap when `alpha_a [j]`
makes `alpha_a [i]` true. -/
def impSortStep (i : Nat) (p : Internal × List Int) (j : Nat) : Internal × List Int :=
  let r := p.1.compareAlphaA (p.2.getD j 0) (p.2.getD i 0)
  (r.1, if r.2 then (p.2.set j (p.2.getD i 0)).set i (p.2.getD j 0) else p.2)

/-- `imp_sort_alpha_a`: the double loop over positions `i < j`. -/
def impSortAlphaA (s : Internal) (alphaA : List Int) : Internal × List Int :=
  (List.range alphaA.length).foldl (fun p i =>
    (List.range' (i + 1) (alphaA.length - (i + 1))).foldl (impSortStep i) p) (s, alphaA)

/-- `random_sort_alpha_a`: `std::shuffle` with a fresh engine. -/
def randomSortAlphaA (s : Internal) (alphaA : List Int) : Internal × List Int :=
  ({ s with shuffles := s.shuffles + 1 }, s.shuffle s.shuffles alphaA)

/-- `custom_sort_alpha_a`. -/
def customSortAlphaA (s : Internal) (alphaA : List Int) : Internal × List Int :=
  if s.opts.globalalphaasort then s.impSortAlphaA alphaA
  else if s.opts.globalalphaarandom then s.randomSortAlphaA alphaA
  else (s, alphaA)

/-! ## The greedy strategies -/

/-- The loop of `greedy_sort_alpha_a` over `alpha_a`: a literal that is not `FIXED` has its
negation assumed from the root. A conflict is analyzed, and the loop stops when that sets
`unsat` or when the next propagation fails again. Otherwise the literals of `neg_alpha_c`
made false form the literal's coverage set, kept with the literal when not empty. -/
def greedyCoverSets (negAlphaC : List Int) :
    List Int → Internal × List Int × List (List Int) → Internal × List Int × List (List Int)
  | [], acc => acc
  | a :: rest, (s, useful, sets) =>
    if s.fixed a then greedyCoverSets negAlphaC rest (s, useful, sets)
    else
      let r := ((s.backtrack 0).searchAssumeDecision (-a)).propagate
      if r.2 then
        let propagated := negAlphaC.filter (r.1.val · < 0)
        if propagated.isEmpty then greedyCoverSets negAlphaC rest (r.1, useful, sets)
        else greedyCoverSets negAlphaC rest (r.1, useful ++ [a], sets ++ [propagated])
      else
        let s2 := r.1.analyze
        if s2.unsat then (s2, useful, sets)
        else
          let r3 := s2.propagate
          if r3.2 then greedyCoverSets negAlphaC rest (r3.1, useful, sets)
          else (r3.1.analyze, useful, sets)

/-- `greedy_sort_alpha_a`: the coverage sets, then `greedySetCoverSpecial` on the member
`global_try`, whose positions pick from `alpha_a_useful`. A position past its end reads
nothing meaningful in the source; here it reads `0`. -/
def greedySortAlphaA (s : Internal) (alphaA negAlphaC : List Int) :
    Internal × List Int × List Int :=
  let r := greedyCoverSets negAlphaC alphaA (s, [], [])
  let s2 := r.1.backtrack 0
  let c := greedySetCoverSpecial s2.globalTry alphaA r.2.2 negAlphaC
  (s2, c.1.map (r.2.1.getD · 0), c.2)

/-- The loop of `greedy_sort_alpha_a_special` over `global_try`. Each literal found in
`alpha_a` is kept; the negation of each literal that is neither `FIXED` nor already false
is assumed on a new level, with no backtrack in between. A conflict ends the function
with two empty vectors (`none`). -/
def specialLoop (alphaA : List Int) : List Int → Internal × List Int → Internal × Option (List Int)
  | [], (s, final) => (s, some final)
  | learn :: rest, (s, final) =>
    let final := if learn ∈ alphaA then final ++ [learn] else final
    if s.fixed learn then specialLoop alphaA rest (s, final)
    else if s.val (-learn) > 0 then specialLoop alphaA rest (s, final)
    else
      let r := (s.searchAssumeDecision (-learn)).propagate
      if r.2 then specialLoop alphaA rest (r.1, final)
      else
        let r3 := r.1.analyze.propagate
        (if r3.2 then r3.1 else r3.1.analyze, none)

/-- `greedy_sort_alpha_a_special`: the kept literals of `global_try` as the useful
antecedents, and an empty residual. The set it fills from `neg_alpha_c` only feeds an
`assert`, which the model leaves out. -/
def greedySortAlphaASpecial (s : Internal) (alphaA : List Int) :
    Internal × List Int × List Int :=
  match specialLoop alphaA s.globalTry (s.backtrack 0, []) with
  | (s', some final) => (s'.backtrack 0, final, [])
  | (s', none) => (s', [], [])

/-! ## Shrinking by binary clauses and by propagation -/

/-- Modelled from the spec: `watches (lit)` (not in the source), the clauses watching `lit`,
taken as those with `lit` among their first two literals. -/
def watches (s : Internal) (lit : Int) : List Clause :=
  s.clauses.filter fun c => !c.garbage && (c.lits.take 2).contains lit

/-- The inner test of `bcp_shrink`: erases the first literal `l` of the residual such
that the watched clause is the binary clause `{a, -l}`. -/
def bcpErase (a : Int) (c : Clause) : List Int → Option (List Int)
  | [] => none
  | l :: rest =>
    if c.lits.length = 2 && ((c.lits.getD 0 0 == a && c.lits.getD 1 0 == -l) ||
        (c.lits.getD 1 0 == a && c.lits.getD 0 0 == -l)) then some rest
    else (bcpErase a c rest).map (l :: ·)

/-- `bcp_shrink`. It takes `alpha_a_useful` and `neg_alpha_c_minus_c0` by value, so what
it computes, returned here, never reaches its caller. -/
def bcpShrink (s : Internal) (alphaA useful residual : List Int) : List Int × List Int :=
  alphaA.foldl (fun (p : List Int × List Int) a =>
    if s.fixed a then p
    else
      let r := (s.watches a).foldl (fun (q : Bool × List Int) c =>
        match bcpErase a c q.2 with
        | some res => (true, res)
        | none => q) (false, p.2)
      (if r.1 then p.1 ++ [a] else p.1, r.2)) (useful, residual)

/-- The loop of `propagate_shrink` over `alpha_a`: each literal that is not `FIXED` has its
negation assumed from the root; the residual literals made false are erased, and the
literal is kept when it erased one. After a conflict a second failing propagation ends
the function with `false` (`.inr`). -/
def shrinkLoop : List Int → Internal × List Int × List Int →
    (Internal × List Int × List Int) ⊕ Internal
  | [], acc => .inl acc
  | a :: rest, (s, useful, residual) =>
    if s.fixed a then shrinkLoop rest (s, useful, residual)
    else
      let r := ((s.backtrack 0).searchAssumeDecision (-a)).propagate
      if r.2 then
        let kept := residual.filter (r.1.val · ≥ 0)
        shrinkLoop rest (r.1, if kept.length < residual.length then useful ++ [a] else useful,
          kept)
      else
        let r3 := r.1.analyze.propagate
        if r3.2 then shrinkLoop rest (r3.1, useful, residual) else .inr r3.1

/-- `propagate_shrink`. Its copies of `alpha_a_useful` and `neg_alpha_c_minus_c0` are taken
by value and dropped. It returns `false` after a conflict it could not repair
(`some false`), and on its normal path it ends with no `return` statement (`none`). -/
def propagateShrink (s : Internal) (alphaA useful residual : List Int) :
    Internal × Option Bool :=
  match shrinkLoop alphaA (s, useful, residual) with
  | .inl (s', _, _) => (s'.backtrack 0, none)
  | .inr s' => (s', some false)

/-! ## None of them touches `globalmarks` -/

@[simp] theorem impSortAlphaA_globalmarks (s : Internal) (alphaA : List Int) :
    (s.impSortAlphaA alphaA).1.globalmarks = s.globalmarks := by
  have step : ∀ i (p : Internal × List Int) j,
      (impSortStep i p j).1.globalmarks = p.1.globalmarks := by
    intro i p j; simp [impSortStep, compareAlphaA]
  have inner : ∀ i (js : List Nat) (p : Internal × List Int),
      (js.foldl (impSortStep i) p).1.globalmarks = p.1.globalmarks := by
    intro i js; induction js with
    | nil => intro p; rfl
    | cons j js ih => intro p; rw [List.foldl_cons, ih, step]
  have outer : ∀ (is : List Nat) (p : Internal × List Int),
      (is.foldl (fun p i => (List.range' (i + 1) (alphaA.length - (i + 1))).foldl
        (impSortStep i) p) p).1.globalmarks = p.1.globalmarks := by
    intro is; induction is with
    | nil => intro p; rfl
    | cons i is ih => intro p; rw [List.foldl_cons, ih, inner]
  exact outer _ _

@[simp] theorem customSortAlphaA_globalmarks (s : Internal) (alphaA : List Int) :
    (s.customSortAlphaA alphaA).1.globalmarks = s.globalmarks := by
  unfold customSortAlphaA; split_ifs <;> simp [randomSortAlphaA]

theorem greedyCoverSets_globalmarks (neg : List Int) (l : List Int)
    (acc : Internal × List Int × List (List Int)) :
    (greedyCoverSets neg l acc).1.globalmarks = acc.1.globalmarks := by
  induction l generalizing acc with
  | nil => rfl
  | cons a rest ih =>
    obtain ⟨s, u, ss⟩ := acc
    unfold greedyCoverSets
    dsimp only
    split_ifs <;> simp only [ih, propagate_globalmarks, analyze_globalmarks, backtrack_globalmarks,
      searchAssumeDecision_globalmarks]

@[simp] theorem greedySortAlphaA_globalmarks (s : Internal) (alphaA neg : List Int) :
    (s.greedySortAlphaA alphaA neg).1.globalmarks = s.globalmarks := by
  simp [greedySortAlphaA, greedyCoverSets_globalmarks]

theorem specialLoop_globalmarks (alphaA l : List Int) (acc : Internal × List Int) :
    (specialLoop alphaA l acc).1.globalmarks = acc.1.globalmarks := by
  induction l generalizing acc with
  | nil => rfl
  | cons a rest ih =>
    obtain ⟨s, f⟩ := acc
    unfold specialLoop
    dsimp only
    split_ifs <;> simp only [ih, propagate_globalmarks, analyze_globalmarks, backtrack_globalmarks,
      searchAssumeDecision_globalmarks]

@[simp] theorem greedySortAlphaASpecial_globalmarks (s : Internal) (alphaA : List Int) :
    (s.greedySortAlphaASpecial alphaA).1.globalmarks = s.globalmarks := by
  unfold greedySortAlphaASpecial
  have := specialLoop_globalmarks alphaA s.globalTry (s.backtrack 0, [])
  split <;> simp_all

theorem shrinkLoop_globalmarks (l : List Int) (acc : Internal × List Int × List Int) :
    (shrinkLoop l acc).elim (·.1.globalmarks) (·.globalmarks) = acc.1.globalmarks := by
  induction l generalizing acc with
  | nil => rfl
  | cons a rest ih =>
    obtain ⟨s, u, res⟩ := acc
    unfold shrinkLoop
    dsimp only
    split_ifs <;> simp only [ih, propagate_globalmarks, analyze_globalmarks, backtrack_globalmarks,
      searchAssumeDecision_globalmarks, Sum.elim_inr]

@[simp] theorem propagateShrink_globalmarks (s : Internal) (alphaA u res : List Int) :
    (s.propagateShrink alphaA u res).1.globalmarks = s.globalmarks := by
  unfold propagateShrink
  have h := shrinkLoop_globalmarks alphaA (s, u, res)
  split <;> simp_all

end Internal
end cautical
