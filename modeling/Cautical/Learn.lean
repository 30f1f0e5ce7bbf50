-- The second half of `least_conditional_part`: the strategy that shrinks the
-- candidate clause, the triviality filter, and `add_clause`, which learns a
-- clause or a unit and writes the two record files.
import Cautical.Scan
import Cautical.Shrink

namespace cautical
namespace Internal

/-! ## The triviality filter -/

/-- The loop of `check_if_clause_trivial`: a true literal makes the clause trivial, a false
one is passed over, and an open one has its negation assumed; a conflict makes the clause
trivial after the usual repair. -/
def trivialLoop : List Int → Internal → Internal × Bool
  | [], s => (s, false)
  | lit :: rest, s =>
    if s.val lit > 0 then (s, true)
    else if s.val lit < 0 then trivialLoop rest s
    else
      let r := (s.searchAssumeDecision (-1 * lit)).propagate
      if r.2 then trivialLoop rest r.1 else (r.1.analyzeAll, true)

/-- `check_if_clause_trivial (c)`. A clause longer than `globalmaxlen` is trivial at once,
with no backtrack. The test `c.size () > opts.globalmaxlen` converts the `int` bound to
`size_t`: a negative bound wraps to at least `2^64 - 2^31`, above the `max_size ()` of a
`vector<int>`, so only a bound that is not negative cuts the check short. -/
def checkIfClauseTrivial (s : Internal) (c : List Int) : Internal × Bool :=
  if 0 ≤ s.opts.globalmaxlen ∧ (c.length : Int) > s.opts.globalmaxlen then (s, true)
  else
    let r := trivialLoop c (s.backtrack 0)
    (r.1.backtrack 0, r.2)

/-! ## `add_clause` -/

/-- `sort_vec_by_decision_level`: `std::sort` by `var (x).level`, highest first. The order
among equal levels is the sort's own; here it is the insertion sort's. -/
def sortVecByDecisionLevel (s : Internal) (v : List Int) : List Int :=
  v.insertionSort fun x y => s.varLevel y.natAbs ≤ s.varLevel x.natAbs

/-- `record_clause`: one line to each file. -/
def recordClause (s : Internal) (lit : Int) (negatedConditional autarky : List Int) :
    Internal :=
  { s with
    outFile := s.outFile ++ [lit :: negatedConditional]
    outFilePr := s.outFilePr ++ [lit :: negatedConditional ++ lit :: autarky] }

/-- Modelled from the spec: `new_learned_weak_irredundant_global_clause` (not in the source)
inserts `clause` as a redundant (learned), weak clause. -/
def newLearnedGlobalClause (s : Internal) (c : List Int) : Internal :=
  { s with clauses := s.clauses ++ [⟨c, true, false⟩] }

/-- Modelled from the spec: `assign_original_unit_gbc (id, lit, autarky)` (not in the
source) applies the unit directly as a learned fact at the root. -/
def assignOriginalUnitGbc (s : Internal) (lit : Int) : Internal :=
  { s with
    trail := ⟨lit, 0, false⟩ :: s.trail
    varLevel := Function.update s.varLevel lit.natAbs 0
    status := Function.update s.status lit.natAbs .fixed }

/-- `add_clause (new_clause, lit, negated_conditional, autarky, ...)`. An empty clause, which
no caller passes, would read `clause [0]` past the end; here it learns nothing. -/
def addClause (s : Internal) (newClause : List Int) (lit : Int)
    (negatedConditional autarky : List Int) : Internal :=
  let s := s.log (.addClause newClause)
  let autarky := autarky.filter (· ≠ lit)
  let negatedConditional := negatedConditional.filter (· ≠ lit)
  let clause := s.sortVecByDecisionLevel newClause
  let s :=
    if s.opts.globallearn then
      if clause.length > 1 then s.newLearnedGlobalClause clause
      else match clause with
        | l :: _ => { s with clauseId := s.clauseId + 1 }.assignOriginalUnitGbc l
        | [] => s
    else s
  if s.opts.globalrecord then s.recordClause lit negatedConditional autarky else s

/-! ## `least_conditional_part` -/

/-- The fallback of `least_conditional_part`: the raw candidates in order, each tested
against the budget first (which ends the function with `false`) and, when
`globalfiltertriv` is on, against the triviality filter. The flag says whether a
candidate passed the budget test. -/
def addRaw (alphaA : List Int) : List (List Int) → Internal × Bool → Internal × Bool
  | [], acc => acc
  | c :: rest, (s, _) =>
    let b := s.budgetOut
    if b.1 then (b.2, false)
    else
      let r := if b.2.opts.globalfiltertriv then b.2.checkIfClauseTrivial c else (b.2, false)
      addRaw alphaA rest (if r.2 then r.1 else r.1.addClause c (c.getLastD 0) c alphaA, true)

/-- The strategy of `least_conditional_part`: the useful antecedents and the residual it
leaves, or `none` when `propagate_shrink` answered `false`. The two shrink helpers work on
their own copies, so after them both stay as they were: no useful antecedent, and all of
`neg_alpha_c`. What the caller reads from `propagate_shrink`'s missing `return` is
`undefBool`. -/
def shrinkStrategy (s : Internal) (alphaA negAlphaC : List Int) :
    Internal × Option (List Int × List Int) :=
  if s.opts.globalalphaagreedy && !s.opts.globalchessheur then
    let r := s.greedySortAlphaA alphaA negAlphaC
    (r.1, some r.2)
  else if s.opts.globalalphaagreedy then
    let r := s.greedySortAlphaASpecial alphaA
    (r.1, some r.2)
  else if s.opts.globalbcp then
    (s, some ([], negAlphaC))
  else
    let r := s.propagateShrink alphaA [] negAlphaC
    if r.2.getD r.1.undefBool then (r.1, some ([], negAlphaC)) else (r.1, none)

/-- `least_conditional_part`: the scan, the ordering of `alpha_a`, the strategy, and then
either the raw candidates (up to `globalmaxclause`) or the one clause
`residual + useful`. It answers whether it tried to add a clause. -/
def leastConditionalPart (s : Internal) : Internal × Bool :=
  let p := s.conditionalPart
  let alphaA := p.1.customSortAlphaA p.2.2.1
  match alphaA.1.shrinkStrategy alphaA.2 p.2.1 with
  | (s', none) => (s', false)
  | (s', some (useful, residual)) =>
    if useful.isEmpty || s'.opts.globalnoshrink then
      addRaw alphaA.2 (p.2.2.2.take (min s'.opts.globalmaxclause p.2.2.2.length).toNat)
        (s', false)
    else
      let c := residual ++ useful
      let r := if s'.opts.globalfiltertriv then s'.checkIfClauseTrivial c else (s', false)
      (if r.2 then r.1 else r.1.addClause c (useful.getLastD 0) c alphaA.2, true)

/-! ## None of it touches `globalmarks` -/

theorem trivialLoop_globalmarks (c : List Int) (s : Internal) :
    (trivialLoop c s).1.globalmarks = s.globalmarks := by
  induction c generalizing s with
  | nil => rfl
  | cons l c ih =>
    unfold trivialLoop
    dsimp only
    split_ifs <;> simp [ih]

@[simp] theorem checkIfClauseTrivial_globalmarks (s : Internal) (c : List Int) :
    (s.checkIfClauseTrivial c).1.globalmarks = s.globalmarks := by
  unfold checkIfClauseTrivial
  split_ifs <;> simp [trivialLoop_globalmarks]

@[simp] theorem addClause_globalmarks (s : Internal) (c : List Int) (lit : Int)
    (neg aut : List Int) : (s.addClause c lit neg aut).globalmarks = s.globalmarks := by
  unfold addClause
  dsimp only
  split_ifs <;> (try split) <;> rfl

theorem addRaw_globalmarks (alphaA : List Int) (cs : List (List Int)) (p : Internal × Bool) :
    (addRaw alphaA cs p).1.globalmarks = p.1.globalmarks := by
  induction cs generalizing p with
  | nil => rfl
  | cons c cs ih =>
    obtain ⟨s, b⟩ := p
    unfold addRaw
    dsimp only
    split_ifs <;> simp [ih]

@[simp] theorem shrinkStrategy_globalmarks (s : Internal) (alphaA neg : List Int) :
    (s.shrinkStrategy alphaA neg).1.globalmarks = s.globalmarks := by
  unfold shrinkStrategy
  dsimp only
  split_ifs <;> simp

/-- Past the scan, `least_conditional_part` leaves the marks as the reset left them. -/
theorem leastConditionalPart_globalmarks (s : Internal) :
    s.leastConditionalPart.1.globalmarks = s.conditionalPart.1.globalmarks := by
  unfold leastConditionalPart
  dsimp only
  split
  · next h => simpa using (congrArg (·.1.globalmarks) h).symm
  · next h =>
    have h' := congrArg (·.1.globalmarks) h
    simp only [shrinkStrategy_globalmarks, customSortAlphaA_globalmarks] at h'
    split_ifs <;> simp [addRaw_globalmarks, h']

end Internal
end cautical
