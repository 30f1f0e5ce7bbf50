-- The laws of `least_conditional_part`. The scan is exact and leaves the marks
-- clear on every path. Past the scan the function does less than the spec
-- says: a key can close a tautology, both shrink helpers lose their result,
-- the greedy cover outside chessboard mode covers nothing, and the chessboard
-- cover can hand `add_clause` a clause that is not blocked.
import Cautical.Learn
import Cautical.Semantics

namespace cautical
namespace Internal

/-! ## Inputs -/

/-- A state at rest on the given trail: no mark set, every variable `ACTIVE`, every
clause irredundant, and oracles that never end the budget. -/
def atTrail (opts : Options) (maxVar : Nat) (clauses : List (List Int))
    (trail : List Assigned) (level : Nat) (globalTry : List Int) : Internal where
  opts := opts
  maxVar := maxVar
  clauses := clauses.map fun c => ⟨c, false, false⟩
  trail := trail
  level := level
  status := fun _ => .active
  varLevel := fun v => ((trail.find? (·.lit.natAbs == v)).map (·.level)).getD 0
  unsat := false
  proof := false
  globalmarks := fun _ => false
  marks1 := fun _ => false
  globalTry := globalTry
  clauseId := 0
  outFile := []
  outFilePr := []
  timeUp := fun _ => false
  clock := 0
  rand := fun _ => 0
  randCalls := 0
  shuffle := fun _ l => l
  shuffles := 0
  undefBool := true
  calls := []

/-- Learning on, recording off, no sort, no filter, no shrink strategy but
`propagate_shrink`. -/
def plainOpts : Options where
  globalchessheur := false
  globaltouch := true
  globalisort := false
  globalorderi := true
  globalbothpol := false
  globalalphaasort := false
  globalalphaarandom := false
  globalalphaagreedy := false
  globalbcp := false
  globalnoshrink := false
  globalmaxclause := 10
  globalfiltertriv := false
  globalmaxlen := 100
  globallearn := true
  globalrecord := false

/-- `bcp_shrink` instead of `propagate_shrink`. -/
def bcpOpts : Options := { plainOpts with globalbcp := true }

/-- The clauses added by the calls made, oldest first. -/
def addedClauses (s : Internal) : List (List Int) :=
  (s.calls.filterMap fun c => match c.1 with
    | .addClause c => some c
    | _ => none).reverse

/-- `x3` decided, `x1` implied by `(-x3 ∨ x1)`; `(-x1 ∨ x4 ∨ x5)` stays open. -/
def tautologyState : Internal :=
  atTrail plainOpts 5 [[-3, 1], [1, 2], [-1, 4, 5]] [⟨1, 1, false⟩, ⟨3, 1, true⟩] 1 []

/-! ## The scan and the marks -/

/-- From clear marks, and clauses without a repeated literal, `neg_alpha_c` has no repeated
literal and holds exactly the false literals, not `FIXED`, of the considered clauses with no
true literal; the keys of `times_touched` are exactly the true literals of the considered
clauses with no true `FIXED` literal; and `least_conditional_part` leaves every mark clear. -/
theorem leastConditionalPart_scan_exact (s : Internal) (hnd : ∀ c ∈ s.clauses, c.lits.Nodup)
    (hclear : ∀ l, s.globalmarks l = false) :
    s.scan.negAlphaC.Nodup ∧
      (∀ l, l ∈ s.scan.negAlphaC ↔ s.val l < 0 ∧ s.fixed l = false ∧
        ∃ c ∈ s.clauses, s.Considered c ∧ l ∈ c.lits ∧ ∀ x ∈ c.lits, s.val x ≤ 0) ∧
      (∀ k, k ∈ s.scan.timesTouched.map Prod.fst ↔ 0 < s.val k ∧
        ∃ c ∈ s.clauses, s.Considered c ∧ k ∈ c.lits ∧
          ∀ x ∈ c.lits, 0 < s.val x → s.fixed x = false) ∧
      ∀ l, s.leastConditionalPart.1.globalmarks l = false := by
  have h := scan_inv hclear
  refine ⟨scan_nodup hnd hclear, h.neg, h.keys, fun l => ?_⟩
  rw [leastConditionalPart_globalmarks]
  exact conditionalPart_marks hclear l

theorem leastConditionalPart_scan_exact_tautologyState :
    (∀ c ∈ tautologyState.clauses, c.lits.Nodup) ∧ (∀ l, tautologyState.globalmarks l = false) ∧
      tautologyState.scan.negAlphaC.Nodup ∧
      (∀ l, l ∈ tautologyState.scan.negAlphaC ↔ tautologyState.val l < 0 ∧
        tautologyState.fixed l = false ∧ ∃ c ∈ tautologyState.clauses,
          tautologyState.Considered c ∧ l ∈ c.lits ∧ ∀ x ∈ c.lits, tautologyState.val x ≤ 0) ∧
      (∀ k, k ∈ tautologyState.scan.timesTouched.map Prod.fst ↔ 0 < tautologyState.val k ∧
        ∃ c ∈ tautologyState.clauses, tautologyState.Considered c ∧ k ∈ c.lits ∧
          ∀ x ∈ c.lits, 0 < tautologyState.val x → tautologyState.fixed x = false) ∧
      ∀ l, tautologyState.leastConditionalPart.1.globalmarks l = false :=
  ⟨by decide, fun _ => rfl, leastConditionalPart_scan_exact _ (by decide) fun _ => rfl⟩

/-! ## A key of the conditional part closes a tautology -/

/-- On a consistent trail closed under propagation, `-x1` is in `neg_alpha_c` and `x1`
is still a key: the raw candidate is `{-x1, x1}`, and it reaches `add_clause` on the
`bcp_shrink` path. On the `propagate_shrink` path it does when the caller reads `true`
from the missing `return`, and nothing is added when it reads `false`. -/
theorem leastConditionalPart_adds_tautology :
    tautologyState.Consistent ∧ tautologyState.nextUnit = none ∧
      tautologyState.scan.negAlphaC = [-1] ∧ tautologyState.conditionalPart.2.2.1 = [1] ∧
      addedClauses { tautologyState with opts := bcpOpts }.leastConditionalPart.1 = [[-1, 1]] ∧
      ∀ u : Bool, addedClauses { tautologyState with undefBool := u }.leastConditionalPart.1 =
        if u then [[-1, 1]] else [] := by
  refine ⟨by decide, by decide, by decide, by decide, by decide, fun u => ?_⟩
  cases u <;> decide

/-! ## Both shrink helpers lose their result -/

/-- The greedy cover outside chessboard mode. -/
def greedyOpts : Options := { plainOpts with globalalphaagreedy := true }

/-- `x1` decided implies `x2` and `-x3`, and `(x3 ∨ x4 ∨ x5)` stays open. The binary
clause `(x2 ∨ -x3)`, watched by `x2`, makes `x3` false as soon as `x2` is. -/
def shrinkState (opts : Options) : Internal :=
  atTrail opts 5 [[-1, 2], [-1, -3], [2, -3], [3, 4, 5]]
    [⟨-3, 1, false⟩, ⟨2, 1, false⟩, ⟨1, 1, true⟩] 1 []

/-- The key `x2` explains `x3`, both by its binary clause and by propagation, and both
helpers work that out; yet `least_conditional_part` never adds the one clause `{x2}`, since
the helpers change only their own copies, and `propagate_shrink` returns no value: the raw
candidates are added when the caller reads `true` from it, and nothing when it reads
`false`. -/
theorem leastConditionalPart_drops_shrink :
    (shrinkState bcpOpts).Consistent ∧ (shrinkState bcpOpts).nextUnit = none ∧
      (shrinkState bcpOpts).scan.negAlphaC = [3] ∧
      (shrinkState bcpOpts).conditionalPart.2.2.1 = [-3, 2] ∧
      (shrinkState bcpOpts).bcpShrink [-3, 2] [] [3] = ([2], []) ∧
      addedClauses (shrinkState bcpOpts).leastConditionalPart.1 = [[3, -3], [3, 2]] ∧
      (shrinkLoop [-3, 2] (shrinkState plainOpts, [], [3])).elim (·.2) (fun _ => ([], [3])) =
        ([2], []) ∧
      ((shrinkState plainOpts).propagateShrink [-3, 2] [] [3]).2 = none ∧
      ∀ u : Bool, addedClauses { shrinkState plainOpts with undefBool := u }.leastConditionalPart.1 =
        if u then [[3, -3], [3, 2]] else [] := by
  refine ⟨by decide, by decide, by decide, by decide, by decide, by decide, by decide, by decide,
    fun u => ?_⟩
  cases u <;> decide

/-- Outside chessboard mode `global_try` is empty, so the greedy cover chooses nothing:
`x3` stays in the residual although it is in the coverage set of `x2`. -/
theorem greedySortAlphaA_covers_nothing :
    (greedyCoverSets [3] [-3, 2] (shrinkState greedyOpts, [], [])).2 = ([2], [[3]]) ∧
      ((shrinkState greedyOpts).greedySortAlphaA [-3, 2] [3]).2 = ([], [3]) ∧
      addedClauses (shrinkState greedyOpts).leastConditionalPart.1 = [[3, -3], [3, 2]] := by
  refine ⟨by decide, by decide, by decide⟩

/-! ## The chessboard cover can add a clause that is not blocked -/

/-- Chessboard mode with the greedy cover. -/
def chessOpts : Options := { plainOpts with globalchessheur := true, globalalphaagreedy := true }

/-- The first batch of the schedule, `x1` then `x10`, on a formula where `x1` implies
`-x92` and four clauses over `x2, x3` force `x92`; `global_try` is the batch's
`{-92, -91}`. -/
def chessState : Internal :=
  atTrail chessOpts 180 [[-1, -92], [92, 2, 3], [92, 2, -3], [92, -2, 3], [92, -2, -3]]
    [⟨10, 2, true⟩, ⟨-92, 1, false⟩, ⟨1, 1, true⟩] 2 [-92, -91]

/-- `x92` does not make `neg_alpha_c = {x92}` false, yet the cover keeps `-x92` and drops
the residual: the unit `-x92` goes to `add_clause`. A model with `x1` false and `x92`
true falsifies it, and overwritten by the trail it falsifies `(x92 ∨ x2 ∨ x3)`. -/
theorem leastConditionalPart_adds_unblocked :
    chessState.Consistent ∧ chessState.nextUnit = none ∧
      addedClauses chessState.leastConditionalPart.1 = [[-92]] ∧
      ¬ chessState.Blocked [-92] := by
  refine ⟨by decide, by decide, by decide, fun h => ?_⟩
  have hτ : chessState.Models (· == 92) :=
    ⟨by decide, fun l hl => by simp [fixed, flags, chessState, atTrail] at hl⟩
  have h' := (h _ hτ (by decide)).1.1 ⟨[92, 2, 3], false, false⟩ (by decide) (by decide)
  exact absurd h' (by decide)

/-! ## The decision level on return -/

/-- `x1` decided at level 1 implies `x2` by `(-x1 ∨ x2)`; `bcp_shrink` is the strategy. -/
def unitState : Internal := atTrail bcpOpts 2 [[-1, 2]] [⟨2, 1, false⟩, ⟨1, 1, true⟩] 1 []

/-- The only key `x2` is not a decision and `neg_alpha_c` is empty, so the raw candidate is
the unit `{x2}`. Nothing on the `bcp_shrink` path backtracks: `add_clause` puts the unit on
the trail above the level-1 assignments, where `x2` is already true, and
`least_conditional_part` returns at level 1. -/
theorem leastConditionalPart_unit_above_root :
    unitState.Consistent ∧ unitState.nextUnit = none ∧
      addedClauses unitState.leastConditionalPart.1 = [[2]] ∧
      unitState.leastConditionalPart.1.trail = [⟨2, 0, false⟩, ⟨2, 1, false⟩, ⟨1, 1, true⟩] ∧
      unitState.leastConditionalPart.1.level = 1 := by
  refine ⟨by decide, by decide, by decide, by decide, rfl⟩

/-- The triviality filter with `globalmaxlen = 0`. -/
def shortOpts : Options := { plainOpts with globalmaxlen := 0 }

/-- A clause within `globalmaxlen` (any clause, when the bound is negative) is checked from
the root and the check ends at level 0; a longer one is trivial at once and the check keeps
whatever level it was called at, so on `unitState` with `globalmaxlen = 0` it stays at
level 1. -/
theorem checkIfClauseTrivial_oversize_keeps_level :
    (∀ (s : Internal) (c : List Int),
      (c.length : Int) ≤ s.opts.globalmaxlen ∨ s.opts.globalmaxlen < 0 →
        (s.checkIfClauseTrivial c).1.level = 0) ∧
    (∀ (s : Internal) (c : List Int), 0 ≤ s.opts.globalmaxlen →
      s.opts.globalmaxlen < c.length → s.checkIfClauseTrivial c = (s, true)) ∧
    { unitState with opts := shortOpts }.level = 1 ∧
      ({ unitState with opts := shortOpts }.checkIfClauseTrivial [2]).1.level = 1 := by
  refine ⟨fun s c h => ?_, fun s c h0 h => if_pos ⟨h0, h⟩, rfl, rfl⟩
  rw [checkIfClauseTrivial, if_neg (by omega)]
  rfl

end Internal
end cautical
