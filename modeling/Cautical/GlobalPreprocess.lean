-- Three laws of the two drivers that fail on small formulas: the chessboard
-- driver refutes a satisfiable formula through the unit its cover learns, both
-- drivers assume literals the probing should leave alone, and the chessboard
-- driver keeps calling the collaborators once `unsat` is set.
import Cautical.LeastConditionalPart
import Cautical.Preprocess

namespace cautical
namespace Internal

/-! ## A satisfiable formula refuted -/

/-- `x1` implies `-x92`, and four clauses over `x2, x3` force `x92`, on 180 variables, at
the root, in chessboard mode with the greedy cover. -/
def forcedState : Internal :=
  atTrail chessOpts 180 [[-1, -92], [92, 2, 3], [92, 2, -3], [92, -2, 3], [92, -2, -3]] [] 0 []

/-- The formula is satisfiable (`x1` false, `x92` true) and every model makes `x92` true,
yet the first batch of the schedule learns the unit `-x92`, the second batch runs into the
root conflict that follows, and the run returns `20`. -/
theorem globalPreprocessChess_refutes_satisfiable :
    forcedState.Models (· == 92) ∧ (∀ τ, forcedState.Models τ → litTrue τ (-92) = false) ∧
      [-92] ∈ addedClauses forcedState.globalPreprocessChess.1 ∧
      forcedState.globalPreprocessChess.2 = 20 := by
  refine ⟨⟨by decide, fun l hl => by simp [fixed, flags, forcedState, atTrail] at hl⟩,
    fun τ h => ?_, by decide, by decide⟩
  have c1 := h.1 ⟨[92, 2, 3], false, false⟩ (by decide) (by decide)
  have c2 := h.1 ⟨[92, 2, -3], false, false⟩ (by decide) (by decide)
  have c3 := h.1 ⟨[92, -2, 3], false, false⟩ (by decide) (by decide)
  have c4 := h.1 ⟨[92, -2, -3], false, false⟩ (by decide) (by decide)
  simp [clauseTrue, litTrue] at c1 c2 c3 c4 ⊢
  revert c1 c2 c3 c4
  cases τ 92 <;> cases τ 2 <;> cases τ 3 <;> decide

/-! ## Literals the probing should leave alone -/

/-- Variable `1` was eliminated; ordered probing takes it first all the same. -/
def eliminatedState : Internal :=
  { atTrail plainOpts 3 [[1, 2], [-2, 3]] [] 0 [] with
    status := fun v => if v = 1 then .eliminated else .active }

/-- Ten variables in chessboard mode with the greedy cover; the four clauses over `x2, x3`
end the run in the second batch. -/
def smallChessState : Internal :=
  atTrail chessOpts 10 [[2, 3], [2, -3], [-2, 3], [-2, -3]] [] 0 []

/-- The first call of `global_preprocess` assumes the eliminated variable `1`, and on a
formula over ten variables `global_preprocess_chess` assumes `92`, a literal of its
schedule. -/
theorem globalPreprocess_assumes_inactive :
    eliminatedState.globalPreprocess.map (·.1.calls.getLast?) =
        some (some (Call.assume 1 0 .eliminated, false)) ∧
      (Call.assume 92 0 .active, false) ∈ smallChessState.globalPreprocessChess.1.calls ∧
      smallChessState.maxVar = 10 :=
  ⟨by decide, by decide, rfl⟩

/-! ## Calls after `unsat` -/

/-- An unsatisfiable formula: `x1` implies `x2` and `-x2`, and `-x1` implies `x3` and `-x3`. -/
def unsatState : Internal := atTrail chessOpts 10 [[-1, 2], [-1, -2], [1, 3], [1, -3]] [] 0 []

/-- The first batch assumes `x1`; the repair learns `-x1` and sets `unsat` at the root.
The driver then still backtracks and calls `propagate` before it returns `20`. -/
theorem globalPreprocessChess_calls_after_unsat :
    unsatState.globalPreprocessChess.2 = 20 ∧
      (Call.propagate, true) ∈ unsatState.globalPreprocessChess.1.calls :=
  ⟨by decide, by decide⟩

end Internal
end cautical
