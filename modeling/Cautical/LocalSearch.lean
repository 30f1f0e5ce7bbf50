-- The round loop of `local_search` and the propagation limit of
-- `local_search_round`, with 32-bit `int` and 64-bit `long`. A computation that
-- C leaves undefined, a signed overflow, is `none`. The limit never overflows;
-- the counter of the loop does, after round `INT_MAX`.
import Mathlib.Algebra.Order.Ring.Int

namespace cautical

/-! ## Machine integers -/

/-- `INT_MAX` with 32-bit `int`. -/
def intMax : Int := 2147483647

/-- `LONG_MAX` with 64-bit `long`. -/
def longMax : Int := 9223372036854775807

/-- The values of `long`, which is also `int64_t`. -/
def InLong (x : Int) : Prop := -longMax - 1 ≤ x ∧ x ≤ longMax

instance (x : Int) : Decidable (InLong x) := inferInstanceAs (Decidable (_ ∧ _))

/-- `a * b` in `long`: `none` on signed overflow. -/
def mulLong (a b : Int) : Option Int := if InLong (a * b) then some (a * b) else none

/-! ## `local_search_round` -/

/-- The limit of `local_search_round (round)`: `limit = opts.walkmineff; limit *= round;`
then `limit *= round` when `LONG_MAX / round > limit`, and `LONG_MAX` otherwise. -/
def roundLimit (walkmineff round : Int) : Option Int := do
  let limit ← mulLong walkmineff round
  if longMax.tdiv round > limit then mulLong limit round else pure longMax

/-- What `local_search` reads. `walk_round` (walk.cpp, not in the source) is an oracle: the
answer of the round with the given number and limit. So is the answer of
`try_to_satisfy_formula_by_saved_phases` (not in the source). -/
structure Walker where
  unsat : Bool
  maxVar : Nat
  /-- `opts.walk`. -/
  walk : Bool
  constraint : List Int
  /-- `opts.walkmineff`. -/
  walkmineff : Int
  /-- `lim.localsearch`. -/
  localsearch : Int
  walkRound : Int → Int → Int
  savedPhases : Int

namespace Walker

/-- `local_search_round (round)`. -/
def localSearchRound (w : Walker) (round : Int) : Option Int :=
  if w.unsat then some 0
  else if w.maxVar = 0 then some 0
  else (roundLimit w.walkmineff round).map (w.walkRound round)

/-- `for (; !res && i <= lim; i++) res = round (i);` from `i` and `res`. The `int` counter
overflows when `i++` runs at `INT_MAX`. -/
def roundLoop (round : Int → Option Int) (lim i res : Int) : Option Int :=
  if res = 0 ∧ i ≤ lim then
    match round i with
    | none => none
    | some res' => if i < intMax then roundLoop round lim (i + 1) res' else none
  else some res
termination_by (lim + 1 - i).toNat

/-- `local_search ()`. After the loop, `10` is checked again against the saved phases;
`produce_failed_assumptions` on `20` changes nothing the model keeps. -/
def localSearch (w : Walker) : Option Int :=
  if w.unsat || w.maxVar == 0 || !w.walk || !w.constraint.isEmpty then some 0
  else (roundLoop w.localSearchRound w.localsearch 1 0).map
    fun res => if res = 10 then w.savedPhases else res

end Walker

/-! ## The limit never overflows -/

section limit

variable {w r : Int}

theorem mulLong_of_inLong {a b : Int} (h : InLong (a * b)) : mulLong a b = some (a * b) :=
  if_pos h

/-- The first product is at most `INT_MAX ^ 2`, far below `LONG_MAX`. -/
theorem mul_bounds (hw : 0 ≤ w) (hw' : w ≤ intMax) (hr : 0 < r) (hr' : r ≤ intMax) :
    0 ≤ w * r ∧ w * r ≤ intMax * intMax :=
  ⟨Int.mul_nonneg hw hr.le, Int.mul_le_mul hw' hr' hr.le (by decide)⟩

/-- The guard `LONG_MAX / round > limit` says that one more `round` still fits. -/
theorem guard_iff (hr : 0 < r) (a : Int) : longMax.tdiv r > a ↔ a * r + r ≤ longMax := by
  rw [Int.tdiv_eq_ediv (by decide) hr.le, gt_iff_lt, Int.lt_iff_add_one_le,
    Int.le_ediv_iff_mul_le hr, Int.add_mul, Int.one_mul]

/-- For `0 <= walkmineff <= INT_MAX` and `0 < round <= INT_MAX` the limit is defined: it is
`walkmineff * round ^ 2` when that leaves room for one more `round`, `LONG_MAX` when it is
past `LONG_MAX`, and one of the two in between. -/
theorem roundLimit_spec (hw : 0 ≤ w) (hw' : w ≤ intMax) (hr : 0 < r) (hr' : r ≤ intMax) :
    ∃ L, roundLimit w r = some L ∧ (w * r ^ 2 ≤ longMax - r → L = w * r ^ 2) ∧
      (longMax < w * r ^ 2 → L = longMax) ∧ (L = w * r ^ 2 ∨ L = longMax) := by
  obtain ⟨ha, ha'⟩ := mul_bounds hw hw' hr hr'
  have hsq : w * r ^ 2 = w * r * r := by rw [sq, Int.mul_assoc]
  have hP : 0 ≤ w * r * r := Int.mul_nonneg ha hr.le
  rw [hsq]
  simp only [roundLimit, mulLong_of_inLong (show InLong (w * r) by
    unfold InLong intMax longMax at *; omega), Option.bind_eq_bind, Option.some_bind]
  by_cases hg : longMax.tdiv r > w * r
  · have hfit := (guard_iff hr _).1 hg
    rw [if_pos hg, mulLong_of_inLong (by unfold InLong at *; omega)]
    exact ⟨_, rfl, fun _ => rfl, fun h => by omega, .inl rfl⟩
  · have hout : longMax < w * r * r + r := by rw [guard_iff hr] at hg; omega
    exact ⟨_, if_neg hg, fun h => by omega, fun _ => rfl, .inr rfl⟩

end limit

/-! ## The round loop -/

namespace Walker

section loop

variable (round : Int → Option Int)

/-- With `lim.localsearch < INT_MAX`, a loop whose rounds are all defined ends. -/
theorem roundLoop_isSome {lim : Int} (hlim : lim < intMax)
    (hround : ∀ j, 1 ≤ j → j ≤ lim → (round j).isSome) (i res : Int) (hi : 1 ≤ i) :
    (roundLoop round lim i res).isSome := by
  induction i, res using roundLoop.induct round lim with
  | case1 i res hc h => simpa [h] using hround i hi hc.2
  | case2 i res hc res' h hlt ih => rw [roundLoop, if_pos hc, h]; simpa [hlt] using ih (by omega)
  | case3 i res hc res' _ hge => exact absurd (hc.2.trans_lt hlim) hge
  | case4 i res hc => rw [roundLoop, if_neg hc]; rfl

/-- With `lim.localsearch = INT_MAX` and rounds that find nothing, the loop runs round
`INT_MAX` and then overflows its counter. -/
theorem roundLoop_overflows (hround : ∀ j, 1 ≤ j → j ≤ intMax → round j = some 0)
    (i res : Int) (h0 : res = 0) (hi : 1 ≤ i) (hi' : i ≤ intMax) :
    roundLoop round intMax i res = none := by
  induction i, res using roundLoop.induct round intMax with
  | case1 i res hc h => simp [hround i hi hi'] at h
  | case2 i res hc res' h hlt ih =>
    rw [roundLoop, if_pos hc, h]
    have h0' : res' = 0 := Option.some.inj ((hround i hi hi').symm.trans h) |>.symm
    exact (if_pos hlt).trans (ih h0' (by omega) (by omega))
  | case3 i res hc res' h hge => rw [roundLoop, if_pos hc, h]; exact if_neg hge
  | case4 i res hc => exact absurd ⟨h0, hi'⟩ hc

end loop

/-- Every round gets a defined limit. -/
theorem localSearchRound_isSome (w : Walker) (hw : 0 ≤ w.walkmineff)
    (hw' : w.walkmineff ≤ intMax) {r : Int} (hr : 0 < r) (hr' : r ≤ intMax) :
    (w.localSearchRound r).isSome := by
  obtain ⟨L, hL, -⟩ := roundLimit_spec hw hw' hr hr'
  unfold localSearchRound
  split_ifs <;> simp [hL]

/-- With `lim.localsearch < INT_MAX`, `local_search` computes without overflow. -/
theorem localSearch_isSome (w : Walker) (hw : 0 ≤ w.walkmineff) (hw' : w.walkmineff ≤ intMax)
    (hlim : w.localsearch < intMax) : w.localSearch.isSome := by
  unfold localSearch
  split
  · rfl
  · rw [Option.isSome_map']
    exact roundLoop_isSome _ hlim (fun j hj hj' =>
      w.localSearchRound_isSome hw hw' (by omega) (by unfold intMax at *; omega)) 1 0 le_rfl

theorem localSearch_isSome_tenRounds :
    (0 : Int) ≤ 1 ∧ (1 : Int) ≤ intMax ∧ (10 : Int) < intMax ∧
      (Walker.mk false 1 true [] 1 10 (fun _ _ => 0) 0).localSearch.isSome :=
  ⟨by decide, by decide, by decide, localSearch_isSome _ (by decide) (by decide) (by decide)⟩

/-- A walker whose walks never succeed, as on an unsatisfiable formula, with
`lim.localsearch = INT_MAX`. -/
def stuckWalker : Walker where
  unsat := false
  maxVar := 1
  walk := true
  constraint := []
  walkmineff := 1
  localsearch := intMax
  walkRound := fun _ _ => 0
  savedPhases := 0

/-- Every round of `stuckWalker` is defined and finds nothing, yet `local_search`
overflows its counter: after round `INT_MAX` the loop runs `i++`. -/
theorem localSearch_overflows_counter :
    (∀ r, 0 < r → r ≤ intMax → stuckWalker.localSearchRound r = some 0) ∧
      stuckWalker.localSearch = none := by
  have hround : ∀ r, 0 < r → r ≤ intMax → stuckWalker.localSearchRound r = some 0 := by
    intro r hr hr'
    obtain ⟨L, hL, -⟩ := roundLimit_spec (w := 1) (by decide) (by decide) hr hr'
    simp [localSearchRound, stuckWalker, hL]
  refine ⟨hround, ?_⟩
  rw [localSearch, if_neg (by decide), Option.map_eq_none']
  exact roundLoop_overflows _ (fun j hj hj' => hround j (by omega) hj') 1 0 rfl le_rfl (by decide)

end Walker
end cautical
