-- The collaborators that `internal.cpp` calls but does not define: unit
-- propagation and conflict analysis, built from the contracts the spec gives
-- them, and the two loops the preprocessing drivers wrap around them.
import Cautical.Basic

namespace cautical
namespace Internal

/-! ## Unit propagation -/

/-- What a clause says under the trail: `none` when it has a true literal or two open
ones, `some none` when every literal is false, `some (some l)` when `l` is its only
open literal and the others are false. -/
def unitOf (s : Internal) (c : List Int) : Option (Option Int) :=
  if c.any (s.val · == 1) then none
  else match c.filter (s.val · == 0) with
    | [] => some none
    | [l] => some (some l)
    | _ => none

/-- The first clause that is falsified or unit. -/
def nextUnit (s : Internal) : Option (Option Int) :=
  s.clauses.findSome? fun c => if c.garbage then none else s.unitOf c.lits

/-- Assigns units at the current level until none is left (`true`) or a clause is
falsified (`false`). -/
def propagateFrom : Nat → Internal → Internal × Bool
  | 0, s => (s, true)
  | n + 1, s =>
    match s.nextUnit with
    | none => (s, true)
    | some none => (s, false)
    | some (some l) => propagateFrom n (s.assign l false)

/-- The number of literal occurrences, a bound on the units one propagation assigns. -/
def litCount (s : Internal) : Nat := (s.clauses.map (·.lits.length)).sum

/-- Modelled from the spec: `propagate ()` (propagate.cpp, not in the source) applies unit
propagation to fixpoint and returns `false` iff a clause became falsified. -/
def propagate (s : Internal) : Internal × Bool :=
  propagateFrom (s.litCount + 1) (s.log .propagate)

/-! ## Conflict analysis -/

/-- Modelled from the spec: `analyze ()` (analyze.cpp, not in the source) consumes the
conflict. At the root it learns the empty clause, which sets `unsat`. Above the root it
learns the clause of the negated decisions as a redundant clause, backtracks one level
and asserts there the negation of the last decision. -/
def analyze (s : Internal) : Internal :=
  let s := s.log .analyze
  if s.level = 0 then { s with unsat := true }
  else
    let ds := (s.trail.filter (·.decision)).map (·.lit)
    let s' := { s.backtrack (s.level - 1) with
      clauses := s.clauses ++ [⟨ds.map (- ·), true, false⟩] }
    match ds with
    | [] => s'
    | d :: _ => s'.assign (-d) false

/-! ## The loops around them -/

/-- `while (!unsat && !propagate ()) analyze ();`. Each `analyze` above the root drops
one level, so `level + 1` rounds are enough. -/
def analyzeWhile : Nat → Internal → Internal
  | 0, s => s
  | n + 1, s =>
    if s.unsat then s
    else
      let r := s.propagate
      if r.2 then r.1 else analyzeWhile n r.1.analyze

/-- `analyze (); while (!unsat && !propagate ()) analyze ();`, the repair after a
conflict that the drivers use. -/
def analyzeAll (s : Internal) : Internal :=
  analyzeWhile (s.analyze.level + 1) s.analyze

/-- `while (!propagate ()) analyze ();`, with no test of `unsat`. Once a conflict at the
root has set `unsat` the falsified clause stays, `propagate` fails again and the loop
never ends: `none`. -/
def propagateUntilOk : Nat → Internal → Option Internal
  | 0, _ => none
  | n + 1, s =>
    let r := s.propagate
    if r.2 then some r.1 else propagateUntilOk n r.1.analyze

/-! ## Frame lemmas -/

theorem propagateFrom_frame (n : Nat) (s : Internal) :
    (propagateFrom n s).1.clauses = s.clauses ∧ (propagateFrom n s).1.level = s.level ∧
      (propagateFrom n s).1.unsat = s.unsat ∧ (propagateFrom n s).1.calls = s.calls ∧
      (propagateFrom n s).1.maxVar = s.maxVar ∧
      (propagateFrom n s).1.globalmarks = s.globalmarks := by
  induction n generalizing s with
  | zero => simp [propagateFrom]
  | succ n ih =>
    unfold propagateFrom
    split
    · simp
    · simp
    · simpa using ih _

@[simp] theorem propagate_clauses (s : Internal) : s.propagate.1.clauses = s.clauses :=
  (propagateFrom_frame _ _).1
@[simp] theorem propagate_level (s : Internal) : s.propagate.1.level = s.level :=
  (propagateFrom_frame _ _).2.1
@[simp] theorem propagate_unsat (s : Internal) : s.propagate.1.unsat = s.unsat :=
  (propagateFrom_frame _ _).2.2.1
@[simp] theorem propagate_calls (s : Internal) :
    s.propagate.1.calls = (.propagate, s.unsat) :: s.calls :=
  (propagateFrom_frame _ _).2.2.2.1
@[simp] theorem propagate_maxVar (s : Internal) : s.propagate.1.maxVar = s.maxVar :=
  (propagateFrom_frame _ _).2.2.2.2.1
@[simp] theorem propagate_globalmarks (s : Internal) :
    s.propagate.1.globalmarks = s.globalmarks :=
  (propagateFrom_frame _ _).2.2.2.2.2

@[simp] theorem analyze_maxVar (s : Internal) : s.analyze.maxVar = s.maxVar := by
  unfold analyze; dsimp only; split
  · rfl
  · split <;> rfl

@[simp] theorem analyze_globalmarks (s : Internal) :
    s.analyze.globalmarks = s.globalmarks := by
  unfold analyze; dsimp only; split
  · rfl
  · split <;> rfl

@[simp] theorem analyzeWhile_globalmarks (n : Nat) (s : Internal) :
    (analyzeWhile n s).globalmarks = s.globalmarks := by
  induction n generalizing s with
  | zero => rfl
  | succ n ih =>
    unfold analyzeWhile
    split_ifs
    · rfl
    · dsimp only; split <;> simp_all

@[simp] theorem analyzeAll_globalmarks (s : Internal) :
    s.analyzeAll.globalmarks = s.globalmarks := by
  simp [analyzeAll]

end Internal
end cautical
