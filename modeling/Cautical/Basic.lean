-- The solver state that the global preprocessing of `internal.cpp` works on.
-- Literals are signed integers, the assignment is read off the trail, and the
-- primitive calls (`val`, `flags`, `backtrack`, `search_assume_decision`) act
-- on one flat record. The collaborators live in `Collab`.
import Mathlib.Algebra.Order.Ring.Nat
import Mathlib.Data.List.Sort
import Mathlib.Logic.Function.Basic

namespace cautical

/-! ## Variables, clauses and the trail -/

/-- `Flags::status`, as far as the preprocessing reads it. -/
inductive Status
  | active
  | fixed
  | eliminated
  deriving DecidableEq, Repr

/-- A clause of `clauses`: its literals and the two bits the scans look at. -/
structure Clause where
  lits : List Int
  redundant : Bool
  garbage : Bool
  deriving DecidableEq, Repr

/-- One entry of the trail. -/
structure Assigned where
  lit : Int
  level : Nat
  decision : Bool
  deriving DecidableEq, Repr

/-- A call that the preprocessing makes to a collaborator. The model keeps every call,
with the `unsat` flag at that moment, so that laws about what the code calls can be
stated; the source keeps no such list. -/
inductive Call
  | assume (lit : Int) (val : Int) (status : Status)
  | propagate
  | analyze
  | addClause (c : List Int)
  deriving DecidableEq, Repr

/-- The options the global preprocessing reads. `globalseed` and `globaltimelim` only
feed `rand ()` and the time test, which the state takes as oracles. -/
structure Options where
  globalchessheur : Bool
  globaltouch : Bool
  globalisort : Bool
  globalorderi : Bool
  globalbothpol : Bool
  globalalphaasort : Bool
  globalalphaarandom : Bool
  globalalphaagreedy : Bool
  globalbcp : Bool
  globalnoshrink : Bool
  globalmaxclause : Int
  globalfiltertriv : Bool
  globalmaxlen : Int
  globallearn : Bool
  globalrecord : Bool
  deriving DecidableEq, Repr

/-- The fields of `Internal` that the global preprocessing reads or writes. -/
structure Internal where
  opts : Options
  maxVar : Nat
  clauses : List Clause
  /-- The trail, newest assignment first. -/
  trail : List Assigned
  level : Nat
  /-- `flags (idx).status` of each variable. -/
  status : Nat → Status
  /-- `var (idx).level`, which keeps its value after the variable is unassigned. -/
  varLevel : Nat → Nat
  unsat : Bool
  proof : Bool
  /-- `globalmarks`, one bit per literal. -/
  globalmarks : Int → Bool
  /-- Bit 1 of `marks`, one per variable. -/
  marks1 : Nat → Bool
  globalTry : List Int
  clauseId : Nat
  outFile : List (List Int)
  outFilePr : List (List Int)
  /-- The answer of the `n`-th test `time () - original_time > opts.globaltimelim`. -/
  timeUp : Nat → Bool
  clock : Nat
  /-- The `n`-th value of `rand ()`. -/
  rand : Nat → Nat
  randCalls : Nat
  /-- The `n`-th `std::shuffle`. -/
  shuffle : Nat → List Int → List Int
  shuffles : Nat
  /-- What the caller reads from a `bool` function that ends without `return`. -/
  undefBool : Bool
  /-- The calls made so far, newest first, each with `unsat` when it was made. -/
  calls : List (Call × Bool)

namespace Internal

/-! ## Reading the state -/

/-- `val (lit)`: `1` when `lit` is on the trail, `-1` when `-lit` is, `0` otherwise. -/
def val (s : Internal) (lit : Int) : Int :=
  if s.trail.any (·.lit == lit) then 1 else if s.trail.any (·.lit == -lit) then -1 else 0

/-- `flags (lit).status`. -/
def flags (s : Internal) (lit : Int) : Status := s.status lit.natAbs

def fixed (s : Internal) (lit : Int) : Bool := s.flags lit == .fixed

/-- Modelled from the spec: `is_decision (lit)` (internal.hpp, not in the source), whether
the variable of `lit` is assigned by a decision above the root. -/
def isDecision (s : Internal) (lit : Int) : Bool :=
  s.trail.any fun a => a.lit.natAbs == lit.natAbs && a.decision && 0 < a.level

/-- Modelled from the spec: `global_getbit (lit)` (internal.hpp, not in the source), the
bit of `lit` in `globalmarks`. -/
def globalGetbit (s : Internal) (lit : Int) : Bool := s.globalmarks lit

/-- The tests of the budget, `time () - original_time > opts.globaltimelim`. -/
def budgetOut (s : Internal) : Bool × Internal :=
  (s.timeUp s.clock, { s with clock := s.clock + 1 })

/-- `rand ()`. -/
def nextRand (s : Internal) : Nat × Internal :=
  (s.rand s.randCalls, { s with randCalls := s.randCalls + 1 })

/-! ## Changing the state -/

/-- Records a call. -/
def log (s : Internal) (c : Call) : Internal :=
  { s with calls := (c, s.unsat) :: s.calls }

/-- Puts `lit` on the trail at the current level. At the root its variable becomes
`FIXED`, as `mark_fixed` does for a root-level unit. -/
def assign (s : Internal) (lit : Int) (decision : Bool) : Internal :=
  { s with
    trail := ⟨lit, s.level, decision⟩ :: s.trail
    varLevel := Function.update s.varLevel lit.natAbs s.level
    status := if s.level = 0 then Function.update s.status lit.natAbs .fixed else s.status }

/-- `backtrack (new_level)`: drops the assignments above `new_level`. -/
def backtrack (s : Internal) (newLevel : Nat := 0) : Internal :=
  { s with trail := s.trail.filter (·.level ≤ newLevel), level := newLevel }

/-- `search_assume_decision (lit)`: opens a level and assigns `lit` there as a decision. -/
def searchAssumeDecision (s : Internal) (lit : Int) : Internal :=
  let s' := s.log (.assume lit (s.val lit) (s.flags lit))
  { s' with level := s'.level + 1 }.assign lit true

/-- Modelled from the spec: `global_setbit (lit)` (internal.hpp, not in the source). -/
def globalSetbit (s : Internal) (lit : Int) : Internal :=
  { s with globalmarks := Function.update s.globalmarks lit true }

/-- Modelled from the spec: `global_unsetbit (lit)` (internal.hpp, not in the source). -/
def globalUnsetbit (s : Internal) (lit : Int) : Internal :=
  { s with globalmarks := Function.update s.globalmarks lit false }

/-! ## Frame lemmas -/

@[simp] theorem log_clauses (s : Internal) (c : Call) : (s.log c).clauses = s.clauses := rfl
@[simp] theorem log_trail (s : Internal) (c : Call) : (s.log c).trail = s.trail := rfl
@[simp] theorem log_level (s : Internal) (c : Call) : (s.log c).level = s.level := rfl
@[simp] theorem log_unsat (s : Internal) (c : Call) : (s.log c).unsat = s.unsat := rfl
@[simp] theorem log_status (s : Internal) (c : Call) : (s.log c).status = s.status := rfl
@[simp] theorem log_maxVar (s : Internal) (c : Call) : (s.log c).maxVar = s.maxVar := rfl
@[simp] theorem log_opts (s : Internal) (c : Call) : (s.log c).opts = s.opts := rfl
@[simp] theorem log_clauseId (s : Internal) (c : Call) : (s.log c).clauseId = s.clauseId := rfl
@[simp] theorem log_calls (s : Internal) (c : Call) :
    (s.log c).calls = (c, s.unsat) :: s.calls := rfl

@[simp] theorem assign_clauses (s : Internal) (l : Int) (d : Bool) :
    (s.assign l d).clauses = s.clauses := rfl
@[simp] theorem assign_trail (s : Internal) (l : Int) (d : Bool) :
    (s.assign l d).trail = ⟨l, s.level, d⟩ :: s.trail := rfl
@[simp] theorem assign_level (s : Internal) (l : Int) (d : Bool) :
    (s.assign l d).level = s.level := rfl
@[simp] theorem assign_unsat (s : Internal) (l : Int) (d : Bool) :
    (s.assign l d).unsat = s.unsat := rfl
@[simp] theorem assign_calls (s : Internal) (l : Int) (d : Bool) :
    (s.assign l d).calls = s.calls := rfl
@[simp] theorem assign_maxVar (s : Internal) (l : Int) (d : Bool) :
    (s.assign l d).maxVar = s.maxVar := rfl

@[simp] theorem backtrack_clauses (s : Internal) (n : Nat) :
    (s.backtrack n).clauses = s.clauses := rfl
@[simp] theorem backtrack_level (s : Internal) (n : Nat) : (s.backtrack n).level = n := rfl
@[simp] theorem backtrack_unsat (s : Internal) (n : Nat) :
    (s.backtrack n).unsat = s.unsat := rfl
@[simp] theorem backtrack_calls (s : Internal) (n : Nat) :
    (s.backtrack n).calls = s.calls := rfl
@[simp] theorem backtrack_status (s : Internal) (n : Nat) :
    (s.backtrack n).status = s.status := rfl
@[simp] theorem backtrack_maxVar (s : Internal) (n : Nat) :
    (s.backtrack n).maxVar = s.maxVar := rfl

@[simp] theorem searchAssumeDecision_clauses (s : Internal) (l : Int) :
    (s.searchAssumeDecision l).clauses = s.clauses := rfl
@[simp] theorem searchAssumeDecision_unsat (s : Internal) (l : Int) :
    (s.searchAssumeDecision l).unsat = s.unsat := rfl
@[simp] theorem searchAssumeDecision_level (s : Internal) (l : Int) :
    (s.searchAssumeDecision l).level = s.level + 1 := rfl
@[simp] theorem searchAssumeDecision_calls (s : Internal) (l : Int) :
    (s.searchAssumeDecision l).calls = (.assume l (s.val l) (s.flags l), s.unsat) :: s.calls :=
  rfl
@[simp] theorem searchAssumeDecision_maxVar (s : Internal) (l : Int) :
    (s.searchAssumeDecision l).maxVar = s.maxVar := rfl

@[simp] theorem log_globalmarks (s : Internal) (c : Call) :
    (s.log c).globalmarks = s.globalmarks := rfl
@[simp] theorem assign_globalmarks (s : Internal) (l : Int) (d : Bool) :
    (s.assign l d).globalmarks = s.globalmarks := rfl
@[simp] theorem backtrack_globalmarks (s : Internal) (n : Nat) :
    (s.backtrack n).globalmarks = s.globalmarks := rfl
@[simp] theorem searchAssumeDecision_globalmarks (s : Internal) (l : Int) :
    (s.searchAssumeDecision l).globalmarks = s.globalmarks := rfl
@[simp] theorem budgetOut_globalmarks (s : Internal) :
    s.budgetOut.2.globalmarks = s.globalmarks := rfl

end Internal

end cautical
