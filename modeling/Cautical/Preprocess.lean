-- The two drivers of the global preprocessing. `global_preprocess` probes each
-- literal `i`, then `i` with each touched literal `j`, and runs
-- `least_conditional_part` whenever both propagate; `global_preprocess_chess`
-- assumes the batches of its fixed schedule instead.
import Cautical.Learn
import Cautical.Schedule

namespace cautical

/-- How one turn of a loop of the drivers ends: go on, `break`, `return res`, or never
(a loop that does not end). -/
inductive Flow
  | next : Internal → Flow
  | exit : Internal → Flow
  | ret : Internal → Int → Flow
  | hang : Flow

namespace Internal

/-! ## The literals to probe -/

/-- The loop over one clause in `get_touched_literals`: the first true literal ends it
(`none`); otherwise it reports whether a literal is false, and the open literals that
are not `FIXED` and whose variable has bit 1 of `marks` clear. -/
def touchedLoop (s : Internal) (m : Nat → Bool) : List Int → Bool → List Int →
    Option (Bool × List Int)
  | [], touched, vars => some (touched, vars)
  | l :: rest, touched, vars =>
    if s.val l > 0 then none
    else if s.val l < 0 then touchedLoop s m rest true vars
    else if !m l.natAbs && !(s.flags l == .fixed) then touchedLoop s m rest touched (vars ++ [l])
    else touchedLoop s m rest touched vars

/-- `get_touched_literals`. With `globaltouch` off it is every variable. With it on it is
the literals that `touchedLoop` keeps from the clauses with a false literal and no true
one; each kept literal sets bit 1 of its variable, and all those bits are cleared at the
end. -/
def getTouchedLiterals (s : Internal) : Internal × List Int :=
  if !s.opts.globaltouch then (s, (List.range s.maxVar).map fun i => ((i + 1 : Nat) : Int))
  else
    let r := s.clauses.foldl (fun (p : List Int × (Nat → Bool)) c =>
      match touchedLoop s p.2 c.lits false [] with
      | some (true, vars) =>
        (p.1 ++ vars, vars.foldl (fun m l => Function.update m l.natAbs true) p.2)
      | _ => p) ([], s.marks1)
    ({ s with marks1 := r.1.foldl (fun m l => Function.update m l.natAbs false) r.2 }, r.1)

/-- The count loop of `get_sorted_literals`: each literal of a clause bumps the entry of
its variable. -/
def bumpCount (var : Nat) : List (Nat × Nat) → List (Nat × Nat)
  | [] => []
  | (v, n) :: rest => if v = var then (v, n + 1) :: rest else (v, n) :: bumpCount var rest

/-- `get_sorted_literals`: the `ACTIVE` variables by their number of occurrences in the
clauses that are not garbage, most first. `std::sort` is not stable, so the order among
equal counts is the sort's own; here it is the insertion sort's. -/
def getSortedLiterals (s : Internal) : List Int :=
  let active (v : Nat) := s.status v == .active
  let counts := ((List.range s.maxVar).map (· + 1)).filter active |>.map fun v => (v, 0)
  let counts := s.clauses.foldl (fun cs c =>
    if c.garbage then cs
    else c.lits.foldl (fun cs l => if active l.natAbs then bumpCount l.natAbs cs else cs) cs)
    counts
  (counts.insertionSort fun a b => b.2 ≤ a.2).map fun p => (p.1 : Int)

/-! ## `global_preprocess` -/

/-- `if (unsat) return 20;` at the end of a turn. -/
def Flow.ofUnsat (s : Internal) : Flow := if s.unsat then .ret s 20 else .next s

/-- One polarity of the loop over a touched literal (lines 1392-1450). It gives up `i`
once `i` is `FIXED`, skips a `FIXED` `j_polar`, propagates the root with no test of
`unsat`, probes `i` and then `j_polar`, and runs `least_conditional_part` when both
propagate. -/
def probePolarity (s : Internal) (i jPolar : Int) : Flow :=
  if s.fixed i then .exit s
  else if s.fixed jPolar then .next s
  else match propagateUntilOk 1 (s.backtrack 0) with
    | none => .hang
    | some s1 =>
      let r := (s1.searchAssumeDecision i).propagate
      if !r.2 then Flow.ofUnsat r.1.analyzeAll
      else if r.1.val jPolar ≠ 0 then .next r.1
      else
        let r2 := (r.1.searchAssumeDecision jPolar).propagate
        if !r2.2 then Flow.ofUnsat r2.1.analyzeAll
        else Flow.ofUnsat (r2.1.leastConditionalPart.1.backtrack 0)

/-- The loop over the polarities of one touched literal. -/
def polarityLoop (i j : Int) : List Int → Internal → Flow
  | [], s => .next s
  | p :: ps, s =>
    match probePolarity s i (p * j) with
    | .next s' => polarityLoop i j ps s'
    | .exit s' => .next s'
    | r => r

/-- The loop over the touched literals, each turn behind the budget test. -/
def touchedLitsLoop (i : Int) : List Int → Internal → Flow
  | [], s => .next s
  | j :: js, s =>
    let b := s.budgetOut
    if b.1 then .next b.2
    else
      match polarityLoop i j (if b.2.opts.globalbothpol then [-1, 1] else [1]) b.2 with
      | .next s' => if s'.unsat then .ret s' 20 else touchedLitsLoop i js s'
      | r => r

/-- The single probes after the touched literals (lines 1458-1494): `i` alone, then `-i`
alone, each repaired and undone after a conflict. -/
def probeSingles (s : Internal) (i : Int) : Flow :=
  if s.unsat then .ret s 20
  else
    let s := s.backtrack 0
    if s.fixed i then .next s
    else
      let r := (s.searchAssumeDecision i).propagate
      if !r.2 then .next (r.1.analyzeAll.backtrack 0)
      else
        let r2 := ((r.1.backtrack 0).searchAssumeDecision (-i)).propagate
        if !r2.2 then .next (r2.1.analyzeAll.backtrack 0)
        else Flow.ofUnsat r2.1

/-- One turn of the outer loop for the probe literal `i` (lines 1359-1495). A conflict of
`i` alone is analyzed; a second one right after ends the outer loop. -/
def probeLiteral (s : Internal) (i : Int) : Flow :=
  let s := s.backtrack 0
  if s.fixed i then .next s
  else
    let r := (s.searchAssumeDecision i).propagate
    if !r.2 then
      let r3 := r.1.analyze.propagate
      if !r3.2 then .exit r3.1.analyze else .next r3.1
    else
      let t := r.1.getTouchedLiterals
      match touchedLitsLoop i t.2 t.1 with
      | .next s' => probeSingles s' i
      | f => f

/-- The probe literal of turn `count`: from the sorted list (`none` past its end, which
ends the loop), `count` itself, or a random literal of random sign. -/
def pickProbe (s : Internal) (sorted : List Int) (count : Nat) : Option (Int × Internal) :=
  if s.opts.globalisort then
    if count < sorted.length then some (sorted.getD count 0, s) else none
  else if s.opts.globalorderi then some (count, s)
  else
    let r1 := s.nextRand
    let r2 := r1.2.nextRand
    some ((if r2.1 % 2 = 0 then 1 else -1) * ((r1.1 % s.maxVar + 1 : Nat) : Int), r2.2)

/-- The outer loop over `count = 1 .. max_var`, each turn behind the budget test. -/
def outerLoop (sorted : List Int) : List Nat → Internal → Flow
  | [], s => .next s
  | count :: rest, s =>
    let b := s.budgetOut
    if b.1 then .next b.2
    else match pickProbe b.2 sorted count with
      | none => .next b.2
      | some (i, s1) =>
        match probeLiteral s1 i with
        | .next s' => outerLoop sorted rest s'
        | .exit s' => .next s'
        | f => f

/-- `global_preprocess`: `none` when it never returns. -/
def globalPreprocess (s : Internal) : Option (Internal × Int) :=
  let s := { s with globalmarks := fun _ => false }
  let sorted := if s.opts.globalisort then s.getSortedLiterals else []
  match outerLoop sorted ((List.range s.maxVar).map (· + 1)) s with
  | .next s' | .exit s' => some (s', if s'.unsat then 20 else 0)
  | .ret s' res => some (s', res)
  | .hang => none

/-! ## `global_preprocess_chess` -/

/-- The assumptions of one batch (lines 1219-1252): a literal neither `FIXED` nor assigned
is assumed and propagated; a conflict is repaired and ends the batch with `try_learn`
off. -/
def assumeBatch : List Int → Internal → Internal × Bool
  | [], s => (s, true)
  | a :: rest, s =>
    if s.flags a == .fixed then assumeBatch rest s
    else if s.val a ≠ 0 then assumeBatch rest s
    else
      let r := (s.searchAssumeDecision a).propagate
      if r.2 then assumeBatch rest r.1 else (r.1.analyzeAll, false)

/-- One batch: set `global_try`, backtrack, assume the batch, learn when it propagated,
then backtrack and propagate the root, repairing a conflict. -/
def chessBatch (s : Internal) (batch globalTry : List Int) : Internal :=
  let r := assumeBatch batch ({ s with globalTry := globalTry }.backtrack 0)
  let s2 := if r.2 then r.1.leastConditionalPart.1 else r.1
  let r3 := (s2.backtrack 0).propagate
  if r3.2 then r3.1 else r3.1.analyzeAll

/-- The loop over the schedule; `unsat` after a batch returns `20`. -/
def chessLoop : List (List Int × List Int) → Internal → Internal × Int
  | [], s => (s, 0)
  | (batch, t) :: rest, s =>
    let s' := s.chessBatch batch t
    if s'.unsat then (s', 20) else chessLoop rest s'

/-- `global_preprocess_chess`. -/
def globalPreprocessChess (s : Internal) : Internal × Int :=
  chessLoop asses { s with globalmarks := fun _ => false }

end Internal
end cautical
