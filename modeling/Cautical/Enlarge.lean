-- `init_vars` and `enlarge`: the variable tables grow by doubling, and `vals`
-- points into the middle of its block, so that a literal of either sign
-- indexes it. Every sequence of calls, with assignments between them, keeps the
-- tables large enough and `val (l) == -val (-l)`, keeps the value of every old
-- literal and gives every new one the value `0`.
import Mathlib.Algebra.Order.Ring.Int

namespace cautical

/-! ## Memory -/

/-- A block of `signed char` from `new signed char [size]`: cell `i` for `0 <= i < size`. -/
structure Block where
  size : Nat
  cells : Int → Int

/-- `new signed char [size]` followed by `memset (p, 0, size)`. -/
def Block.zeros (size : Nat) : Block := ⟨size, fun _ => 0⟩

/-- `memcpy (dst + d, src + s, n)`: `none` when a cell lies outside either block. -/
def Block.copy (dst : Block) (d : Int) (src : Block) (s : Int) (n : Nat) : Option Block :=
  if 0 ≤ d ∧ d + n ≤ dst.size ∧ 0 ≤ s ∧ s + n ≤ src.size then
    some { dst with
      cells := fun i => if d ≤ i ∧ i < d + n then src.cells (i - d + s) else dst.cells i }
  else none

/-! ## The tables -/

/-- The fields of `Internal` that `init_vars` and `enlarge` change: the number of variables,
the allocated size, the block `vals` points into, and the sizes of the other tables.
`lrat`, `frat` and `external` keep their values over the calls. -/
structure Vars where
  maxVar : Nat
  vsize : Nat
  /-- The block `vals` points into, at cell `vsize`; `none` while `vals` is null. -/
  vals : Option Block
  lrat : Bool
  frat : Bool
  /-- Whether `external` is set. -/
  external : Bool
  unitClausesIdx : Nat
  wtab : Nat
  vtab : Nat
  parents : Nat
  links : Nat
  btab : Nat
  gtab : Nat
  stab : Nat
  ptab : Nat
  ftab : Nat
  relevanttab : Nat
  phasesSaved : Nat
  phasesForced : Nat
  phasesTarget : Nat
  phasesBest : Nat
  phasesPrev : Nat
  phasesMin : Nat
  marks : Nat

namespace Vars

/-- The tables as the constructor leaves them: nothing allocated. -/
def empty (lrat frat external : Bool) : Vars :=
  ⟨0, 0, none, lrat, frat, external, 0, 0, 0, 0, 0, 0, 0, 0, 0, 0, 0, 0, 0, 0, 0, 0, 0, 0⟩

/-- The sizes of the tables indexed by variable. -/
def perVariable (v : Vars) : List Nat :=
  [v.vtab, v.parents, v.links, v.btab, v.gtab, v.stab, v.ftab, v.phasesSaved, v.phasesForced,
    v.phasesTarget, v.phasesBest, v.phasesPrev, v.phasesMin, v.marks] ++
    if v.external then [v.relevanttab] else []

/-- The sizes of the tables indexed by literal. -/
def perLiteral (v : Vars) : List Nat :=
  [v.wtab, v.ptab] ++ if v.lrat || v.frat then [v.unitClausesIdx] else []

/-- `vals [lit]`: `none` when it reads outside the block. -/
def val (v : Vars) (lit : Int) : Option Int :=
  v.vals.bind fun b =>
    if 0 ≤ v.vsize + lit ∧ v.vsize + lit < b.size then some (b.cells (v.vsize + lit)) else none

/-- `enlarge_init`, `enlarge_only` and `enlarge_zero`: a table smaller than `n` grows to
`n`. -/
def grow (size n : Nat) : Nat := max size n

/-- `while (new_vsize <= new_max_var) new_vsize *= 2;` with at most `fuel` doublings;
`none` when they are not enough. -/
def doubleWhile (newMaxVar : Nat) : Nat → Nat → Option Nat
  | 0, k => if k ≤ newMaxVar then none else some k
  | fuel + 1, k => if k ≤ newMaxVar then doubleWhile newMaxVar fuel (2 * k) else some k

/-- `enlarge_vals (new_vsize)`: a zeroed block of `2 * new_vsize` cells, `vals` at its cell
`new_vsize`, and the `2 * max_var + 1` cells around the old `vals` copied around the new. -/
def enlargeVals (v : Vars) (newVsize : Nat) : Option Vars :=
  match v.vals with
  | some old =>
    ((Block.zeros (2 * newVsize)).copy ((newVsize : Int) - v.maxVar) old
      ((v.vsize : Int) - v.maxVar) (2 * v.maxVar + 1)).map fun b => { v with vals := some b }
  | none => some { v with vals := some (Block.zeros (2 * newVsize)) }

/-- `enlarge (new_max_var)`: the new size, then every table grown to it. -/
def enlarge (v : Vars) (newMaxVar : Nat) : Option Vars := do
  let newVsize ← doubleWhile newMaxVar (newMaxVar + 1)
    (if v.vsize ≠ 0 then 2 * v.vsize else 1 + newMaxVar)
  let v := { v with
    unitClausesIdx :=
      if v.lrat || v.frat then grow v.unitClausesIdx (2 * newVsize) else v.unitClausesIdx
    wtab := grow v.wtab (2 * newVsize)
    vtab := grow v.vtab newVsize
    parents := grow v.parents newVsize
    links := grow v.links newVsize
    btab := grow v.btab newVsize
    gtab := grow v.gtab newVsize
    stab := grow v.stab newVsize
    ptab := grow v.ptab (2 * newVsize)
    ftab := grow v.ftab newVsize }
  let v ← v.enlargeVals newVsize
  pure { v with
    vsize := newVsize
    relevanttab := if v.external then grow v.relevanttab newVsize else v.relevanttab
    phasesSaved := grow v.phasesSaved newVsize
    phasesForced := grow v.phasesForced newVsize
    phasesTarget := grow v.phasesTarget newVsize
    phasesBest := grow v.phasesBest newVsize
    phasesPrev := grow v.phasesPrev newVsize
    phasesMin := grow v.phasesMin newVsize
    marks := grow v.marks newVsize }

/-- `init_vars (new_max_var)`. The queue, the scores and the statistics it also sets up are
not kept here. -/
def initVars (v : Vars) (newMaxVar : Int) : Option Vars :=
  if newMaxVar ≤ v.maxVar then some v
  else (if v.vsize ≤ newMaxVar.toNat then v.enlarge newMaxVar.toNat else some v).map
    fun v => { v with maxVar := newMaxVar.toNat }

/-- Modelled from the spec: an assignment writes `vals [lit]` and `vals [-lit]` together,
`x` and `-x` ("assigning a literal is atomic with assigning its negation"). -/
def assign (v : Vars) (lit x : Int) : Vars :=
  { v with vals := v.vals.map fun b => { b with cells := fun i =>
      if i = v.vsize + lit then x else if i = v.vsize - lit then -x else b.cells i } }

/-- The tables a solver can hold: the constructor's empty ones, and then any interleaving of
`init_vars` calls and assignments of literals within `max_var`. -/
inductive Reachable : Vars → Prop
  | empty (lrat frat external : Bool) : Reachable (empty lrat frat external)
  | initVars {v v' : Vars} (n : Int) : Reachable v → v.initVars n = some v' → Reachable v'
  | assign {v : Vars} (lit x : Int) : Reachable v → 0 < lit.natAbs → lit.natAbs ≤ v.maxVar →
      Reachable (v.assign lit x)

/-- `val (l) == -val (-l)` for every literal within `max_var`. -/
def Symm (v : Vars) : Prop :=
  ∀ l : Int, 0 < l.natAbs → l.natAbs ≤ v.maxVar → v.val l = (v.val (-l)).map (- ·)

end Vars

/-! ## The representation invariant -/

/-- What every call of `init_vars` keeps: `max_var` below `vsize` unless it is `0`, `vsize`
at most twice `max_var` (so `size_t` never wraps), `vals` null exactly while nothing is
allocated, a block of `2 * vsize` cells that is `0` outside the literals, and every table
as large as its index range. -/
structure VarsInv (v : Vars) : Prop where
  size : v.maxVar = 0 ∨ v.maxVar < v.vsize
  bound : v.vsize ≤ 2 * v.maxVar
  null : v.vals = none ↔ v.vsize = 0
  block : ∀ b ∈ v.vals, b.size = 2 * v.vsize
  fresh : ∀ b ∈ v.vals, ∀ i : Int, v.maxVar < (i - v.vsize).natAbs → b.cells i = 0
  perVariable : ∀ n ∈ v.perVariable, v.vsize ≤ n
  perLiteral : ∀ n ∈ v.perLiteral, 2 * v.vsize ≤ n

namespace Vars

theorem empty_inv (lrat frat external : Bool) : VarsInv (empty lrat frat external) where
  size := .inl rfl
  bound := le_rfl
  null := iff_of_true rfl rfl
  block := by simp [empty]
  fresh := by simp [empty]
  perVariable := by simp [empty, perVariable]
  perLiteral := by simp [empty, perLiteral]

/-- A literal within `max_var` reads a cell of the block. -/
theorem val_some {v : Vars} (h : VarsInv v) {l : Int} (hl0 : 0 < l.natAbs)
    (hl : l.natAbs ≤ v.maxVar) : ∃ b ∈ v.vals, v.val l = some (b.cells (v.vsize + l)) ∧
      0 ≤ (v.vsize : Int) + l ∧ (v.vsize : Int) + l < b.size := by
  have hlt : v.maxVar < v.vsize := h.size.resolve_left (by omega)
  obtain ⟨b, hb⟩ := Option.ne_none_iff_exists'.1 fun hn => by have := h.null.1 hn; omega
  have hs := h.block b hb
  refine ⟨b, hb, ?_, by omega, by omega⟩
  simp only [val, hb, Option.some_bind]
  rw [if_pos (by omega)]

/-- The doubling loop ends past `new_max_var`, and only doubles what was not past it. -/
theorem doubleWhile_spec (m : Nat) (fuel k : Nat) (hk : 1 ≤ k) (hfuel : m < k + fuel) :
    ∃ r, doubleWhile m fuel k = some r ∧ m < r ∧ (k ≤ m → r ≤ 2 * m) ∧ (m < k → r = k) := by
  induction fuel generalizing k with
  | zero => exact ⟨k, if_neg (by omega), by omega, by omega, fun _ => rfl⟩
  | succ fuel ih =>
    unfold doubleWhile
    split_ifs with hkm
    · obtain ⟨r, hr, hmr, hle, heq⟩ := ih (2 * k) (by omega) (by omega)
      refine ⟨r, hr, hmr, fun _ => ?_, fun h => absurd hkm (by omega)⟩
      by_cases h2 : 2 * k ≤ m
      · exact hle h2
      · rw [heq (by omega)]; omega
    · exact ⟨k, rfl, by omega, fun h => absurd h hkm, fun _ => rfl⟩

/-- `enlarge_vals (m)` copies the cells of the literals within `max_var` around the new
`vals` and leaves every other cell of the new block `0`. The new block depends only on
`vals`, `max_var` and `vsize`. -/
theorem enlargeVals_spec {v : Vars} (hsize : v.maxVar = 0 ∨ v.maxVar < v.vsize)
    (hnull : v.vals = none ↔ v.vsize = 0) (hblock : ∀ b ∈ v.vals, b.size = 2 * v.vsize)
    {m : Nat} (hm : v.maxVar < m) :
    ∃ b : Block, (∀ w : Vars, w.vals = v.vals → w.maxVar = v.maxVar → w.vsize = v.vsize →
        w.enlargeVals m = some { w with vals := some b }) ∧ b.size = 2 * m ∧
      ∀ i : Int, b.cells i =
        if (i - m).natAbs ≤ v.maxVar then (v.val (i - m)).getD 0 else 0 := by
  cases hold : v.vals with
  | some old =>
    have hs := hblock old hold
    have hv : v.vsize ≠ 0 := fun h0 => by simp [hnull.2 h0] at hold
    have hin : 0 ≤ (m : Int) - v.maxVar ∧ (m : Int) - v.maxVar + (2 * v.maxVar + 1 : Nat) ≤
        (Block.zeros (2 * m)).size ∧ 0 ≤ (v.vsize : Int) - v.maxVar ∧
        (v.vsize : Int) - v.maxVar + (2 * v.maxVar + 1 : Nat) ≤ old.size := by
      simp only [Block.zeros]; omega
    obtain ⟨b, hb⟩ : ∃ b, (Block.zeros (2 * m)).copy ((m : Int) - v.maxVar) old
        ((v.vsize : Int) - v.maxVar) (2 * v.maxVar + 1) = some b := ⟨_, if_pos hin⟩
    refine ⟨b, fun w h1 h2 h3 => by simp only [enlargeVals, h1, h2, h3, hold, hb,
      Option.map_some'], ?_, fun i => ?_⟩
    all_goals rw [Block.copy, if_pos hin] at hb; cases hb
    · rfl
    simp only [Block.zeros]
    split_ifs with hw hw' hw'
    · simp only [val, hold, Option.some_bind]
      rw [if_pos (by omega), Option.getD_some]
      congr 1; omega
    · exact absurd (by omega) hw'
    · exact absurd (by omega) hw
    · rfl
  | none =>
    have h0 : v.maxVar = 0 := hsize.resolve_right fun h => by have := hnull.1 hold; omega
    refine ⟨Block.zeros (2 * m), fun w h1 _ _ => by simp only [enlargeVals, h1], rfl,
      fun i => ?_⟩
    simp [Block.zeros, val, hold]

/-- `enlarge (n)` for `max_var < n` and `vsize <= n`: a size past `n` and at most `2n`,
every table grown to it, and a block holding the values of the literals within `max_var`
and `0` for the others. -/
theorem enlarge_spec {v : Vars} (h : VarsInv v) {n : Nat} (hmax : v.maxVar < n)
    (hvs : v.vsize ≤ n) :
    ∃ v', v.enlarge n = some v' ∧ VarsInv { v' with maxVar := n } ∧ ∀ l : Int, l.natAbs ≤ n →
      v'.val l = some (if l.natAbs ≤ v.maxVar then (v.val l).getD 0 else 0) := by
  have hk : 1 ≤ (if v.vsize ≠ 0 then 2 * v.vsize else 1 + n) := by split_ifs <;> omega
  obtain ⟨r, hr, hnr, hle, heq⟩ := doubleWhile_spec n (n + 1) _ hk (by omega)
  have hr2 : r ≤ 2 * n := by
    by_cases hkn : (if v.vsize ≠ 0 then 2 * v.vsize else 1 + n) ≤ n
    · exact hle hkn
    · rw [heq (by omega)]; split_ifs <;> omega
  obtain ⟨b, hb, hbs, hcells⟩ := enlargeVals_spec h.size h.null h.block (m := r) (by omega)
  simp only [enlarge, hr, Option.bind_eq_bind, Option.some_bind]
  rw [hb] <;> try rfl
  refine ⟨_, rfl, ⟨.inr hnr, hr2, by simp; omega, by simp [hbs], ?_, ?_, ?_⟩, fun l hl => ?_⟩
  · simp only [Option.mem_def, Option.some.injEq, forall_eq']
    intro i hi
    rw [hcells, if_neg (by omega)]
  · simp only [perVariable, grow, List.forall_mem_append, List.forall_mem_cons, le_max_right,
      List.not_mem_nil, true_and, and_true, IsEmpty.forall_iff, forall_const]
    split_ifs <;> simp
  · simp only [perLiteral, grow, List.forall_mem_append, List.forall_mem_cons, le_max_right,
      List.not_mem_nil, true_and, and_true, IsEmpty.forall_iff, forall_const]
    split_ifs <;> simp
  · show (some b).bind (fun b => if 0 ≤ (r : Int) + l ∧ (r : Int) + l < b.size then
      some (b.cells (r + l)) else none) = _
    rw [Option.some_bind, if_pos (by omega), hcells, add_sub_cancel_left]

/-- One call of `init_vars (n)`, with or without `enlarge`: it is defined, keeps the
invariant, raises `max_var` to `n`, and reads every literal within the new `max_var` as the
old value within the old `max_var` and `0` past it. -/
theorem initVars_spec {v : Vars} (h : VarsInv v) (n : Int) :
    ∃ v', v.initVars n = some v' ∧ VarsInv v' ∧ v'.maxVar = max v.maxVar n.toNat ∧
      ∀ l : Int, 0 < l.natAbs → l.natAbs ≤ v'.maxVar →
        v'.val l = some (if l.natAbs ≤ v.maxVar then (v.val l).getD 0 else 0) := by
  unfold initVars
  split_ifs with hn hvs
  · refine ⟨v, rfl, h, by omega, fun l hl0 hl => ?_⟩
    obtain ⟨b, -, hb, -⟩ := val_some h hl0 hl
    rw [if_pos hl, hb, Option.getD_some]
  · obtain ⟨v', he, hinv, hval⟩ := enlarge_spec h (n := n.toNat) (by omega) hvs
    rw [he]
    exact ⟨_, rfl, hinv, by simp; omega, fun l _ hl => hval l hl⟩
  · have hlt : n.toNat < v.vsize := by omega
    obtain ⟨b, hb⟩ := Option.ne_none_iff_exists'.1 fun hnull => by have := h.null.1 hnull; omega
    have hs := h.block b hb
    refine ⟨{ v with maxVar := n.toNat }, rfl, ⟨.inr hlt, ?_, h.null, h.block,
      fun b' hb' i hi => h.fresh b' hb' i (by dsimp only at hi; omega), h.perVariable,
      h.perLiteral⟩, by dsimp only; omega, fun l hl0 hl => ?_⟩
    · have := h.bound; dsimp only; omega
    show v.val l = _
    dsimp only at hl
    simp only [val, hb, Option.some_bind]
    rw [if_pos (by omega)]
    split_ifs with hlm
    · rfl
    · rw [h.fresh b hb _ (by omega)]

end Vars

/-! ## Every reachable state -/

section assign

variable {v : Vars} {lit : Int} (x : Int)

/-- An assignment of a literal within `max_var` writes two cells inside the block and keeps
the invariant. -/
theorem VarsInv.assign (hl : lit.natAbs ≤ v.maxVar) (h : VarsInv v) : VarsInv (v.assign lit x) where
  size := h.size
  bound := h.bound
  null := by simpa only [Vars.assign, Option.map_eq_none'] using h.null
  block := fun b hb => by
    obtain ⟨b', hb', rfl⟩ := Option.mem_map.1 hb
    exact h.block b' hb'
  fresh := fun b hb i hi => by
    obtain ⟨b', hb', rfl⟩ := Option.mem_map.1 hb
    have hi' : v.maxVar < (i - v.vsize).natAbs := hi
    dsimp only
    rw [if_neg (by omega), if_neg (by omega)]
    exact h.fresh b' hb' i hi'
  perVariable := h.perVariable
  perLiteral := h.perLiteral

/-- After an assignment `vals [lit]` holds `x`, `vals [-lit]` holds `-x`, and every other
literal within `max_var` keeps its value. -/
theorem Vars.val_assign (h : VarsInv v) (l : Int) (hl0 : 0 < l.natAbs) (hl : l.natAbs ≤ v.maxVar) :
    (v.assign lit x).val l =
      if l = lit then some x else if l = -lit then some (-x) else v.val l := by
  obtain ⟨b, hb, hval, hlo, hhi⟩ := Vars.val_some h hl0 hl
  have hb' : (v.assign lit x).vals = some { b with cells := fun i =>
      if i = v.vsize + lit then x else if i = v.vsize - lit then -x else b.cells i } := by
    rw [Option.mem_def] at hb
    simp only [Vars.assign, hb, Option.map_some']
  simp only [Vars.val, hb', Option.some_bind] at hval ⊢
  rw [show (v.assign lit x).vsize = v.vsize from rfl, if_pos ⟨hlo, hhi⟩, hval]
  split_ifs <;> first | rfl | omega

/-- An assignment keeps `val (l) == -val (-l)`. -/
theorem Vars.Symm.assign (hl0 : 0 < lit.natAbs) (h : VarsInv v) (hs : v.Symm) :
    (v.assign lit x).Symm := by
  intro l hl0' hl'
  have hl'' : l.natAbs ≤ v.maxVar := hl'
  rw [Vars.val_assign x h l hl0' hl'', Vars.val_assign x h (-l) (by omega) (by omega)]
  by_cases h1 : l = lit
  · subst h1; simp [show -l ≠ l by omega]
  · by_cases h2 : l = -lit
    · subst h2; simp [h1]
    · rw [if_neg h1, if_neg h2, if_neg (by omega), if_neg (by omega)]
      exact hs l hl0' hl''

end assign

namespace Vars

/-- `init_vars` keeps `val (l) == -val (-l)`: the old literals keep their values and the new
ones read `0`. -/
theorem Symm.initVars {v v' : Vars} (h : VarsInv v) (hs : v.Symm) {n : Int}
    (he : v.initVars n = some v') : v'.Symm := by
  obtain ⟨w, hw, -, -, hval⟩ := initVars_spec h n
  obtain rfl : w = v' := Option.some.inj (hw.symm.trans he)
  intro l hl0 hl
  rw [hval l hl0 hl, hval (-l) (by omega) (by omega), Int.natAbs_neg]
  split_ifs with hlm
  · obtain ⟨b, -, hb, -⟩ := val_some h hl0 hlm
    obtain ⟨b', -, hb', -⟩ := val_some h (l := -l) (by omega) (by omega)
    have := hs l hl0 hlm
    rw [hb, hb'] at this ⊢
    simpa using this
  · rfl

/-- Every reachable state keeps the invariant and `val (l) == -val (-l)`. -/
theorem Reachable.inv {v : Vars} (h : Reachable v) : VarsInv v ∧ v.Symm := by
  induction h with
  | empty lrat frat external => exact ⟨empty_inv lrat frat external, fun l hl0 hl =>
      absurd hl (by show ¬ l.natAbs ≤ 0; omega)⟩
  | initVars n _ he ih =>
    obtain ⟨w, hw, hinv, -⟩ := initVars_spec ih.1 n
    obtain rfl := Option.some.inj (hw.symm.trans he)
    exact ⟨hinv, ih.2.initVars ih.1 he⟩
  | assign lit x _ hl0 hl ih => exact ⟨ih.1.assign x hl, ih.2.assign x hl0 ih.1⟩

/-- From every state a solver can hold, one more `init_vars (n)` call is defined and keeps
the invariant: `max_var` below `vsize` unless it is `0`, a block of `2 * vsize` cells holding
every literal within `max_var`, per-variable tables of at least `vsize` entries and
per-literal ones of at least `2 * vsize`. The call keeps the value of every old literal and
gives every new literal `0`, with or without a new block, and `val (l) == -val (-l)` still
holds after it. -/
theorem initVars_keeps_values (v : Vars) (hv : Reachable v) (n : Int) :
    ∃ v', v.initVars n = some v' ∧
      (v'.maxVar = 0 ∨ v'.maxVar < v'.vsize) ∧
      (∀ l : Int, 0 < l.natAbs → l.natAbs ≤ v'.maxVar →
        ∃ b ∈ v'.vals, b.size = 2 * v'.vsize ∧ 0 ≤ (v'.vsize : Int) + l ∧
          (v'.vsize : Int) + l < b.size) ∧
      (∀ k ∈ v'.perVariable, v'.vsize ≤ k) ∧ (∀ k ∈ v'.perLiteral, 2 * v'.vsize ≤ k) ∧
      v'.maxVar = max v.maxVar n.toNat ∧
      (∀ l : Int, 0 < l.natAbs → l.natAbs ≤ v.maxVar → v'.val l = v.val l) ∧
      (∀ l : Int, v.maxVar < l.natAbs → l.natAbs ≤ v'.maxVar → v'.val l = some 0) ∧
      v'.Symm := by
  obtain ⟨h, hs⟩ := hv.inv
  obtain ⟨v', he, h', hmax, hval⟩ := initVars_spec h n
  refine ⟨v', he, h'.size, fun l hl0 hl => ?_, h'.perVariable, h'.perLiteral, hmax,
    fun l hl0 hl => ?_, fun l hl hl' => ?_, hs.initVars h he⟩
  · obtain ⟨b, hb, -, hlo, hhi⟩ := val_some h' hl0 hl
    exact ⟨b, hb, h'.block b hb, hlo, hhi⟩
  · obtain ⟨b, -, hb, -⟩ := val_some h hl0 hl
    rw [hval l hl0 (by omega), if_pos hl, hb, Option.getD_some]
  · rw [hval l (by omega) hl', if_neg (by omega)]

/-- The tables after `init_vars (2)` from the empty ones, with `x1` then assigned true. -/
def assignedVars : Vars :=
  (((empty false false false).initVars 2).getD (empty false false false)).assign 1 1

theorem initVars_keeps_values_assignedVars :
    Reachable assignedVars ∧ assignedVars.val 1 = some 1 ∧
      ∃ v', assignedVars.initVars 5 = some v' ∧
      (v'.maxVar = 0 ∨ v'.maxVar < v'.vsize) ∧
      (∀ l : Int, 0 < l.natAbs → l.natAbs ≤ v'.maxVar →
        ∃ b ∈ v'.vals, b.size = 2 * v'.vsize ∧ 0 ≤ (v'.vsize : Int) + l ∧
          (v'.vsize : Int) + l < b.size) ∧
      (∀ k ∈ v'.perVariable, v'.vsize ≤ k) ∧ (∀ k ∈ v'.perLiteral, 2 * v'.vsize ≤ k) ∧
      v'.maxVar = max assignedVars.maxVar (5 : Int).toNat ∧
      (∀ l : Int, 0 < l.natAbs → l.natAbs ≤ assignedVars.maxVar →
        v'.val l = assignedVars.val l) ∧
      (∀ l : Int, assignedVars.maxVar < l.natAbs → l.natAbs ≤ v'.maxVar → v'.val l = some 0) ∧
      v'.Symm := by
  have h : Reachable assignedVars :=
    .assign 1 1 (.initVars 2 (.empty false false false) rfl) (by decide) (by decide)
  exact ⟨h, by decide, initVars_keeps_values _ h 5⟩

end Vars
end cautical
