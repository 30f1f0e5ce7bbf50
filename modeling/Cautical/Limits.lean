-- The limits an incremental session keeps across calls (`lim.subsume` .. `lim.flush`):
-- which entry point gives them their initial values, and what the CDCL loop finds.
-- Both init functions key on `lim.initialized`, which only `init_search_limits` sets.
import Cautical.Basic

namespace cautical

/-! ## The session -/

/-- The limits kept across the calls of an incremental session. -/
inductive Limit
  | subsume | elim | compact | probe | condition | reduce | flush
  deriving DecidableEq, Repr

/-- The limits `init_preprocessing_limits` initialises. -/
def Limit.preprocessing : List Limit := [.subsume, .elim, .compact, .probe, .condition]

/-- Every kept limit. -/
def Limit.all : List Limit := Limit.preprocessing ++ [.reduce, .flush]

/-- What the initial limits add to the conflict count: `scale (opts.subsumeint)`,
`scale (opts.elimint)`, `opts.compactint`, `opts.probeint`, `opts.conditionint` and
`opts.reduceint`; `opts.flushint` is the initial flush limit itself. -/
structure Intervals where
  subsumeint : Int
  elimint : Int
  compactint : Int
  probeint : Int
  conditionint : Int
  reduceint : Int
  flushint : Int

/-- The state the limits live in: `stats.conflicts`, `lim.initialized` and the kept
limits, with two ghost fields: how often each limit was given an initial value, and for
each CDCL loop started, newest first, the limits that had none then. -/
structure Session where
  conflicts : Int
  initialized : Bool
  lim : Limit → Int
  writes : Limit → Nat
  loops : List (List Limit)

/-- What the parts of one call that lie in other files give back: `already_solved` with
`restore_clauses`, `preprocess`, the global preprocessing (`0` when `globalpreprocess` is
off), `local_search`, `lucky_phases` and the search loop; whether an external propagator
is connected; and the conflicts the call adds. -/
structure Answers where
  solved : Int
  preprocess : Int
  global : Int
  localSearch : Int
  lucky : Int
  loop : Int
  externalProp : Bool
  conflicts : Nat

/-- The entry points of a session. -/
inductive Entry
  | solve (preprocessOnly : Bool) (a : Answers)
  | propagateAssumptions (a : Answers)

namespace Session

/-- A new solver: the constructor of `Limit` zeroes every limit. -/
def init : Session := ⟨0, false, fun _ => 0, fun _ => 0, []⟩

/-- The limits not yet given an initial value. -/
def unset (s : Session) : List Limit := Limit.all.filter (s.writes · = 0)

/-- Giving a limit its initial value. -/
def setLimit (s : Session) (l : Limit) (v : Int) : Session :=
  { s with lim := Function.update s.lim l v,
           writes := Function.update s.writes l (s.writes l + 1) }

/-- `init_preprocessing_limits`: the first time, each preprocessing limit is the conflict
count plus its interval; afterwards they are kept. -/
def initPreprocessingLimits (o : Intervals) (s : Session) : Session :=
  if s.initialized then s
  else
    s.setLimit .subsume (s.conflicts + o.subsumeint)
      |>.setLimit .elim (s.conflicts + o.elimint)
      |>.setLimit .compact (s.conflicts + o.compactint)
      |>.setLimit .probe (s.conflicts + o.probeint)
      |>.setLimit .condition (s.conflicts + o.conditionint)

/-- `init_search_limits`: the first time, `reduce` and `flush`; in any case it ends by
setting `lim.initialized`. -/
def initSearchLimits (o : Intervals) (s : Session) : Session :=
  let s := if s.initialized then s
    else s.setLimit .reduce (s.conflicts + o.reduceint) |>.setLimit .flush o.flushint
  { s with initialized := true }

/-- `cdcl_loop_with_inprocessing` starts; the ghost notes the limits it finds unset. -/
def search (s : Session) : Session := { s with loops := s.unset :: s.loops }

/-- The limits part of `solve`: when `already_solved` and `restore_clauses` leave the
result open, `init_preprocessing_limits` and, in full mode, `init_search_limits`. -/
def initLimits (o : Intervals) (a : Answers) (preprocessOnly : Bool) (s : Session) :
    Session :=
  if a.solved = 0 then
    let s := s.initPreprocessingLimits o
    if preprocessOnly then s else s.initSearchLimits o
  else s

/-- `solve`, at the root level. After the limits, in full mode the CDCL loop runs when the
result is still open after the preprocessing, the local search and the lucky phases, or is
`10` with an external propagator. -/
def solve (o : Intervals) (a : Answers) (preprocessOnly : Bool) (s : Session) :
    Session × Int :=
  let s := s.initLimits o a preprocessOnly
  let res := if a.solved = 0 then a.preprocess else a.solved
  let res := if res = 0 then a.global else res
  let r : Session × Int :=
    if preprocessOnly then (s, res)
    else
      let res := if res = 0 then a.localSearch else res
      let res := if res = 0 then a.lucky else res
      if res = 0 ∨ (res = 10 ∧ a.externalProp) then (s.search, a.loop) else (s, res)
  ({ r.1 with conflicts := r.1.conflicts + a.conflicts }, r.2)

/-- `propagate_assumptions`: it initialises the search limits only; its own loop reads
none of the kept limits. -/
def propagateAssumptions (o : Intervals) (a : Answers) (s : Session) : Session × Int :=
  let s := s.initSearchLimits o
  ({ s with conflicts := s.conflicts + a.conflicts }, if a.solved = 0 then a.loop else a.solved)

/-- One call of an entry point. -/
def call (o : Intervals) (s : Session) : Entry → Session
  | .solve p a => (s.solve o a p).1
  | .propagateAssumptions a => (s.propagateAssumptions o a).1

/-- A session: the calls in order. -/
def run (o : Intervals) (s : Session) (es : List Entry) : Session := es.foldl (call o) s

/-! ## Frame lemmas -/

section Frame

variable (o : Intervals) (s : Session)

@[simp] theorem setLimit_initialized (l : Limit) (v : Int) :
    (s.setLimit l v).initialized = s.initialized := rfl

@[simp] theorem setLimit_writes (l : Limit) (v : Int) :
    (s.setLimit l v).writes = Function.update s.writes l (s.writes l + 1) := rfl

@[simp] theorem initPreprocessingLimits_initialized :
    (s.initPreprocessingLimits o).initialized = s.initialized := by
  unfold initPreprocessingLimits; split <;> rfl

@[simp] theorem initSearchLimits_initialized : (s.initSearchLimits o).initialized = true := rfl

theorem initPreprocessingLimits_of_initialized (h : s.initialized = true) :
    s.initPreprocessingLimits o = s := if_pos h

theorem initSearchLimits_of_initialized (h : s.initialized = true) :
    s.initSearchLimits o = s := by
  cases s; simp_all [initSearchLimits]

/-- `init_preprocessing_limits` writes none of the search limits. -/
theorem initPreprocessingLimits_writes_search (l : Limit) (hl : l = .reduce ∨ l = .flush) :
    (s.initPreprocessingLimits o).writes l = s.writes l := by
  unfold initPreprocessingLimits
  split
  · rfl
  · rcases hl with rfl | rfl <;> simp [Function.update_noteq]

/-- The state `solve` leaves: that of its limits part, with a CDCL loop started or not,
and the conflicts of the call added. -/
theorem solve_fst (a : Answers) (p : Bool) :
    ∃ t, (t = s.initLimits o a p ∨ t = (s.initLimits o a p).search) ∧
      (s.solve o a p).1 = { t with conflicts := t.conflicts + a.conflicts } := by
  refine ⟨_, ?_, rfl⟩
  cases p
  · simp only [apply_ite Prod.fst, Bool.false_eq_true, if_false]
    exact (ite_eq_or_eq _ _ _).symm
  · exact Or.inl rfl

end Frame

/-! ## Laws over whole sessions -/

section Laws

variable (o : Intervals)

/-- Once `lim.initialized` is set at `s`, every later state `t` keeps it, writes no limit
again, keeps the loops noted so far, and every loop it starts finds the limits unset at
`s` unset. -/
structure Frozen (s t : Session) : Prop where
  initialized : t.initialized = true
  writes : t.writes = s.writes
  loops_mem : ∀ u ∈ s.loops, u ∈ t.loops
  loops_of : ∀ u ∈ t.loops, u ∈ s.loops ∨ u = s.unset

theorem Frozen.refl {s : Session} (h : s.initialized = true) : Frozen s s :=
  ⟨h, rfl, fun _ hu => hu, fun _ hu => Or.inl hu⟩

theorem Frozen.search {s t : Session} (h : Frozen s t) : Frozen s t.search where
  initialized := h.initialized
  writes := h.writes
  loops_mem u hu := List.mem_cons_of_mem _ (h.loops_mem u hu)
  loops_of u hu := by
    rcases List.mem_cons.1 hu with rfl | hu
    · exact Or.inr (by simp only [unset, h.writes])
    · exact h.loops_of u hu

theorem Frozen.addConflicts {s t : Session} (h : Frozen s t) (n : Nat) :
    Frozen s { t with conflicts := t.conflicts + n } :=
  ⟨h.initialized, h.writes, h.loops_mem, h.loops_of⟩

/-- One call keeps a frozen state frozen. -/
theorem Frozen.call {s t : Session} (h : Frozen s t) (e : Entry) : Frozen s (t.call o e) := by
  have hi := h.initialized
  cases e with
  | solve p a =>
    have hl : t.initLimits o a p = t := by
      unfold initLimits
      split_ifs <;> simp only [initPreprocessingLimits_of_initialized _ _ hi,
        initSearchLimits_of_initialized _ _ hi]
    obtain ⟨u, hu | hu, he⟩ := t.solve_fst o a p <;> rw [hl] at hu <;> subst hu <;>
      simp only [Session.call, he]
    · exact h.addConflicts _
    · exact h.search.addConflicts _
  | propagateAssumptions a =>
    simp only [Session.call, propagateAssumptions, initSearchLimits_of_initialized _ _ hi]
    exact h.addConflicts _

theorem Frozen.run {s t : Session} (h : Frozen s t) (es : List Entry) :
    Frozen s (t.run o es) := by
  induction es generalizing t with
  | nil => exact h
  | cons e es ih => exact ih (h.call o e)

/-- The search limits are written once, by the call that sets `lim.initialized`. -/
def SearchOnce (s : Session) : Prop :=
  s.writes .reduce = s.initialized.toNat ∧ s.writes .flush = s.initialized.toNat

theorem SearchOnce.initSearchLimits {s : Session} (h : SearchOnce s) :
    SearchOnce (s.initSearchLimits o) := by
  unfold Session.initSearchLimits
  cases hi : s.initialized
  · simp_all [SearchOnce, Function.update_noteq]
  · simp_all [SearchOnce]

theorem SearchOnce.initPreprocessingLimits {s : Session} (h : SearchOnce s) :
    SearchOnce (s.initPreprocessingLimits o) := by
  simpa only [SearchOnce, initPreprocessingLimits_initialized,
    initPreprocessingLimits_writes_search o s _ (Or.inl rfl),
    initPreprocessingLimits_writes_search o s _ (Or.inr rfl)] using h

theorem SearchOnce.call {s : Session} (h : SearchOnce s) (e : Entry) :
    SearchOnce (s.call o e) := by
  cases e with
  | solve p a =>
    have hl : SearchOnce (s.initLimits o a p) := by
      unfold initLimits
      split_ifs
      · exact h.initPreprocessingLimits o
      · exact (h.initPreprocessingLimits o).initSearchLimits o
      · exact h
    obtain ⟨u, hu | hu, he⟩ := s.solve_fst o a p <;> subst hu <;>
      simp only [Session.call, he] <;> exact hl
  | propagateAssumptions a => exact h.initSearchLimits o

theorem SearchOnce.run {s : Session} (h : SearchOnce s) (es : List Entry) :
    SearchOnce (s.run o es) := by
  induction es generalizing s with
  | nil => exact h
  | cons e es ih => exact ih (h.call o e)

/-- In every session the search limits `reduce` and `flush` are given their initial value
at most once. -/
theorem run_search_limits_once (es : List Entry) :
    (init.run o es).writes .reduce ≤ 1 ∧ (init.run o es).writes .flush ≤ 1 := by
  have h := SearchOnce.run o (s := init) ⟨rfl, rfl⟩ es
  exact ⟨h.1 ▸ Bool.toNat_le _, h.2 ▸ Bool.toNat_le _⟩

/-- No part of a call gives a result or a conflict. -/
def quiet : Answers := ⟨0, 0, 0, 0, 0, 0, false, 0⟩

/-- A session that starts with a full `solve` whose result is open after
`already_solved` gives every kept limit its initial value exactly once, and every CDCL
loop of the session finds them all set. -/
theorem run_solve_first_sets_limits_once (a : Answers) (h : a.solved = 0)
    (es : List Entry) :
    (∀ l, (init.run o (.solve false a :: es)).writes l = 1) ∧
      ∀ u ∈ (init.run o (.solve false a :: es)).loops, u = [] := by
  have hi : init.initLimits o a false = (init.initPreprocessingLimits o).initSearchLimits o :=
    if_pos h
  have f0 := Frozen.refl (s := init.initLimits o a false) (by rw [hi]; rfl)
  have f1 : Frozen (init.initLimits o a false) (init.call o (.solve false a)) := by
    obtain ⟨t, rfl | rfl, he⟩ := init.solve_fst o a false <;> simp only [Session.call, he]
    · exact f0.addConflicts _
    · exact f0.search.addConflicts _
  have hr := f1.run o es
  have hw : ∀ l, (init.initLimits o a false).writes l = 1 := by
    rw [hi]; intro l; cases l <;> rfl
  refine ⟨fun l => (congrFun hr.writes l).trans (hw l), fun u hu => ?_⟩
  rcases hr.loops_of u hu with hm | rfl
  · rw [hi] at hm
    exact absurd hm (List.not_mem_nil _)
  · simp [unset, hw]

theorem run_solve_first_sets_limits_once_quiet :
    quiet.solved = 0 ∧ (∀ l, (init.run ⟨1, 1, 1, 1, 1, 1, 1⟩
      (.solve false quiet :: [.propagateAssumptions quiet, .solve true quiet])).writes l = 1) :=
  ⟨rfl, (run_solve_first_sets_limits_once ⟨1, 1, 1, 1, 1, 1, 1⟩ quiet rfl _).1⟩

/-- A session that starts with `propagate_assumptions` sets `lim.initialized` without the
preprocessing limits, so no later call gives them an initial value and the CDCL loop of a
full `solve` starts with all five unset; and two preprocess-only calls give `subsume` its
initial value twice. -/
theorem session_skips_or_resets_limits (es : List Entry) :
    (∀ l ∈ Limit.preprocessing,
      (init.run o (.propagateAssumptions quiet :: .solve false quiet :: es)).writes l = 0) ∧
      Limit.preprocessing ∈
        (init.run o (.propagateAssumptions quiet :: .solve false quiet :: es)).loops ∧
      (init.run o [.solve true quiet, .solve true quiet]).writes .subsume = 2 := by
  have s2 := Frozen.refl (s := init.run o [.propagateAssumptions quiet, .solve false quiet]) rfl
  have hr := s2.run o es
  refine ⟨fun l hl => (congrFun hr.writes l).trans ?_,
    hr.loops_mem _ (List.mem_singleton.2 rfl), rfl⟩
  simp only [Limit.preprocessing, List.mem_cons, List.mem_singleton, List.not_mem_nil,
    or_false] at hl
  rcases hl with rfl | rfl | rfl | rfl | rfl <;> rfl

end Laws

end Session
end cautical
