-- The clause ids: `reserve_ids` sets `1 .. reserved_ids` aside for the original clauses,
-- `add_original_lit (0)` hands those out in order and then goes on from `clause_id`, and
-- `add_clause` takes the next `clause_id` for each globally blocked unit.
import Mathlib.Data.List.Sort

namespace cautical

/-- Who received an issued id. -/
inductive Origin
  | original | derived
  deriving DecidableEq, Repr

/-- The id counters `clause_id`, `original_id` and `reserved_ids` (`uint64_t`, which no
session exhausts), the literals of the original clause being read (`original`), and, as a
ghost, the ids issued, oldest first. -/
structure Ids where
  clauseId : Nat
  originalId : Nat
  reservedIds : Nat
  original : List Int
  issued : List (Origin × Nat)

/-- The calls that issue ids, after `reserve_ids`. -/
inductive IdOp
  | addOriginalLit (lit : Int)
  | addUnit

/-- Whether a call issues an id, and to whom: `add_original_lit (0)` ends an original
clause, `add_clause` issues one for its unit, and a literal other than `0` issues none. -/
def IdOp.issues : IdOp → Option Origin
  | .addOriginalLit lit => if lit = 0 then some .original else none
  | .addUnit => some .derived

namespace Ids

/-- A new solver: the constructor zeroes the three counters. -/
def init : Ids := ⟨0, 0, 0, [], []⟩

/-- `reserve_ids (number)`; its assert that all three counters are still zero is compiled
out. -/
def reserveIds (s : Ids) (number : Nat) : Ids :=
  { s with clauseId := number, reservedIds := number }

/-- `add_original_lit (lit)`: a literal goes to `original`; `0` ends the clause, which
takes the next reserved id while there is one and `++clause_id` after. -/
def addOriginalLit (s : Ids) (lit : Int) : Ids :=
  if lit ≠ 0 then { s with original := s.original ++ [lit] }
  else if s.originalId < s.reservedIds then
    { s with originalId := s.originalId + 1, original := [],
             issued := s.issued ++ [(.original, s.originalId + 1)] }
  else
    { s with clauseId := s.clauseId + 1, original := [],
             issued := s.issued ++ [(.original, s.clauseId + 1)] }

/-- The id `add_clause` gives a globally blocked unit: `++clause_id`. -/
def addUnit (s : Ids) : Ids :=
  { s with clauseId := s.clauseId + 1, issued := s.issued ++ [(.derived, s.clauseId + 1)] }

/-- One call. -/
def step (s : Ids) : IdOp → Ids
  | .addOriginalLit lit => s.addOriginalLit lit
  | .addUnit => s.addUnit

/-- A run of calls, in order. -/
def run (s : Ids) (ops : List IdOp) : Ids := ops.foldl step s

/-- The ids issued to the original clauses, oldest first. -/
def originalIds (s : Ids) : List Nat := (s.issued.filter (·.1 = .original)).map Prod.snd

/-! ## The log follows the calls -/

/-- Each call that issues an id adds one entry to the log, of its own origin. -/
theorem issued_step (s : Ids) (op : IdOp) :
    (s.step op).issued.map Prod.fst = s.issued.map Prod.fst ++ op.issues.toList := by
  cases op with
  | addOriginalLit lit =>
    simp only [step, addOriginalLit, IdOp.issues]
    split_ifs <;> simp_all
  | addUnit => simp [step, addUnit, IdOp.issues]

theorem issued_run (s : Ids) (ops : List IdOp) :
    (s.run ops).issued.map Prod.fst = s.issued.map Prod.fst ++ ops.filterMap IdOp.issues := by
  induction ops generalizing s with
  | nil => simp [run]
  | cons op ops ih =>
    show (run (s.step op) ops).issued.map Prod.fst = _
    rw [ih, issued_step, List.filterMap_cons]
    cases op.issues <;> simp

/-! ## The invariant of the counters -/

/-- What holds after `reserve_ids (n)` and any calls: the ids up to `n` issued are
`1 .. original_id`, all to original clauses; the original clauses got `1 .. original_id`
first, in order, and later ids only once the reserve was used up; the later ids rise
strictly; and no id is above `clause_id` or issued twice. -/
structure Fresh (n : Nat) (s : Ids) : Prop where
  reserved : s.reservedIds = n
  original_le : s.originalId ≤ n
  le_clause : n ≤ s.clauseId
  bounded : ∀ p ∈ s.issued, p.2 ≤ s.clauseId
  nodup : (s.issued.map Prod.snd).Nodup
  low : s.issued.filter (·.2 ≤ n) = (List.range' 1 s.originalId).map (.original, ·)
  originals : ∃ hi, s.originalIds = List.range' 1 s.originalId ++ hi ∧ (∀ i ∈ hi, n < i) ∧
    (hi ≠ [] → s.originalId = n)
  high : ((s.issued.filter (n < ·.2)).map Prod.snd).Sorted (· < ·)

variable {n : Nat} {s : Ids}

theorem fresh_reserveIds : Fresh n (init.reserveIds n) :=
  ⟨rfl, Nat.zero_le _, le_rfl, by simp [reserveIds, init], List.nodup_nil, rfl,
    ⟨[], rfl, by simp, fun h => absurd rfl h⟩, List.sorted_nil⟩

/-- Issuing `clause_id + 1` keeps the invariant. -/
theorem Fresh.issue_next (h : Fresh n s) (o : Origin) (ho : o = .original → s.originalId = n)
    (lst : List Int) :
    Fresh n { s with clauseId := s.clauseId + 1, original := lst,
                     issued := s.issued ++ [(o, s.clauseId + 1)] } := by
  have hn : ¬ s.clauseId + 1 ≤ n := by have := h.le_clause; omega
  have hnew : s.clauseId + 1 ∉ s.issued.map Prod.snd := fun hm => by
    obtain ⟨p, hp, hpe⟩ := List.mem_map.1 hm
    have := h.bounded p hp; omega
  refine ⟨h.reserved, h.original_le, Nat.le_succ_of_le h.le_clause, ?_, ?_, ?_, ?_, ?_⟩
  · simp only [List.mem_append, List.mem_singleton]
    rintro p (hp | rfl)
    · have := h.bounded p hp; omega
    · exact le_rfl
  · rw [List.map_append, List.map_singleton, List.nodup_append_comm]
    exact List.nodup_cons.2 ⟨hnew, h.nodup⟩
  · simpa only [List.filter_append, List.filter_singleton, hn, decide_False, cond_false,
      List.append_nil] using h.low
  · obtain ⟨hi, hor, hhi, hne⟩ := h.originals
    simp only [originalIds, List.filter_append, List.filter_singleton, List.map_append] at hor ⊢
    cases o with
    | original =>
      refine ⟨hi ++ [s.clauseId + 1], by simp [hor], fun i hi' => ?_, fun _ => ho rfl⟩
      rcases List.mem_append.1 hi' with hi' | hi'
      · exact hhi i hi'
      · rw [List.mem_singleton.1 hi']; omega
    | derived => exact ⟨hi, by simpa using hor, hhi, hne⟩
  · have hgt : n < s.clauseId + 1 := by omega
    simp only [List.filter_append, List.filter_singleton, hgt, decide_True, cond_true,
      List.map_append, List.map_cons, List.map_nil]
    refine List.pairwise_append.2 ⟨h.high, List.pairwise_singleton _ _, fun a ha b hb => ?_⟩
    obtain ⟨p, hp, rfl⟩ := List.mem_map.1 ha
    have := h.bounded p (List.mem_of_mem_filter hp)
    rw [List.mem_singleton.1 hb]; omega

/-- Issuing the next reserved id keeps the invariant. -/
theorem Fresh.issue_reserved (h : Fresh n s) (hlt : s.originalId < s.reservedIds) :
    Fresh n { s with originalId := s.originalId + 1, original := [],
                     issued := s.issued ++ [(.original, s.originalId + 1)] } := by
  have hr := h.reserved
  have hle : s.originalId + 1 ≤ n := by omega
  have hnew : s.originalId + 1 ∉ s.issued.map Prod.snd := fun hm => by
    obtain ⟨p, hp, hpe⟩ := List.mem_map.1 hm
    have hpn : p.2 ≤ n := by omega
    have hlow : p ∈ s.issued.filter (·.2 ≤ n) := List.mem_filter.2 ⟨hp, by simpa using hpn⟩
    rw [h.low] at hlow
    obtain ⟨k, hk, rfl⟩ := List.mem_map.1 hlow
    simp only [List.mem_range'_1] at hk
    omega
  refine ⟨hr, hle, h.le_clause, ?_, ?_, ?_, ?_, ?_⟩
  · simp only [List.mem_append, List.mem_singleton]
    rintro p (hp | rfl)
    · exact h.bounded p hp
    · have := h.le_clause; omega
  · rw [List.map_append, List.map_singleton, List.nodup_append_comm]
    exact List.nodup_cons.2 ⟨hnew, h.nodup⟩
  · simp only [List.filter_append, List.filter_singleton, hle, decide_True, cond_true, h.low,
      List.range'_1_concat, List.map_append, List.map_cons, List.map_nil, Nat.add_comm]
  · obtain ⟨hi, hor, -, hne⟩ := h.originals
    obtain rfl : hi = [] := by by_contra hh; have := hne hh; omega
    refine ⟨[], ?_, by simp, fun h' => absurd rfl h'⟩
    simp only [originalIds, List.filter_append, List.filter_singleton, List.map_append] at hor ⊢
    simp [hor, List.range'_1_concat, Nat.add_comm]
  · have hn : ¬ n < s.originalId + 1 := by omega
    simpa only [List.filter_append, List.filter_singleton, hn, decide_False, cond_false,
      List.append_nil] using h.high

/-- Every call keeps the invariant. -/
theorem Fresh.step (h : Fresh n s) (op : IdOp) : Fresh n (s.step op) := by
  cases op with
  | addOriginalLit lit =>
    show Fresh n (s.addOriginalLit lit)
    unfold addOriginalLit
    split_ifs with h0 hlt
    · exact ⟨h.reserved, h.original_le, h.le_clause, h.bounded, h.nodup, h.low, h.originals,
        h.high⟩
    · exact h.issue_reserved hlt
    · exact h.issue_next _ (fun _ => by have := h.original_le; have := h.reserved; omega) _
  | addUnit => exact h.issue_next .derived (fun h' => by cases h') s.original

theorem Fresh.run (h : Fresh n s) (ops : List IdOp) : Fresh n (s.run ops) := by
  induction ops generalizing s with
  | nil => exact h
  | cons op ops ih => exact ih (h.step op)

/-- The `k`-th original clause gets `k + 1` while the reserve lasts, and an id above it
after. -/
theorem Fresh.originalIds_getElem (h : Fresh n s) (k : Nat) (hk : k < s.originalIds.length) :
    (k < n → s.originalIds[k] = k + 1) ∧ (n ≤ k → n < s.originalIds[k]) := by
  obtain ⟨hi, hor, hhi, hne⟩ := h.originals
  have hle := h.original_le
  simp only [hor]
  by_cases hko : k < s.originalId
  · have hl : k < (List.range' 1 s.originalId).length := by simpa using hko
    rw [List.getElem_append_left hl, List.getElem_range']
    exact ⟨fun _ => by omega, fun _ => by omega⟩
  · have hl : (List.range' 1 s.originalId).length ≤ k := by simpa using hko
    have hin : hi ≠ [] := by
      rintro rfl
      simp only [hor, List.append_nil, List.length_range'] at hk
      omega
    have ho := hne hin
    rw [List.getElem_append_right hl]
    exact ⟨fun _ => by omega, fun _ => hhi _ (List.getElem_mem _)⟩

/-- A derived id is above the reserve: the ids up to it all went to original clauses. -/
theorem Fresh.derived_gt (h : Fresh n s) (p : Origin × Nat) (hp : p ∈ s.issued)
    (hd : p.1 = .derived) : n < p.2 := by
  by_contra hle
  have hlow : p ∈ s.issued.filter (·.2 ≤ n) := List.mem_filter.2 ⟨hp, by simpa using hle⟩
  rw [h.low] at hlow
  obtain ⟨k, -, rfl⟩ := List.mem_map.1 hlow
  cases hd

/-- After `reserve_ids (n)` (`n = 0` when it is never called) and any calls of
`add_original_lit` and `add_clause`: one id was issued per `add_original_lit (0)` and per
unit, in the order of the calls; the ids are pairwise distinct; the `k`-th original clause
got `k + 1` while `k < n` and an id above `n` after; every unit got an id above `n`; and
the ids above `n` rise strictly. -/
theorem run_issues_fresh_ids (n : Nat) (ops : List IdOp) :
    ((init.reserveIds n).run ops).issued.map Prod.fst = ops.filterMap IdOp.issues ∧
      (((init.reserveIds n).run ops).issued.map Prod.snd).Nodup ∧
      (∀ k (hk : k < ((init.reserveIds n).run ops).originalIds.length),
        (k < n → ((init.reserveIds n).run ops).originalIds[k] = k + 1) ∧
          (n ≤ k → n < ((init.reserveIds n).run ops).originalIds[k])) ∧
      (∀ p ∈ ((init.reserveIds n).run ops).issued, p.1 = .derived → n < p.2) ∧
      (((((init.reserveIds n).run ops).issued.filter (n < ·.2)).map Prod.snd).Sorted (· < ·)) :=
  have h := fresh_reserveIds.run ops
  ⟨by simpa [reserveIds, init] using issued_run (init.reserveIds n) ops, h.nodup,
    h.originalIds_getElem, h.derived_gt, h.high⟩

end Ids
end cautical
