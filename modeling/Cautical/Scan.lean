-- The scan that opens `least_conditional_part`. It walks the clauses under the
-- current trail, collects the negated conditional part `neg_alpha_c` with the
-- help of `globalmarks`, counts the true literals in `times_touched`, and turns
-- the keys into `alpha_a` and the raw candidate clauses `clauses_to_add`.
import Cautical.Collab

namespace cautical

/-! ## `times_touched` -/

/-- `times_touched [lit]++` on a `std::map<int, int>`, whose keys stay in increasing order. -/
def bump : List (Int × Nat) → Int → List (Int × Nat)
  | [], k => [(k, 1)]
  | (k', n) :: rest, k =>
    if k = k' then (k', n + 1) :: rest
    else if k < k' then (k, 1) :: (k', n) :: rest
    else (k', n) :: bump rest k

@[simp] theorem mem_keys_bump (m : List (Int × Nat)) (k x : Int) :
    x ∈ (bump m k).map Prod.fst ↔ x = k ∨ x ∈ m.map Prod.fst := by
  induction m with
  | nil => simp [bump]
  | cons p rest ih =>
    obtain ⟨k', n⟩ := p
    simp only [bump]
    split_ifs with h1 h2
    · subst h1; simp
    · simp
    · simp only [List.map_cons, List.mem_cons, ih, or_left_comm]

/-- `ls.foldl` of `global_setbit` (`b = true`) or `global_unsetbit` (`b = false`). -/
def setMarks (marks : Int → Bool) (ls : List Int) (b : Bool) : Int → Bool :=
  ls.foldl (fun m l => Function.update m l b) marks

theorem setMarks_apply (marks : Int → Bool) (ls : List Int) (b : Bool) (x : Int) :
    setMarks marks ls b x = if x ∈ ls then b else marks x := by
  induction ls generalizing marks with
  | nil => simp [setMarks]
  | cons l ls ih =>
    simp only [setMarks, List.foldl_cons] at ih ⊢
    rw [ih]
    by_cases hx : x ∈ ls
    · simp [hx]
    · by_cases hl : x = l
      · subst hl; simp [hx]
      · simp [hx, hl, Function.update_noteq hl]

/-! ## One clause -/

/-- What the loop over one clause collects. -/
structure Touch where
  satisfies : Bool
  timesTouched : List (Int × Nat)
  alphaTouches : List Int

/-- What the scan has collected so far. -/
structure Scan where
  negAlphaC : List Int
  timesTouched : List (Int × Nat)
  marks : Int → Bool

namespace Internal

/-- One literal of `for (auto lit : *c)` in the scan. -/
def touchLit (s : Internal) (marks : Int → Bool) (t : Touch) (lit : Int) : Touch :=
  if s.val lit > 0 then { t with satisfies := true, timesTouched := bump t.timesTouched lit }
  else if s.val lit < 0 then
    if s.fixed lit then t
    else if marks lit then t
    else { t with alphaTouches := t.alphaTouches ++ [lit] }
  else t

/-- One clause of the scan: it skips a redundant clause outside proof mode, a garbage
clause, and a clause with a true `FIXED` literal; the literals of an unsatisfied clause
that are false, not `FIXED` and not yet marked go to `neg_alpha_c` and get marked. -/
def scanClause (s : Internal) (sc : Scan) (c : Clause) : Scan :=
  if c.redundant && !s.proof then sc
  else if c.garbage then sc
  else if c.lits.any (fun l => decide (s.val l > 0) && s.fixed l) then sc
  else
    let t := c.lits.foldl (s.touchLit sc.marks) ⟨false, sc.timesTouched, []⟩
    if t.satisfies then { sc with timesTouched := t.timesTouched }
    else
      { negAlphaC := sc.negAlphaC ++ t.alphaTouches
        timesTouched := t.timesTouched
        marks := setMarks sc.marks t.alphaTouches true }

/-- The scan over all clauses, from the marks as they stand. -/
def scan (s : Internal) : Scan := s.clauses.foldl s.scanClause ⟨[], [], s.globalmarks⟩

/-- The loop over `times_touched`, in key order: a key whose bit is clear goes into
`alpha_a`, and unless it is a decision, `neg_alpha_c` with the key appended goes into
`clauses_to_add`. -/
def collectKeys (s : Internal) (marks : Int → Bool) (negAlphaC : List Int) :
    List (Int × Nat) → List Int × List (List Int)
  | [] => ([], [])
  | (key, _) :: rest =>
    let r := collectKeys s marks negAlphaC rest
    if marks key then r
    else (key :: r.1, if s.isDecision key then r.2 else (negAlphaC ++ [key]) :: r.2)

/-- The first half of `least_conditional_part`, up to the reset of the marks: the state
after it, `neg_alpha_c`, `alpha_a` and `clauses_to_add`. -/
def conditionalPart (s : Internal) : Internal × List Int × List Int × List (List Int) :=
  let sc := s.scan
  let k := collectKeys s sc.marks sc.negAlphaC sc.timesTouched
  ({ s with globalmarks := setMarks sc.marks sc.negAlphaC false }, sc.negAlphaC, k.1, k.2)

/-! ## The loop over one clause -/

section touch

variable (s : Internal) (m : Int → Bool)

theorem touchLit_satisfies (t : Touch) (l : Int) :
    (s.touchLit m t l).satisfies = (t.satisfies || decide (s.val l > 0)) := by
  unfold touchLit; split_ifs <;> simp_all

theorem touchLit_alphaTouches (t : Touch) (l : Int) :
    (s.touchLit m t l).alphaTouches =
      t.alphaTouches ++ if decide (s.val l < 0) && !s.fixed l && !m l then [l] else [] := by
  unfold touchLit
  by_cases h : 0 < s.val l
  · simp [h, show ¬ s.val l < 0 by omega]
  · split_ifs <;> simp_all
    omega

theorem mem_touchLit_keys (t : Touch) (l x : Int) :
    x ∈ (s.touchLit m t l).timesTouched.map Prod.fst ↔
      x ∈ t.timesTouched.map Prod.fst ∨ (x = l ∧ s.val x > 0) := by
  unfold touchLit
  by_cases h : 0 < s.val l
  · rw [if_pos h, mem_keys_bump]
    by_cases hx : x = l
    · subst hx; simp [h]
    · simp [hx]
  · have hx : ¬ (x = l ∧ s.val x > 0) := fun ⟨e, hv⟩ => h (e ▸ hv)
    rw [if_neg h, or_iff_left hx]
    split_ifs <;> rfl

theorem touch_satisfies (c : List Int) (t : Touch) :
    (c.foldl (s.touchLit m) t).satisfies = (t.satisfies || c.any fun l => decide (s.val l > 0)) := by
  induction c generalizing t with
  | nil => simp
  | cons l c ih => simp only [List.foldl_cons, ih, touchLit_satisfies, List.any_cons, Bool.or_assoc]

theorem touch_alphaTouches (c : List Int) (t : Touch) :
    (c.foldl (s.touchLit m) t).alphaTouches =
      t.alphaTouches ++ c.filter fun l => decide (s.val l < 0) && !s.fixed l && !m l := by
  induction c generalizing t with
  | nil => simp
  | cons l c ih =>
    simp only [List.foldl_cons, ih, touchLit_alphaTouches, List.filter_cons]
    split <;> simp

theorem mem_touch_keys (c : List Int) (t : Touch) (x : Int) :
    x ∈ (c.foldl (s.touchLit m) t).timesTouched.map Prod.fst ↔
      x ∈ t.timesTouched.map Prod.fst ∨ (x ∈ c ∧ s.val x > 0) := by
  induction c generalizing t with
  | nil => simp
  | cons l c ih =>
    simp only [List.foldl_cons, ih, mem_touchLit_keys, List.mem_cons, or_and_right, or_assoc]

end touch

/-! ## The invariant of the scan -/

/-- A clause the scan considers: not garbage, and irredundant unless proof mode is on. -/
def Considered (s : Internal) (c : Clause) : Prop :=
  (c.redundant = false ∨ s.proof = true) ∧ c.garbage = false

instance (s : Internal) (c : Clause) : Decidable (s.Considered c) :=
  inferInstanceAs (Decidable (_ ∧ _))

/-- `l` is in the negated conditional part of the clauses `cs`: it is false, not `FIXED`,
and in a considered clause of `cs` that has no true literal. -/
def InNeg (s : Internal) (cs : List Clause) (l : Int) : Prop :=
  s.val l < 0 ∧ s.fixed l = false ∧
    ∃ c ∈ cs, s.Considered c ∧ l ∈ c.lits ∧ ∀ x ∈ c.lits, s.val x ≤ 0

/-- `k` is touched by the clauses `cs`: it is true, and in a considered clause of `cs`
with no true `FIXED` literal. -/
def InKeys (s : Internal) (cs : List Clause) (k : Int) : Prop :=
  0 < s.val k ∧ ∃ c ∈ cs, s.Considered c ∧ k ∈ c.lits ∧
    ∀ x ∈ c.lits, 0 < s.val x → s.fixed x = false

/-- What the scan holds after the clauses `cs`, from marks that were clear. -/
structure ScanInv (s : Internal) (cs : List Clause) (sc : Scan) : Prop where
  marks : ∀ l, sc.marks l = true ↔ l ∈ sc.negAlphaC
  neg : ∀ l, l ∈ sc.negAlphaC ↔ s.InNeg cs l
  keys : ∀ k, k ∈ sc.timesTouched.map Prod.fst ↔ s.InKeys cs k

section inv

variable {s : Internal} {cs : List Clause} {c : Clause} {sc : Scan}

theorem inNeg_snoc (l : Int) : s.InNeg (cs ++ [c]) l ↔ s.InNeg cs l ∨
    (s.val l < 0 ∧ s.fixed l = false ∧ s.Considered c ∧ l ∈ c.lits ∧
      ∀ x ∈ c.lits, s.val x ≤ 0) := by
  simp only [InNeg, List.mem_append, List.mem_singleton]
  constructor
  · rintro ⟨h1, h2, d, hd | rfl, h3⟩
    · exact .inl ⟨h1, h2, d, hd, h3⟩
    · exact .inr ⟨h1, h2, h3⟩
  · rintro (⟨h1, h2, d, hd, h3⟩ | ⟨h1, h2, h3⟩)
    · exact ⟨h1, h2, d, .inl hd, h3⟩
    · exact ⟨h1, h2, c, .inr rfl, h3⟩

theorem inKeys_snoc (k : Int) : s.InKeys (cs ++ [c]) k ↔ s.InKeys cs k ∨
    (0 < s.val k ∧ s.Considered c ∧ k ∈ c.lits ∧
      ∀ x ∈ c.lits, 0 < s.val x → s.fixed x = false) := by
  simp only [InKeys, List.mem_append, List.mem_singleton]
  constructor
  · rintro ⟨h1, d, hd | rfl, h3⟩
    · exact .inl ⟨h1, d, hd, h3⟩
    · exact .inr ⟨h1, h3⟩
  · rintro (⟨h1, d, hd, h3⟩ | ⟨h1, h3⟩)
    · exact ⟨h1, d, .inl hd, h3⟩
    · exact ⟨h1, c, .inr rfl, h3⟩

/-- A clause the scan skips adds nothing to either set. -/
theorem ScanInv.skip (h : s.ScanInv cs sc)
    (hc : ¬ s.Considered c ∨ ∃ x ∈ c.lits, 0 < s.val x ∧ s.fixed x = true) :
    s.ScanInv (cs ++ [c]) sc := by
  refine ⟨h.marks, fun l => ?_, fun k => ?_⟩
  · rw [h.neg, inNeg_snoc]
    constructor
    · exact .inl
    · rintro (h' | ⟨-, -, hcon, -, hle⟩)
      · exact h'
      · rcases hc with hc | ⟨x, hx, hpos, -⟩
        · exact absurd hcon hc
        · exact absurd (hle x hx) (by omega)
  · rw [h.keys, inKeys_snoc]
    constructor
    · exact .inl
    · rintro (h' | ⟨-, hcon, -, hfix⟩)
      · exact h'
      · rcases hc with hc | ⟨x, hx, hpos, hx'⟩
        · exact absurd hcon hc
        · simp [hfix x hx hpos] at hx'

/-- A considered clause with a true literal and no true `FIXED` one only counts its true
literals. -/
theorem ScanInv.satisfied (h : s.ScanInv cs sc) (hcon : s.Considered c)
    (hnofix : ∀ x ∈ c.lits, 0 < s.val x → s.fixed x = false)
    (hy : ∃ y ∈ c.lits, 0 < s.val y) :
    s.ScanInv (cs ++ [c]) { sc with timesTouched :=
      (c.lits.foldl (s.touchLit sc.marks) ⟨false, sc.timesTouched, []⟩).timesTouched } := by
  obtain ⟨y, hy, hpos⟩ := hy
  refine ⟨h.marks, fun l => ?_, fun k => ?_⟩
  · rw [h.neg, inNeg_snoc]
    constructor
    · exact .inl
    · rintro (h' | ⟨-, -, -, -, hle⟩)
      · exact h'
      · exact absurd (hle y hy) (by omega)
  · rw [mem_touch_keys, h.keys, inKeys_snoc]
    constructor
    · rintro (h' | ⟨hk, hpos'⟩)
      · exact .inl h'
      · exact .inr ⟨hpos', hcon, hk, hnofix⟩
    · rintro (h' | ⟨hpos', -, hk, -⟩)
      · exact .inl h'
      · exact .inr ⟨hk, hpos'⟩

/-- A considered clause with no true literal adds its false literals that are not `FIXED`
and not marked yet, and marks them. -/
theorem ScanInv.unsatisfied (h : s.ScanInv cs sc) (hcon : s.Considered c)
    (hle : ∀ x ∈ c.lits, s.val x ≤ 0) :
    let t := c.lits.foldl (s.touchLit sc.marks) ⟨false, sc.timesTouched, []⟩
    s.ScanInv (cs ++ [c]) ⟨sc.negAlphaC ++ t.alphaTouches, t.timesTouched,
      setMarks sc.marks t.alphaTouches true⟩ := by
  simp only [touch_alphaTouches, List.nil_append]
  have hmemf : ∀ l, l ∈ c.lits.filter (fun l => decide (s.val l < 0) && !s.fixed l &&
      !sc.marks l) ↔ l ∈ c.lits ∧ s.val l < 0 ∧ s.fixed l = false ∧ l ∉ sc.negAlphaC := by
    intro l; simp [List.mem_filter, ← h.marks, and_assoc]
  refine ⟨fun l => ?_, fun l => ?_, fun k => ?_⟩ <;> dsimp only
  · rw [setMarks_apply, List.mem_append]
    split_ifs with hl
    · simp [hl]
    · rw [h.marks]; simp [hl]
  · rw [List.mem_append, h.neg, inNeg_snoc, hmemf]
    constructor
    · rintro (h' | ⟨hl, hneg, hfix, -⟩)
      · exact .inl h'
      · exact .inr ⟨hneg, hfix, hcon, hl, hle⟩
    · rintro (h' | ⟨hneg, hfix, -, hl, -⟩)
      · exact .inl h'
      · by_cases hin : l ∈ sc.negAlphaC
        · exact .inl ((h.neg l).1 hin)
        · exact .inr ⟨hl, hneg, hfix, hin⟩
  · rw [mem_touch_keys, h.keys, inKeys_snoc]
    exact or_congr_right ⟨fun ⟨hk, hpos⟩ => absurd (hle k hk) (by omega),
      fun ⟨hpos, _, hk, _⟩ => absurd (hle k hk) (by omega)⟩

/-- One clause keeps the invariant. -/
theorem ScanInv.scanClause (h : s.ScanInv cs sc) : s.ScanInv (cs ++ [c]) (s.scanClause sc c) := by
  unfold Internal.scanClause
  by_cases hr : (c.redundant && !s.proof) = true
  · rw [if_pos hr]
    exact h.skip (.inl fun ⟨h1, _⟩ => by cases h1 <;> simp_all)
  rw [if_neg hr]
  by_cases hg : c.garbage = true
  · rw [if_pos hg]
    exact h.skip (.inl fun ⟨_, h2⟩ => by simp_all)
  rw [if_neg hg]
  have hcon : s.Considered c := ⟨by cases hc' : c.redundant <;> simp_all, by simpa using hg⟩
  by_cases hf : (c.lits.any fun l => decide (s.val l > 0) && s.fixed l) = true
  · rw [if_pos hf]
    exact h.skip (.inr (by simpa using hf))
  rw [if_neg hf]
  simp only [touch_satisfies, Bool.false_or]
  split_ifs with hsat
  · refine h.satisfied hcon (fun x hx hpos => ?_) (by simpa using hsat)
    simp only [List.any_eq_true, not_exists, not_and] at hf
    simpa [hpos] using hf x hx
  · refine h.unsatisfied hcon fun x hx => ?_
    simp only [List.any_eq_true, not_exists, not_and] at hsat
    have := hsat x hx; simp at this; omega

/-- The scan over the clauses `ds`, after `cs`, keeps the invariant. -/
theorem ScanInv.foldl (h : s.ScanInv cs sc) (ds : List Clause) :
    s.ScanInv (cs ++ ds) (ds.foldl s.scanClause sc) := by
  induction ds generalizing cs sc with
  | nil => simpa using h
  | cons d ds ih =>
    rw [List.foldl_cons, ← List.singleton_append, ← List.append_assoc]
    exact ih h.scanClause

/-- From clear marks, the whole scan meets the invariant. -/
theorem scan_inv (hclear : ∀ l, s.globalmarks l = false) : s.ScanInv s.clauses s.scan := by
  have h0 : s.ScanInv [] ⟨[], [], s.globalmarks⟩ := ⟨by simp [hclear], by simp [InNeg], by simp [InKeys]⟩
  simpa using h0.foldl s.clauses

/-- A clause with no repeated literal keeps `neg_alpha_c` free of duplicates: the marks
keep out what is there already. -/
theorem ScanInv.nodup_scanClause (h : s.ScanInv cs sc) (hn : sc.negAlphaC.Nodup)
    (hc : c.lits.Nodup) : (s.scanClause sc c).negAlphaC.Nodup := by
  unfold Internal.scanClause
  split_ifs
  · exact hn
  · exact hn
  · exact hn
  dsimp only
  split_ifs
  · exact hn
  · rw [touch_alphaTouches, List.nil_append]
    refine List.nodup_append.2 ⟨hn, hc.filter _, fun a ha hb => ?_⟩
    simp only [List.mem_filter, Bool.and_eq_true, Bool.not_eq_eq_eq_not, Bool.not_true] at hb
    simp [(h.marks a).2 ha] at hb

theorem scan_nodup (hnd : ∀ c ∈ s.clauses, c.lits.Nodup)
    (hclear : ∀ l, s.globalmarks l = false) : s.scan.negAlphaC.Nodup := by
  suffices ∀ (ds cs : List Clause) (sc : Scan), (∀ c ∈ ds, c.lits.Nodup) → s.ScanInv cs sc → sc.negAlphaC.Nodup →
      (ds.foldl s.scanClause sc).negAlphaC.Nodup from
    this _ [] _ hnd ⟨by simp [hclear], by simp [InNeg], by simp [InKeys]⟩ List.nodup_nil
  intro ds
  induction ds with
  | nil => exact fun _ _ _ _ h => h
  | cons d ds ih =>
    intro cs sc hd h hn
    exact ih (cs ++ [d]) _ (fun c hc => hd c (List.mem_cons_of_mem _ hc)) h.scanClause
      (h.nodup_scanClause hn (hd d (List.mem_cons_self _ _)))

end inv

/-! ## The keys -/

section keys

variable (s : Internal) (m : Int → Bool) (neg : List Int)

theorem collectKeys_fst (tt : List (Int × Nat)) :
    (s.collectKeys m neg tt).1 = (tt.map Prod.fst).filter fun k => !m k := by
  induction tt with
  | nil => rfl
  | cons p tt ih =>
    obtain ⟨k, n⟩ := p
    simp only [collectKeys, List.map_cons, List.filter_cons]
    split_ifs <;> simp_all

theorem collectKeys_snd (tt : List (Int × Nat)) :
    (s.collectKeys m neg tt).2 =
      ((tt.map Prod.fst).filter fun k => !m k && !s.isDecision k).map (neg ++ [·]) := by
  induction tt with
  | nil => rfl
  | cons p tt ih =>
    obtain ⟨k, n⟩ := p
    simp only [collectKeys, List.map_cons, List.filter_cons]
    split_ifs <;> simp_all

end keys

section part

variable {s : Internal}

@[simp] theorem conditionalPart_negAlphaC : s.conditionalPart.2.1 = s.scan.negAlphaC := rfl

theorem conditionalPart_alphaA :
    s.conditionalPart.2.2.1 = (s.scan.timesTouched.map Prod.fst).filter fun k => !s.scan.marks k :=
  collectKeys_fst ..

theorem conditionalPart_toAdd : s.conditionalPart.2.2.2 =
    ((s.scan.timesTouched.map Prod.fst).filter fun k => !s.scan.marks k && !s.isDecision k).map
      (s.scan.negAlphaC ++ [·]) :=
  collectKeys_snd ..

/-- A true literal is never in `neg_alpha_c`, so its mark is clear. -/
theorem ScanInv.marks_of_pos {cs : List Clause} {sc : Scan} (h : s.ScanInv cs sc) {k : Int}
    (hk : 0 < s.val k) : sc.marks k = false := by
  cases hm : sc.marks k
  · rfl
  · have := ((h.neg k).1 ((h.marks k).1 hm)).1; omega

theorem mem_toAdd (hclear : ∀ l, s.globalmarks l = false) (C : List Int) :
    C ∈ s.conditionalPart.2.2.2 ↔ ∃ k, s.InKeys s.clauses k ∧ s.isDecision k = false ∧
      C = s.scan.negAlphaC ++ [k] := by
  have h := scan_inv hclear
  rw [conditionalPart_toAdd, List.mem_map]
  simp only [List.mem_filter, h.keys, Bool.and_eq_true, Bool.not_eq_eq_eq_not, Bool.not_true]
  constructor
  · rintro ⟨k, ⟨hk, -, hd⟩, rfl⟩; exact ⟨k, hk, hd, rfl⟩
  · rintro ⟨k, hk, hd, rfl⟩; exact ⟨k, ⟨hk, h.marks_of_pos hk.1, hd⟩, rfl⟩

/-- The reset after the keys clears every mark the scan set. -/
theorem conditionalPart_marks (hclear : ∀ l, s.globalmarks l = false) (l : Int) :
    s.conditionalPart.1.globalmarks l = false := by
  have h := scan_inv hclear
  show setMarks s.scan.marks s.scan.negAlphaC false l = false
  rw [setMarks_apply]
  split_ifs with hl
  · rfl
  · cases hm : s.scan.marks l
    · rfl
    · exact absurd ((h.marks l).1 hm) hl

end part

end Internal
end cautical
