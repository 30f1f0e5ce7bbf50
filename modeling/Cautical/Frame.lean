-- What the steps of the global preprocessing keep. Each one keeps the options
-- and every clause already there, in place, and adds only learned (redundant)
-- clauses; it records in order the clauses it hands to `add_clause`; it undoes no
-- root-level assignment, takes no variable out of `FIXED`, keeps every root-level
-- assignment `FIXED` and never clears `unsat`; and from clear marks it leaves the
-- marks clear. One relation says so, one lemma per function proves it, and the
-- loops compose it.
import Cautical.LeastConditionalPart
import Cautical.Preprocess
import Cautical.ImpSort

namespace cautical

/-- The clauses a call hands to `add_clause`. -/
def Call.added : Call → List (List Int)
  | .addClause c => [c]
  | _ => []

namespace Internal

/-! ## The relation -/

/-- `t` is `s` after steps that kept the options and every clause of `s`, appended only
learned clauses, handed `adds` to `add_clause`, kept the root-level assignments, the
`FIXED` variables and `unsat`, kept every root-level assignment `FIXED`, and left clear
marks clear. -/
structure Extends (s t : Internal) (adds : List (List Int)) : Prop where
  opts : t.opts = s.opts
  clauses : ∃ new, t.clauses = s.clauses ++ new ∧ ∀ c ∈ new, c.redundant = true
  added : addedClauses t = addedClauses s ++ adds
  roots : ∀ a ∈ s.trail, a.level = 0 → a ∈ t.trail
  status : ∀ v, s.status v = .fixed → t.status v = .fixed
  unsat : s.unsat = true → t.unsat = true
  rootFixed : s.RootFixed → t.RootFixed
  marks : (∀ l, s.globalmarks l = false) → ∀ l, t.globalmarks l = false

theorem Extends.refl (s : Internal) : Extends s s [] :=
  ⟨rfl, ⟨[], by simp, by simp⟩, by simp, fun _ h _ => h, fun _ => id, id, id, id⟩

theorem Extends.trans {s t u : Internal} {as bs : List (List Int)} (h₁ : Extends s t as)
    (h₂ : Extends t u bs) : Extends s u (as ++ bs) := by
  obtain ⟨n₁, hn₁, hr₁⟩ := h₁.clauses
  obtain ⟨n₂, hn₂, hr₂⟩ := h₂.clauses
  refine ⟨h₂.opts.trans h₁.opts, ⟨n₁ ++ n₂, by rw [hn₂, hn₁, List.append_assoc], ?_⟩, ?_,
    fun a ha h0 => h₂.roots a (h₁.roots a ha h0) h0, fun v h => h₂.status v (h₁.status v h),
    h₂.unsat ∘ h₁.unsat, h₂.rootFixed ∘ h₁.rootFixed, h₂.marks ∘ h₁.marks⟩
  · intro c hc
    rcases List.mem_append.1 hc with hc | hc
    · exact hr₁ c hc
    · exact hr₂ c hc
  · rw [h₂.added, h₁.added, List.append_assoc]

theorem Extends.trans_nil {s t u : Internal} (h₁ : Extends s t []) (h₂ : Extends t u []) :
    Extends s u [] :=
  h₁.trans h₂

theorem Extends.nil_trans {s t u : Internal} {bs} (h₁ : Extends s t []) (h₂ : Extends t u bs) :
    Extends s u bs := by
  simpa using h₁.trans h₂

/-- The root is `FIXED` in a state with the trail and the status of one where it is. -/
theorem RootFixed.of_eq {s t : Internal} (h : s.RootFixed) (ht : t.trail = s.trail)
    (hs : t.status = s.status) : t.RootFixed := fun a ha h0 => by
  simpa only [fixed, flags, hs] using h a (ht ▸ ha) h0

/-- A step that leaves alone every field the relation reads. -/
theorem Extends.of_frame {s t : Internal} (ho : t.opts = s.opts) (hc : t.clauses = s.clauses)
    (hl : t.calls = s.calls) (ht : t.trail = s.trail) (hs : t.status = s.status)
    (hu : t.unsat = s.unsat) (hm : t.globalmarks = s.globalmarks) : Extends s t [] :=
  ⟨ho, ⟨[], by simp [hc], by simp⟩, by simp [addedClauses, hl], fun _ h _ => ht ▸ h,
    fun _ h => hs ▸ h, fun h => hu ▸ h, fun h => h.of_eq ht hs, fun h => hm ▸ h⟩

/-- A step that appends one learned clause and changes nothing else the relation reads. -/
theorem Extends.of_learn {s t : Internal} (c : Clause) (hc : t.clauses = s.clauses ++ [c])
    (hred : c.redundant = true) (ho : t.opts = s.opts) (hl : t.calls = s.calls)
    (ht : t.trail = s.trail) (hs : t.status = s.status) (hu : t.unsat = s.unsat)
    (hm : t.globalmarks = s.globalmarks) : Extends s t [] :=
  ⟨ho, ⟨[c], hc, by simpa using hred⟩, by simp [addedClauses, hl], fun _ h _ => ht ▸ h,
    fun _ h => hs ▸ h, fun h => hu ▸ h, fun h => h.of_eq ht hs, fun h => hm ▸ h⟩

/-- A step that puts a literal on the trail at the root, or above it, and makes its
variable `FIXED` at the root. -/
theorem Extends.of_push {s t : Internal} (a : Assigned) (ho : t.opts = s.opts)
    (hc : t.clauses = s.clauses) (hl : t.calls = s.calls) (ht : t.trail = a :: s.trail)
    (hs : ∀ v, s.status v = .fixed → t.status v = .fixed)
    (ha : a.level = 0 → t.status a.lit.natAbs = .fixed) (hu : t.unsat = s.unsat)
    (hm : t.globalmarks = s.globalmarks) : Extends s t [] :=
  ⟨ho, ⟨[], by simp [hc], by simp⟩, by simp [addedClauses, hl],
    fun _ h _ => ht ▸ List.mem_cons_of_mem a h, hs, fun h => hu ▸ h, fun h => h.push ht hs ha,
    fun h => hm ▸ h⟩

theorem update_fixed {s : Nat → Status} (v : Nat) (x : Status) (hx : x = .fixed) :
    ∀ w, s w = .fixed → Function.update s v x w = .fixed := by
  intro w hw
  by_cases h : w = v
  · subst h; simpa using hx
  · simpa [h] using hw

/-! ## The primitive steps -/

theorem extends_log (s : Internal) (c : Call) : Extends s (s.log c) c.added := by
  refine ⟨rfl, ⟨[], by simp, by simp⟩, ?_, fun _ h _ => h, fun _ => id, id, id, id⟩
  cases c <;> simp [addedClauses, log, Call.added]

theorem extends_assign (s : Internal) (l : Int) (d : Bool) : Extends s (s.assign l d) [] := by
  refine .of_push _ rfl rfl rfl rfl ?_ ?_ rfl rfl
  · show ∀ v, s.status v = .fixed → (if s.level = 0 then
      Function.update s.status l.natAbs .fixed else s.status) v = .fixed
    split_ifs
    · exact update_fixed _ _ rfl
    · exact fun _ => id
  · intro h0
    show (if s.level = 0 then Function.update s.status l.natAbs .fixed else s.status)
      l.natAbs = .fixed
    rw [if_pos h0, Function.update_same]

theorem extends_backtrack (s : Internal) (n : Nat) : Extends s (s.backtrack n) [] :=
  ⟨rfl, ⟨[], by simp, by simp⟩, by simp [addedClauses],
    fun a ha h0 => List.mem_filter.2 ⟨ha, by simp [h0]⟩, fun _ => id, id, (·.backtrack n), id⟩

theorem extends_searchAssumeDecision (s : Internal) (l : Int) :
    Extends s (s.searchAssumeDecision l) [] := by
  refine (extends_log s (.assume l (s.val l) (s.flags l))).trans
    (Extends.trans_nil ?_ (extends_assign _ l true))
  exact .of_frame rfl rfl rfl rfl rfl rfl rfl

theorem extends_budgetOut (s : Internal) : Extends s s.budgetOut.2 [] :=
  .of_frame rfl rfl rfl rfl rfl rfl rfl

theorem extends_nextRand (s : Internal) : Extends s s.nextRand.2 [] :=
  .of_frame rfl rfl rfl rfl rfl rfl rfl

theorem extends_propagateFrom (n : Nat) (s : Internal) : Extends s (propagateFrom n s).1 [] := by
  induction n generalizing s with
  | zero => exact .refl s
  | succ n ih =>
    unfold propagateFrom
    split
    · exact .refl s
    · exact .refl s
    · exact (extends_assign s _ false).trans (ih _)

theorem extends_propagate (s : Internal) : Extends s s.propagate.1 [] :=
  (extends_log s _).trans (extends_propagateFrom _ _)

/-- `analyze` sets `unsat` at the root, and above it learns the clause of the negated
decisions, a learned one, after a backtrack that keeps the root. -/
theorem extends_analyze (s : Internal) : Extends s s.analyze [] := by
  refine (extends_log s .analyze).trans ?_
  unfold analyze
  dsimp only
  split
  · exact ⟨rfl, ⟨[], by simp, by simp⟩, by simp [addedClauses], fun _ h _ => h, fun _ => id,
      fun _ => rfl, id, id⟩
  · split
    · exact (extends_backtrack _ _).trans_nil (.of_learn _ rfl rfl rfl rfl rfl rfl rfl rfl)
    · refine Extends.trans_nil ?_ (extends_assign _ _ false)
      exact (extends_backtrack _ _).trans_nil (.of_learn _ rfl rfl rfl rfl rfl rfl rfl rfl)

theorem extends_analyzeWhile (n : Nat) (s : Internal) : Extends s (analyzeWhile n s) [] := by
  induction n generalizing s with
  | zero => exact .refl s
  | succ n ih =>
    unfold analyzeWhile
    dsimp only
    split_ifs
    · exact .refl s
    · exact extends_propagate s
    · exact ((extends_propagate s).trans (extends_analyze _)).trans (ih _)

theorem extends_analyzeAll (s : Internal) : Extends s s.analyzeAll [] :=
  (extends_analyze s).trans (extends_analyzeWhile _ _)

theorem extends_propagateUntilOk (n : Nat) (s t : Internal) (h : propagateUntilOk n s = some t) :
    Extends s t [] := by
  induction n generalizing s with
  | zero => cases h
  | succ n ih =>
    unfold propagateUntilOk at h
    dsimp only at h
    split_ifs at h
    · cases h; exact extends_propagate s
    · exact ((extends_propagate s).trans (extends_analyze _)).trans (ih _ h)

/-! ## The helpers of `least_conditional_part` -/

theorem extends_trivialLoop (c : List Int) (s : Internal) : Extends s (trivialLoop c s).1 [] := by
  induction c generalizing s with
  | nil => exact .refl s
  | cons l c ih =>
    unfold trivialLoop
    dsimp only
    split_ifs
    · exact .refl s
    · exact ih s
    · exact ((extends_searchAssumeDecision s _).trans_nil (extends_propagate _)).trans_nil (ih _)
    · exact ((extends_searchAssumeDecision s _).trans_nil (extends_propagate _)).trans_nil
        (extends_analyzeAll _)

theorem extends_checkIfClauseTrivial (s : Internal) (c : List Int) :
    Extends s (s.checkIfClauseTrivial c).1 [] := by
  unfold checkIfClauseTrivial
  split_ifs
  · exact .refl s
  · exact ((extends_backtrack s 0).trans_nil (extends_trivialLoop c _)).trans_nil
      (extends_backtrack _ 0)

/-- `add_clause` hands over its clause: a learned clause, a root unit, or nothing when
learning is off. -/
theorem extends_addClause (s : Internal) (c : List Int) (lit : Int) (neg aut : List Int) :
    Extends s (s.addClause c lit neg aut) [c] := by
  refine (extends_log s (.addClause c)).trans ?_
  have hrec : ∀ t : Internal, Extends t (if t.opts.globalrecord then
      t.recordClause lit (neg.filter (· ≠ lit)) (aut.filter (· ≠ lit)) else t) [] := fun t => by
    split_ifs
    · exact .of_frame rfl rfl rfl rfl rfl rfl rfl
    · exact .refl t
  unfold addClause
  dsimp only
  refine Extends.trans_nil ?_ (hrec _)
  split_ifs
  · exact .of_learn _ rfl rfl rfl rfl rfl rfl rfl rfl
  · split
    · exact .of_push _ rfl rfl rfl rfl (update_fixed _ _ rfl) (fun _ => Function.update_same ..)
        rfl rfl
    · exact .refl _
  · exact .refl _

/-- The scan changes only the marks, and from clear marks the reset leaves them clear. -/
theorem extends_conditionalPart (s : Internal) : Extends s s.conditionalPart.1 [] :=
  ⟨rfl, ⟨[], by simp [conditionalPart], by simp⟩, by simp [addedClauses, conditionalPart],
    fun _ h _ => h, fun _ => id, id, id, conditionalPart_marks⟩

/-- The raw candidates that `add_clause` receives are some of those given, in order. -/
theorem extends_addRaw (alphaA : List Int) (cs : List (List Int)) (p : Internal × Bool) :
    ∃ adds, adds.Sublist cs ∧ Extends p.1 (addRaw alphaA cs p).1 adds := by
  induction cs generalizing p with
  | nil => exact ⟨[], .slnil, .refl _⟩
  | cons c cs ih =>
    obtain ⟨s, b⟩ := p
    unfold addRaw
    dsimp only
    by_cases hb : s.budgetOut.1 = true
    · rw [if_pos hb]
      exact ⟨[], List.nil_sublist _, extends_budgetOut s⟩
    · rw [if_neg hb]
      have hchk : Extends s (if s.budgetOut.2.opts.globalfiltertriv then
          s.budgetOut.2.checkIfClauseTrivial c else (s.budgetOut.2, false)).1 [] := by
        refine (extends_budgetOut s).trans_nil ?_
        split_ifs
        · exact extends_checkIfClauseTrivial _ _
        · exact .refl _
      generalize (if s.budgetOut.2.opts.globalfiltertriv then
          s.budgetOut.2.checkIfClauseTrivial c else (s.budgetOut.2, false)) = r at hchk ⊢
      by_cases h2 : r.2 = true
      · rw [if_pos h2]
        obtain ⟨adds, hsub, hext⟩ := ih (r.1, true)
        exact ⟨adds, hsub.cons c, hchk.trans hext⟩
      · rw [if_neg h2]
        obtain ⟨adds, hsub, hext⟩ := ih (r.1.addClause c (c.getLastD 0) c alphaA, true)
        exact ⟨c :: adds, hsub.cons₂ c, (hchk.trans (extends_addClause _ _ _ _ _)).trans hext⟩

/-- One assumption from the root, propagated. -/
theorem extends_probe (s : Internal) (l : Int) :
    Extends s ((s.backtrack 0).searchAssumeDecision l).propagate.1 [] :=
  ((extends_backtrack s 0).trans_nil (extends_searchAssumeDecision _ l)).trans_nil
    (extends_propagate _)

theorem extends_impSortAlphaA (s : Internal) (alphaA : List Int) :
    Extends s (s.impSortAlphaA alphaA).1 [] := by
  have inner : ∀ i (js : List Nat) (p : Internal × List Int),
      Extends p.1 (js.foldl (impSortStep i) p).1 [] := by
    intro i js
    induction js with
    | nil => exact fun p => .refl _
    | cons j js ih =>
      exact fun p => (show Extends p.1 (impSortStep i p j).1 [] from extends_probe p.1 _).trans_nil
        (ih (impSortStep i p j))
  have outer : ∀ (is : List Nat) (p : Internal × List Int),
      Extends p.1 (is.foldl (fun p i => (List.range' (i + 1) (alphaA.length - (i + 1))).foldl
        (impSortStep i) p) p).1 [] := by
    intro is
    induction is with
    | nil => exact fun p => .refl _
    | cons i is ih => exact fun p => (inner i _ p).trans_nil (ih _)
  exact outer _ (s, alphaA)

theorem extends_customSortAlphaA (s : Internal) (alphaA : List Int) :
    Extends s (s.customSortAlphaA alphaA).1 [] := by
  unfold customSortAlphaA
  split_ifs
  · exact extends_impSortAlphaA s alphaA
  · exact .of_frame rfl rfl rfl rfl rfl rfl rfl
  · exact .refl s

theorem extends_greedyCoverSets (neg l : List Int) (s : Internal) (u : List Int)
    (ss : List (List Int)) : Extends s (greedyCoverSets neg l (s, u, ss)).1 [] := by
  induction l generalizing s u ss with
  | nil => exact .refl _
  | cons a rest ih =>
    unfold greedyCoverSets
    dsimp only
    have hp := extends_probe s (-a)
    generalize ((s.backtrack 0).searchAssumeDecision (-a)).propagate = r at hp ⊢
    have ha := hp.trans_nil (extends_analyze _)
    split_ifs
    · exact ih _ _ _
    · exact hp.trans_nil (ih _ _ _)
    · exact hp.trans_nil (ih _ _ _)
    · exact ha
    · exact (ha.trans_nil (extends_propagate _)).trans_nil (ih _ _ _)
    · exact (ha.trans_nil (extends_propagate _)).trans_nil (extends_analyze _)

theorem extends_greedySortAlphaA (s : Internal) (alphaA neg : List Int) :
    Extends s (s.greedySortAlphaA alphaA neg).1 [] :=
  (extends_greedyCoverSets neg alphaA s [] []).trans_nil (extends_backtrack _ 0)

theorem extends_specialLoop (alphaA l : List Int) (s : Internal) (f : List Int) :
    Extends s (specialLoop alphaA l (s, f)).1 [] := by
  induction l generalizing s f with
  | nil => exact .refl _
  | cons a rest ih =>
    unfold specialLoop
    dsimp only
    generalize (if a ∈ alphaA then f ++ [a] else f) = f
    have hp := (extends_searchAssumeDecision s (-a)).trans_nil (extends_propagate _)
    generalize (s.searchAssumeDecision (-a)).propagate = r at hp ⊢
    have ha := (hp.trans_nil (extends_analyze _)).trans_nil (extends_propagate _)
    generalize r.1.analyze.propagate = r3 at ha ⊢
    split_ifs
    · exact ih _ _
    · exact ih _ _
    · exact hp.trans_nil (ih _ _)
    · exact ha
    · exact ha.trans_nil (extends_analyze _)

theorem extends_greedySortAlphaASpecial (s : Internal) (alphaA : List Int) :
    Extends s (s.greedySortAlphaASpecial alphaA).1 [] := by
  have h := (extends_backtrack s 0).trans_nil (extends_specialLoop alphaA s.globalTry (s.backtrack 0) [])
  unfold greedySortAlphaASpecial
  split
  · next heq => rw [heq] at h; exact h.trans_nil (extends_backtrack _ 0)
  · next heq => rw [heq] at h; exact h

theorem extends_shrinkLoop (l : List Int) (s : Internal) (u res : List Int) :
    Extends s ((shrinkLoop l (s, u, res)).elim (·.1) id) [] := by
  induction l generalizing s u res with
  | nil => exact .refl _
  | cons a rest ih =>
    unfold shrinkLoop
    dsimp only
    have hp := extends_probe s (-a)
    have ha := (hp.trans_nil (extends_analyze _)).trans_nil (extends_propagate _)
    split_ifs
    · exact ih _ _ _
    · exact hp.trans_nil (ih _ _ _)
    · exact hp.trans_nil (ih _ _ _)
    · exact ha.trans_nil (ih _ _ _)
    · exact ha

theorem extends_propagateShrink (s : Internal) (alphaA useful residual : List Int) :
    Extends s (s.propagateShrink alphaA useful residual).1 [] := by
  have h := extends_shrinkLoop alphaA s useful residual
  unfold propagateShrink
  split
  · next heq => rw [heq] at h; exact h.trans_nil (extends_backtrack _ 0)
  · next heq => rw [heq] at h; exact h

theorem extends_shrinkStrategy (s : Internal) (alphaA neg : List Int) :
    Extends s (s.shrinkStrategy alphaA neg).1 [] := by
  unfold shrinkStrategy
  split_ifs
  · exact extends_greedySortAlphaA s alphaA neg
  · exact extends_greedySortAlphaASpecial s alphaA
  · exact .refl s
  · dsimp only
    split <;> exact extends_propagateShrink s alphaA [] neg

/-- Outside the greedy strategies nothing is found useful: the clause is the raw one. -/
theorem shrinkStrategy_useful_nil (s : Internal) (alphaA neg : List Int)
    (hg : s.opts.globalalphaagreedy = false) {u r : List Int}
    (h : (s.shrinkStrategy alphaA neg).2 = some (u, r)) : u = [] := by
  unfold shrinkStrategy at h
  simp only [hg, Bool.false_and, Bool.false_eq_true, if_false] at h
  split_ifs at h <;> simp_all

/-- `least_conditional_part` keeps the options and the clauses, learns only redundant
clauses, and what it hands to `add_clause` is, outside the greedy strategies or with
`globalnoshrink`, a sublist of the raw candidates. -/
theorem extends_leastConditionalPart (s : Internal) :
    ∃ adds, Extends s s.leastConditionalPart.1 adds ∧
      (s.opts.globalalphaagreedy = false ∨ s.opts.globalnoshrink = true →
        adds.Sublist s.conditionalPart.2.2.2) := by
  have h₁ := extends_conditionalPart s
  have h₂ := h₁.trans_nil (extends_customSortAlphaA s.conditionalPart.1 s.conditionalPart.2.2.1)
  have h₃ := h₂.trans_nil (extends_shrinkStrategy _ (s.conditionalPart.1.customSortAlphaA
    s.conditionalPart.2.2.1).2 s.conditionalPart.2.1)
  have hg := h₂.opts
  unfold leastConditionalPart
  dsimp only
  generalize s.conditionalPart.1.customSortAlphaA s.conditionalPart.2.2.1 = a at h₃ hg
  rcases hr : a.1.shrinkStrategy a.2 s.conditionalPart.2.1 with ⟨s', _ | ⟨useful, residual⟩⟩
  · rw [hr] at h₃
    exact ⟨[], h₃, fun _ => List.nil_sublist _⟩
  · rw [hr] at h₃
    dsimp only at h₃ ⊢
    have ho : s'.opts = s.opts := h₃.opts
    by_cases hraw : (useful.isEmpty || s'.opts.globalnoshrink) = true
    · rw [if_pos hraw]
      obtain ⟨adds, hsub, hext⟩ := extends_addRaw a.2
        (s.conditionalPart.2.2.2.take (min s'.opts.globalmaxclause
          s.conditionalPart.2.2.2.length).toNat) (s', false)
      exact ⟨adds, h₃.nil_trans hext, fun _ => hsub.trans (List.take_sublist _ _)⟩
    · rw [if_neg hraw]
      have hnot : ¬ (s.opts.globalalphaagreedy = false ∨ s.opts.globalnoshrink = true) := by
        rintro (h | h)
        · have := shrinkStrategy_useful_nil a.1 a.2 _ (by rw [hg]; exact h) (congrArg Prod.snd hr)
          simp_all
        · simp_all
      have hchk : Extends s' (if s'.opts.globalfiltertriv then s'.checkIfClauseTrivial
          (residual ++ useful) else (s', false)).1 [] := by
        split_ifs
        · exact extends_checkIfClauseTrivial _ _
        · exact .refl _
      generalize (if s'.opts.globalfiltertriv then s'.checkIfClauseTrivial
          (residual ++ useful) else (s', false)) = r at hchk
      by_cases hr2 : r.2 = true
      · rw [if_pos hr2]
        exact ⟨[], h₃.trans_nil hchk, fun h => absurd h hnot⟩
      · rw [if_neg hr2]
        exact ⟨[residual ++ useful], h₃.nil_trans (hchk.nil_trans (extends_addClause _ _ _ _ _)),
          fun h => absurd h hnot⟩

end Internal
end cautical
