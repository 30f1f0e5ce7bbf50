-- The laws of `least_conditional_part` and of the two drivers over whole runs.
-- Outside the greedy strategies every clause `least_conditional_part` hands to
-- `add_clause` is a blocked raw candidate, and together they keep the formula
-- satisfiable. Every run of either driver extends the state it starts from, in
-- the sense of `Extends`, and ends with the marks clear.
import Cautical.Frame
import Cautical.GlobalPreprocess
import Cautical.Semantics

namespace cautical

/-- A turn that ends leaves a state that extends `s`; a turn that never ends says
nothing. -/
def Flow.Extends (s : Internal) : Flow → Prop
  | .next t | .exit t | .ret t _ => ∃ adds, s.Extends t adds
  | .hang => True

theorem Flow.Extends.pre {s t : Internal} {as : List (List Int)} {f : Flow}
    (h : f.Extends t) (h₁ : s.Extends t as) : f.Extends s := by
  cases f with
  | hang => trivial
  | _ => obtain ⟨bs, h⟩ := h; exact ⟨_, h₁.trans h⟩

namespace Internal

theorem extends_ofUnsat {s t : Internal} (h : ∃ adds, Extends s t adds) :
    (Flow.ofUnsat t).Extends s := by
  unfold Flow.ofUnsat
  split <;> exact h

/-! ## One call of `least_conditional_part` -/

/-- Outside the greedy strategies, or with `globalnoshrink`, from a consistent trail and
clear marks: `least_conditional_part` extends the state, the clauses it hands to
`add_clause` are raw candidates in the scan's order, each is blocked, and every model of
the formula it considered becomes one that also satisfies them all. -/
theorem leastConditionalPart_sound (s : Internal) (hcons : s.Consistent)
    (hclear : ∀ l, s.globalmarks l = false)
    (hraw : s.opts.globalalphaagreedy = false ∨ s.opts.globalnoshrink = true) :
    ∃ new, Extends s s.leastConditionalPart.1 new ∧ new.Sublist s.conditionalPart.2.2.2 ∧
      (∀ C ∈ new, s.Blocked C) ∧
      ∀ τ, s.Models τ → ∃ τ', s.Models τ' ∧ ∀ C ∈ new, clauseTrue τ' C = true := by
  obtain ⟨new, hext, hsub⟩ := extends_leastConditionalPart s
  have hsub := hsub hraw
  refine ⟨new, hext, hsub, fun C hC => toAdd_blocked hcons hclear C (hsub.subset hC),
    fun τ hτ => ?_⟩
  obtain ⟨τ', hτ', hall⟩ := toAdd_satisfiable hcons hclear hτ
  exact ⟨τ', hτ', fun C hC => hall C (hsub.subset hC)⟩

theorem leastConditionalPart_sound_tautologyState :
    tautologyState.Consistent ∧ (∀ l, tautologyState.globalmarks l = false) ∧
      (tautologyState.opts.globalalphaagreedy = false ∨
        tautologyState.opts.globalnoshrink = true) ∧
      ∃ new, Extends tautologyState tautologyState.leastConditionalPart.1 new ∧
        new.Sublist tautologyState.conditionalPart.2.2.2 ∧
        (∀ C ∈ new, tautologyState.Blocked C) ∧
        ∀ τ, tautologyState.Models τ → ∃ τ', tautologyState.Models τ' ∧
          ∀ C ∈ new, clauseTrue τ' C = true :=
  ⟨by decide, fun _ => rfl, .inl rfl,
    leastConditionalPart_sound _ (by decide) (fun _ => rfl) (.inl rfl)⟩

/-! ## The turns of `global_preprocess` -/

theorem extends_getTouchedLiterals (s : Internal) : Extends s s.getTouchedLiterals.1 [] := by
  unfold getTouchedLiterals
  split_ifs
  · exact .refl s
  · exact .of_frame rfl rfl rfl rfl rfl rfl rfl

theorem extends_pickProbe (s : Internal) (sorted : List Int) (count : Nat) {i : Int}
    {t : Internal} (h : s.pickProbe sorted count = some (i, t)) : Extends s t [] := by
  unfold pickProbe at h
  split_ifs at h <;> cases h
  · exact .refl s
  · exact .refl s
  · exact (extends_nextRand s).trans_nil (extends_nextRand _)

theorem extends_probePolarity (s : Internal) (i j : Int) : (s.probePolarity i j).Extends s := by
  unfold probePolarity
  split
  · exact ⟨[], .refl s⟩
  split
  · exact ⟨[], .refl s⟩
  split
  · trivial
  next s1 h1 =>
  have h₁ := (extends_backtrack s 0).trans_nil (extends_propagateUntilOk 1 _ _ h1)
  have h₂ := h₁.trans_nil ((extends_searchAssumeDecision s1 i).trans_nil (extends_propagate _))
  dsimp only
  split
  · exact extends_ofUnsat ⟨[], h₂.trans_nil (extends_analyzeAll _)⟩
  split
  · exact ⟨[], h₂⟩
  have h₃ := h₂.trans_nil ((extends_searchAssumeDecision _ j).trans_nil (extends_propagate _))
  split
  · exact extends_ofUnsat ⟨[], h₃.trans_nil (extends_analyzeAll _)⟩
  · obtain ⟨adds, h, -⟩ := extends_leastConditionalPart
      ((s1.searchAssumeDecision i).propagate.1.searchAssumeDecision j).propagate.1
    exact extends_ofUnsat ⟨_, (h₃.nil_trans h).trans (extends_backtrack _ 0)⟩

theorem extends_polarityLoop (i j : Int) (ps : List Int) (s : Internal) :
    (polarityLoop i j ps s).Extends s := by
  induction ps generalizing s with
  | nil => exact ⟨[], .refl s⟩
  | cons p ps ih =>
    have h := extends_probePolarity s i (p * j)
    unfold polarityLoop
    generalize probePolarity s i (p * j) = f at h ⊢
    cases f with
    | next s' => obtain ⟨_, h⟩ := h; exact (ih s').pre h
    | _ => exact h

theorem extends_touchedLitsLoop (i : Int) (js : List Int) (s : Internal) :
    (touchedLitsLoop i js s).Extends s := by
  induction js generalizing s with
  | nil => exact ⟨[], .refl s⟩
  | cons j js ih =>
    unfold touchedLitsLoop
    dsimp only
    by_cases hb : s.budgetOut.1 = true
    · rw [if_pos hb]; exact ⟨[], extends_budgetOut s⟩
    · rw [if_neg hb]
      have h := (extends_polarityLoop i j (if s.budgetOut.2.opts.globalbothpol then [-1, 1]
        else [1]) s.budgetOut.2).pre (extends_budgetOut s)
      generalize polarityLoop i j _ s.budgetOut.2 = f at h ⊢
      cases f with
      | next s' =>
        obtain ⟨_, h⟩ := h
        dsimp only
        split_ifs
        · exact ⟨_, h⟩
        · exact (ih s').pre h
      | _ => exact h

theorem extends_probeSingles (s : Internal) (i : Int) : (s.probeSingles i).Extends s := by
  unfold probeSingles
  dsimp only
  have h₀ := extends_backtrack s 0
  have h₁ := h₀.trans_nil ((extends_searchAssumeDecision _ i).trans_nil (extends_propagate _))
  have h₂ := h₁.trans_nil (((extends_backtrack _ 0).trans_nil
    (extends_searchAssumeDecision _ (-i))).trans_nil (extends_propagate _))
  split_ifs
  · exact ⟨[], .refl s⟩
  · exact ⟨[], h₀⟩
  · exact ⟨[], (h₁.trans_nil (extends_analyzeAll _)).trans_nil (extends_backtrack _ 0)⟩
  · exact ⟨[], (h₂.trans_nil (extends_analyzeAll _)).trans_nil (extends_backtrack _ 0)⟩
  · exact extends_ofUnsat ⟨[], h₂⟩

theorem extends_probeLiteral (s : Internal) (i : Int) : (s.probeLiteral i).Extends s := by
  unfold probeLiteral
  dsimp only
  have h₀ := extends_backtrack s 0
  have h₁ := h₀.trans_nil ((extends_searchAssumeDecision _ i).trans_nil (extends_propagate _))
  have h₃ := (h₁.trans_nil (extends_analyze _)).trans_nil (extends_propagate _)
  split_ifs
  · exact ⟨[], h₀⟩
  · exact ⟨[], h₃.trans_nil (extends_analyze _)⟩
  · exact ⟨[], h₃⟩
  · have h := (extends_touchedLitsLoop i
      ((s.backtrack 0).searchAssumeDecision i).propagate.1.getTouchedLiterals.2 _).pre
      (h₁.trans_nil (extends_getTouchedLiterals _))
    generalize touchedLitsLoop i _ _ = f at h ⊢
    cases f with
    | next s' => obtain ⟨_, h⟩ := h; exact (extends_probeSingles s' i).pre h
    | _ => exact h

theorem extends_outerLoop (sorted : List Int) (cs : List Nat) (s : Internal) :
    (outerLoop sorted cs s).Extends s := by
  induction cs generalizing s with
  | nil => exact ⟨[], .refl s⟩
  | cons c cs ih =>
    unfold outerLoop
    dsimp only
    split_ifs
    · exact ⟨[], extends_budgetOut s⟩
    · split
      · exact ⟨[], extends_budgetOut s⟩
      · next i s1 hp =>
        have h := (extends_probeLiteral s1 i).pre
          ((extends_budgetOut s).trans_nil (extends_pickProbe _ _ _ hp))
        generalize probeLiteral s1 i = f at h ⊢
        cases f with
        | next s' => obtain ⟨_, h⟩ := h; exact (ih s').pre h
        | _ => exact h

/-! ## The runs of the drivers -/

/-- The reset of the marks at the start of both drivers. -/
theorem extends_clearMarks (s : Internal) :
    Extends s { s with globalmarks := fun _ => false } [] :=
  ⟨rfl, ⟨[], by simp, by simp⟩, by simp [addedClauses], fun _ h _ => h, fun _ => id, id, id,
    fun _ _ => rfl⟩

/-- Every run of `global_preprocess` that returns keeps the options and every clause, adds
only learned clauses, keeps the root-level assignments, the `FIXED` variables and
`unsat`, keeps every root-level assignment `FIXED`, and leaves every mark clear. -/
theorem globalPreprocess_extends (s : Internal) (r : Internal × Int)
    (h : s.globalPreprocess = some r) :
    (∃ adds, Extends s r.1 adds) ∧ ∀ l, r.1.globalmarks l = false := by
  have hf := extends_outerLoop (if s.opts.globalisort then
      { s with globalmarks := fun _ => false }.getSortedLiterals else [])
    ((List.range s.maxVar).map (· + 1)) { s with globalmarks := fun _ => false }
  have hend : ∀ t, (∃ adds, Extends { s with globalmarks := fun _ => false } t adds) →
      (∃ adds, Extends s t adds) ∧ ∀ l, t.globalmarks l = false :=
    fun t ⟨_, ht⟩ => ⟨⟨_, (extends_clearMarks s).nil_trans ht⟩, ht.marks fun _ => rfl⟩
  unfold globalPreprocess at h
  dsimp only at h
  split at h <;> rename_i heq <;> rw [heq] at hf <;> cases h <;> exact hend _ hf

/-- On `tautologyState` the run reaches `least_conditional_part`, which learns a clause. -/
theorem globalPreprocess_extends_tautologyState :
    ∃ r, tautologyState.globalPreprocess = some r ∧ addedClauses r.1 ≠ [] ∧
      (∃ adds, Extends tautologyState r.1 adds) ∧ ∀ l, r.1.globalmarks l = false := by
  obtain ⟨r, hr, hadd⟩ := Option.map_eq_some'.1 (by decide :
    (tautologyState.globalPreprocess.map fun r => (addedClauses r.1).isEmpty) = some false)
  exact ⟨r, hr, fun he => by simp [he] at hadd, globalPreprocess_extends _ _ hr⟩

/-! ## `global_preprocess_chess` -/

theorem extends_assumeBatch (l : List Int) (s : Internal) : Extends s (assumeBatch l s).1 [] := by
  induction l generalizing s with
  | nil => exact .refl s
  | cons a rest ih =>
    unfold assumeBatch
    dsimp only
    have h := (extends_searchAssumeDecision s a).trans_nil (extends_propagate _)
    split_ifs
    · exact ih s
    · exact ih s
    · exact h.trans_nil (ih _)
    · exact h.trans_nil (extends_analyzeAll _)

theorem extends_chessBatch (s : Internal) (batch t : List Int) :
    ∃ adds, Extends s (s.chessBatch batch t) adds := by
  have h₀ := ((Extends.of_frame rfl rfl rfl rfl rfl rfl rfl : Extends s
    { s with globalTry := t } []).trans_nil (extends_backtrack _ 0)).trans_nil
    (extends_assumeBatch batch _)
  unfold chessBatch
  dsimp only
  generalize assumeBatch batch ({ s with globalTry := t }.backtrack 0) = r at h₀
  obtain ⟨adds, h₁⟩ : ∃ adds, Extends s (if r.2 then r.1.leastConditionalPart.1 else r.1) adds := by
    split_ifs
    · obtain ⟨adds, h, -⟩ := extends_leastConditionalPart r.1
      exact ⟨adds, h₀.nil_trans h⟩
    · exact ⟨[], h₀⟩
  generalize (if r.2 then r.1.leastConditionalPart.1 else r.1) = s2 at h₁ ⊢
  have h₂ := (h₁.trans (extends_backtrack _ 0)).trans (extends_propagate _)
  split_ifs
  · exact ⟨_, h₂⟩
  · exact ⟨_, h₂.trans (extends_analyzeAll _)⟩

theorem extends_chessLoop (l : List (List Int × List Int)) (s : Internal) :
    ∃ adds, Extends s (chessLoop l s).1 adds := by
  induction l generalizing s with
  | nil => exact ⟨[], .refl s⟩
  | cons b rest ih =>
    obtain ⟨batch, t⟩ := b
    obtain ⟨as, h⟩ := extends_chessBatch s batch t
    unfold chessLoop
    dsimp only
    split_ifs
    · exact ⟨as, h⟩
    · obtain ⟨bs, h'⟩ := ih (s.chessBatch batch t)
      exact ⟨_, h.trans h'⟩

/-- Every run of `global_preprocess_chess` keeps the options and every clause, adds only
learned clauses, keeps the root-level assignments, the `FIXED` variables and `unsat`,
keeps every root-level assignment `FIXED`, and leaves every mark clear. -/
theorem globalPreprocessChess_extends (s : Internal) :
    (∃ adds, Extends s s.globalPreprocessChess.1 adds) ∧
      ∀ l, s.globalPreprocessChess.1.globalmarks l = false := by
  obtain ⟨adds, h⟩ := extends_chessLoop asses { s with globalmarks := fun _ => false }
  exact ⟨⟨adds, (extends_clearMarks s).nil_trans h⟩, h.marks fun _ => rfl⟩

end Internal
end cautical
