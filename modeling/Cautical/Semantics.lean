-- What the clauses that the global preprocessing adds mean. A clause is blocked
-- with the trail as witness when every model of the formula that falsifies it,
-- overwritten by the trail, is a model of the formula and of the clause. Every
-- raw candidate `neg_alpha_c + {key}` of the scan is blocked in this sense.
import Cautical.Scan

namespace cautical

/-- A total assignment of the variables. -/
abbrev Assignment := Nat → Bool

/-- `τ` makes the literal `l` true. -/
def litTrue (τ : Assignment) (l : Int) : Bool := if 0 < l then τ l.natAbs else !τ l.natAbs

def clauseTrue (τ : Assignment) (c : List Int) : Bool := c.any (litTrue τ)

theorem litTrue_neg (τ : Assignment) {l : Int} (hl : l ≠ 0) : litTrue τ (-l) = !litTrue τ l := by
  rcases lt_or_gt_of_ne hl with h | h
  · simp [litTrue, show ¬ 0 < l by omega, show 0 < -l by omega, Int.natAbs_neg]
  · simp [litTrue, h, show ¬ 0 < -l by omega, Int.natAbs_neg]

namespace Internal

/-- The trail holds no literal together with its negation (nor `0`, which is its own). -/
def Consistent (s : Internal) : Prop := ∀ a ∈ s.trail, ∀ b ∈ s.trail, a.lit ≠ -b.lit

instance (s : Internal) : Decidable s.Consistent :=
  inferInstanceAs (Decidable (∀ a ∈ s.trail, ∀ b ∈ s.trail, a.lit ≠ -b.lit))

/-- `τ` satisfies the clauses the scan considers and every true `FIXED` literal. -/
def Models (s : Internal) (τ : Assignment) : Prop :=
  (∀ c ∈ s.clauses, s.Considered c → clauseTrue τ c.lits = true) ∧
    ∀ l, s.fixed l = true → 0 < s.val l → litTrue τ l = true

/-- `τ` overwritten by the trail on the variables the trail assigns. -/
def overwrite (s : Internal) (τ : Assignment) : Assignment :=
  fun v => if s.val v = 1 then true else if s.val v = -1 then false else τ v

/-- `C` is blocked with the trail as witness. -/
def Blocked (s : Internal) (C : List Int) : Prop :=
  ∀ τ, s.Models τ → clauseTrue τ C = false →
    s.Models (s.overwrite τ) ∧ clauseTrue (s.overwrite τ) C = true

/-! ## Values on a consistent trail -/

section values

variable {s : Internal}

theorem val_cases (l : Int) : s.val l = 1 ∨ s.val l = -1 ∨ s.val l = 0 := by
  unfold val; split_ifs <;> simp

theorem val_neg (h : s.Consistent) (l : Int) : s.val (-l) = - s.val l := by
  have hboth : ¬ (s.trail.any (·.lit == l) = true ∧ s.trail.any (·.lit == -l) = true) := by
    rintro ⟨h1, h2⟩
    obtain ⟨a, ha, hal⟩ := List.any_eq_true.1 h1
    obtain ⟨b, hb, hbl⟩ := List.any_eq_true.1 h2
    simp only [beq_iff_eq] at hal hbl
    exact h b hb a ha (by omega)
  unfold val
  simp only [Int.neg_neg]
  cases h1 : s.trail.any (·.lit == l) <;> cases h2 : s.trail.any (·.lit == -l)
  all_goals first | rfl | exact absurd ⟨h1, h2⟩ hboth

theorem val_zero (h : s.Consistent) : s.val 0 = 0 := by
  have := val_neg h 0; simp at this; omega

theorem val_ne_zero {l : Int} (h : s.Consistent) (hl : s.val l ≠ 0) : l ≠ 0 := by
  rintro rfl; exact hl (val_zero h)

theorem litTrue_overwrite (h : s.Consistent) (τ : Assignment) (l : Int) :
    litTrue (s.overwrite τ) l =
      if s.val l = 1 then true else if s.val l = -1 then false else litTrue τ l := by
  unfold litTrue overwrite
  by_cases hl : 0 < l
  · simp only [hl, if_true, Int.natAbs_of_nonneg hl.le]
  · have hcast : ((l.natAbs : Nat) : Int) = -l := by omega
    simp only [hl, if_false, hcast, val_neg h]
    rcases val_cases (s := s) l with h1 | h1 | h1 <;> simp [h1]

end values

/-! ## The raw candidates are blocked -/

section raw

variable {s : Internal}

/-- A model that falsifies `neg_alpha_c`, overwritten by the trail, is still a model:
a clause with no true literal is kept by an open literal, since its false literals are
`FIXED` or in `neg_alpha_c`. -/
theorem models_overwrite (hcons : s.Consistent) (hclear : ∀ l, s.globalmarks l = false)
    {τ : Assignment} (hτ : s.Models τ) (hneg : ∀ l ∈ s.scan.negAlphaC, litTrue τ l = false) :
    s.Models (s.overwrite τ) := by
  refine ⟨fun c hc hcon => ?_, fun l _ hpos => ?_⟩
  · by_cases hsat : ∃ x ∈ c.lits, 0 < s.val x
    · obtain ⟨x, hx, hpos⟩ := hsat
      have h1 : s.val x = 1 := by rcases val_cases (s := s) x with h | h | h <;> omega
      exact List.any_eq_true.2 ⟨x, hx, by simp [litTrue_overwrite hcons, h1]⟩
    · push_neg at hsat
      obtain ⟨x, hx, hτx⟩ := List.any_eq_true.1 (hτ.1 c hc hcon)
      rcases val_cases (s := s) x with h1 | h1 | h1
      · exact absurd (hsat x hx) (by omega)
      · exfalso
        have hx0 : x ≠ 0 := val_ne_zero hcons (by omega)
        cases hfix : s.fixed x
        · have hin : s.InNeg s.clauses x := ⟨by omega, hfix, c, hc, hcon, hx, hsat⟩
          simp [hneg x (((scan_inv hclear).neg x).2 hin)] at hτx
        · have hf : s.fixed (-x) = true := by simpa [fixed, flags, Int.natAbs_neg] using hfix
          have := hτ.2 (-x) hf (by rw [val_neg hcons]; omega)
          simp [litTrue_neg τ hx0, hτx] at this
      · exact List.any_eq_true.2 ⟨x, hx, by simp [litTrue_overwrite hcons, h1, hτx]⟩
  · have h1 : s.val l = 1 := by rcases val_cases (s := s) l with h | h | h <;> omega
    simp [litTrue_overwrite hcons, h1]

/-- Every raw candidate `neg_alpha_c + {key}` is blocked with the trail as witness. -/
theorem toAdd_blocked (hcons : s.Consistent) (hclear : ∀ l, s.globalmarks l = false) :
    ∀ C ∈ s.conditionalPart.2.2.2, s.Blocked C := by
  intro C hC τ hτ hfalse
  obtain ⟨k, hk, -, rfl⟩ := (mem_toAdd hclear C).1 hC
  have hneg : ∀ l ∈ s.scan.negAlphaC, litTrue τ l = false := fun l hl =>
    Bool.eq_false_iff.2 (List.any_eq_false.1 hfalse l (List.mem_append_left _ hl))
  refine ⟨models_overwrite hcons hclear hτ hneg, List.any_eq_true.2 ⟨k, by simp, ?_⟩⟩
  have h1 : s.val k = 1 := by rcases val_cases (s := s) k with h | h | h <;> have := hk.1 <;> omega
  simp [litTrue_overwrite hcons, h1]

/-- The raw candidates together keep the formula satisfiable: a model that makes a literal
of `neg_alpha_c` true satisfies them all, and one that makes none true, overwritten by the
trail, is a model that satisfies them all through their keys. -/
theorem toAdd_satisfiable (hcons : s.Consistent) (hclear : ∀ l, s.globalmarks l = false)
    {τ : Assignment} (hτ : s.Models τ) :
    ∃ τ', s.Models τ' ∧ ∀ C ∈ s.conditionalPart.2.2.2, clauseTrue τ' C = true := by
  by_cases hneg : ∀ l ∈ s.scan.negAlphaC, litTrue τ l = false
  · refine ⟨s.overwrite τ, models_overwrite hcons hclear hτ hneg, fun C hC => ?_⟩
    obtain ⟨k, hk, -, rfl⟩ := (mem_toAdd hclear C).1 hC
    have h1 : s.val k = 1 := by
      rcases val_cases (s := s) k with h | h | h <;> have := hk.1 <;> omega
    exact List.any_eq_true.2 ⟨k, by simp, by simp [litTrue_overwrite hcons, h1]⟩
  · push_neg at hneg
    obtain ⟨l, hl, hτl⟩ := hneg
    refine ⟨τ, hτ, fun C hC => ?_⟩
    obtain ⟨k, -, -, rfl⟩ := (mem_toAdd hclear C).1 hC
    exact List.any_eq_true.2 ⟨l, List.mem_append_left _ hl, by simpa using hτl⟩

end raw

end Internal
end cautical
