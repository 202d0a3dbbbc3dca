/-
# `AegisOs.Lib.Regex` — regular expressions, read as a backtracking matcher reads them

The expressions of this module are those of a backtracking matcher: classes of
characters, greedy stars of a class, sequence, ordered choice, the word
boundary `\b` and the negative look-ahead `(?!…)`.

**Two readings.**  `runs` is the matcher: all ways to match at a spot, in the
order in which they are tried, so that its head is the match that is found.
`Run` is what it is to match, as a relation between the text before, the
text matched and the text behind; `mem_runs` says that they agree.

**What a match may look at.**  Whether a part of an expression matches can
depend on the text around it, through boundaries and look-aheads.  `Local`
is the static check that it does not (`Run.extend`), and a character that no
class accepts and no word contains is as good as the end of the text on either
side of it (`runs_right`, `runs_left`).
-/
import Mathlib.Data.List.Basic
import Mathlib.Order.Lattice

namespace AegisOs.Lib

/-- A place in a text: what is before it, nearest first, and what is behind it. -/
structure Spot (A : Type) where
  before : List A
  after : List A

inductive Regex (A : Type) where
  | eps
  | one (p : A → Bool)
  | many (p : A → Bool)
  | seq (r q : Regex A)
  | alt (r q : Regex A)
  | bound
  | notAhead (r : Regex A)

variable {A : Type}

/-- A word begins or ends here. -/
def Spot.boundary (word : A → Bool) (s : Spot A) : Bool :=
  s.before.head?.any word != s.after.head?.any word

/-- The spot `s` is reached from `⟨b, x⟩` by passing over nothing. -/
theorem Spot.eq_mk_iff {s : Spot A} {b x : List A} :
    s = ⟨b, x⟩ ↔ x = [] ++ s.after ∧ s.before = [].reverse ++ b := by
  obtain ⟨before, after⟩ := s
  constructor
  · rintro ⟨⟩
    exact ⟨rfl, rfl⟩
  · rintro ⟨hx, hb⟩
    cases hx
    cases hb
    rfl

namespace Regex

/-! ## Abbreviations -/

/-- `r?`, greedy. -/
def opt (r : Regex A) : Regex A := .alt r .eps

/-- `p+`, greedy. -/
def some_ (p : A → Bool) : Regex A := .seq (.one p) (.many p)

/-- `r{n}`. -/
def times : ℕ → Regex A → Regex A
  | 0, _ => .eps
  | 1, r => r
  | n + 2, r => .seq r (times (n + 1) r)

/-- The parts one after another. -/
def cat : List (Regex A) → Regex A
  | [] => .eps
  | [r] => r
  | r :: q :: rs => .seq r (cat (q :: rs))

/-- The alternatives, in this order. -/
def choice : List (Regex A) → Regex A
  | [] => .eps
  | [r] => r
  | r :: q :: rs => .alt r (choice (q :: rs))

/-! ## The matcher -/

section
variable (word : A → Bool)

/-- Of a star, the longest first. -/
def manyRuns (p : A → Bool) : List A → List A → List (Spot A)
  | b, [] => [⟨b, []⟩]
  | b, a :: as => if p a then manyRuns p (a :: b) as ++ [⟨b, a :: as⟩] else [⟨b, a :: as⟩]

/-- Where a match that begins at the spot may end, in the order of the matcher. -/
def runs : Regex A → Spot A → List (Spot A)
  | .eps, s => [s]
  | .one _, ⟨_, []⟩ => []
  | .one p, ⟨b, a :: as⟩ => if p a then [⟨a :: b, as⟩] else []
  | .many p, s => manyRuns p s.before s.after
  | .seq r q, s => (runs r s).flatMap (runs q)
  | .alt r q, s => runs r s ++ runs q s
  | .bound, s => if s.boundary word then [s] else []
  | .notAhead r, s => if (runs r s).isEmpty then [s] else []

/-- `pattern.search`, from a spot on. -/
def search (r : Regex A) : List A → List A → Bool
  | b, [] => !(runs word r ⟨b, []⟩).isEmpty
  | b, a :: as => !(runs word r ⟨b, a :: as⟩).isEmpty || search r (a :: b) as

/-! ## What it is to match -/

/-- Behind `b`, and with `y` to follow, the expression matches `m`. -/
def Run : Regex A → List A → List A → List A → Prop
  | .eps, _, m, _ => m = []
  | .one p, _, m, _ => ∃ a, m = [a] ∧ p a = true
  | .many p, _, m, _ => ∀ a ∈ m, p a = true
  | .seq r q, b, m, y => ∃ m₁ m₂, m = m₁ ++ m₂ ∧ Run r b m₁ (m₂ ++ y) ∧ Run q (m₁.reverse ++ b) m₂ y
  | .alt r q, b, m, y => Run r b m y ∨ Run q b m y
  | .bound, b, m, y => m = [] ∧ Spot.boundary word ⟨b, y⟩ = true
  | .notAhead r, b, m, y => m = [] ∧ ∀ m' y', y = m' ++ y' → ¬Run r b m' y'

/-- The expression matches somewhere in the text. -/
def Occurs (r : Regex A) (text : List A) : Prop :=
  ∃ u m v, text = u ++ (m ++ v) ∧ Run word r u.reverse m v

variable {word}

theorem mem_manyRuns {p : A → Bool} {s : Spot A} : ∀ {x b : List A},
    s ∈ manyRuns p b x ↔ ∃ m, x = m ++ s.after ∧ s.before = m.reverse ++ b ∧ ∀ a ∈ m, p a = true
  | [], b => by
      simp only [manyRuns, List.mem_singleton]
      rw [Spot.eq_mk_iff]
      constructor
      · rintro ⟨hx, hb⟩
        exact ⟨[], hx, hb, by simp⟩
      · rintro ⟨m, hx, hb, -⟩
        obtain ⟨rfl, -⟩ := List.append_eq_nil_iff.mp hx.symm
        exact ⟨hx, hb⟩
  | a :: as, b => by
      by_cases hp : p a = true
      · simp only [manyRuns, if_pos hp, List.mem_append, List.mem_singleton]
        rw [mem_manyRuns, Spot.eq_mk_iff]
        constructor
        · rintro (⟨m, hx, hb, hm⟩ | ⟨hx, hb⟩)
          · exact ⟨a :: m, by rw [hx]; rfl, by simp [hb], by simpa [hp] using hm⟩
          · exact ⟨[], hx, hb, by simp⟩
        · rintro ⟨m, hx, hb, hm⟩
          cases m with
          | nil => exact .inr ⟨hx, hb⟩
          | cons c m =>
              cases hx
              exact .inl ⟨m, rfl, by simpa using hb, fun d hd => hm d (List.mem_cons_of_mem _ hd)⟩
      · simp only [manyRuns, if_neg hp, List.mem_singleton]
        rw [Spot.eq_mk_iff]
        constructor
        · rintro ⟨hx, hb⟩
          exact ⟨[], hx, hb, by simp⟩
        · rintro ⟨m, hx, hb, hm⟩
          cases m with
          | nil => exact ⟨hx, hb⟩
          | cons c m =>
              cases hx
              exact absurd (hm a List.mem_cons_self) hp

/-- What consumes nothing matches where its condition holds. -/
theorem mem_assertion {c : Bool} {P : List A → Prop} {b x : List A} {s : Spot A}
    (hc : c = true ↔ P x) :
    s ∈ (if c then [⟨b, x⟩] else []) ↔
      ∃ m, x = m ++ s.after ∧ s.before = m.reverse ++ b ∧ m = [] ∧ P s.after := by
  by_cases h : c = true
  · rw [if_pos h, List.mem_singleton, Spot.eq_mk_iff]
    constructor
    · rintro ⟨hx, hb⟩
      refine ⟨[], hx, hb, rfl, ?_⟩
      rw [← List.nil_append s.after, ← hx]
      exact hc.mp h
    · rintro ⟨m, hx, hb, rfl, -⟩
      exact ⟨hx, hb⟩
  · rw [if_neg h]
    refine iff_of_false List.not_mem_nil ?_
    rintro ⟨m, rfl, -, rfl, hP⟩
    exact h (hc.mpr hP)

/-- The matcher finds exactly the matches. -/
theorem mem_runs {r : Regex A} : ∀ {s : Spot A} {b x : List A}, s ∈ runs word r ⟨b, x⟩ ↔
    ∃ m, x = m ++ s.after ∧ s.before = m.reverse ++ b ∧ Run word r b m s.after := by
  induction r with
  | eps =>
      intro s b x
      simp only [runs, List.mem_singleton, Run]
      rw [Spot.eq_mk_iff]
      constructor
      · rintro ⟨hx, hb⟩
        exact ⟨[], hx, hb, rfl⟩
      · rintro ⟨m, hx, hb, rfl⟩
        exact ⟨hx, hb⟩
  | one p =>
      intro s b x
      cases x with
      | nil =>
          simp only [runs, List.not_mem_nil, false_iff]
          rintro ⟨m, hx, -, a, rfl, -⟩
          cases hx
      | cons a as =>
          by_cases hp : p a = true
          · simp only [runs, if_pos hp, List.mem_singleton]
            constructor
            · rintro rfl
              exact ⟨[a], rfl, rfl, a, rfl, hp⟩
            · rintro ⟨m, hx, hb, c, rfl, -⟩
              cases s
              cases hx
              cases hb
              rfl
          · simp only [runs, if_neg hp, List.not_mem_nil, false_iff]
            rintro ⟨m, hx, -, c, rfl, hc⟩
            cases hx
            exact hp hc
  | many p =>
      intro s b x
      exact mem_manyRuns
  | seq r q ihr ihq =>
      intro s b x
      simp only [runs, List.mem_flatMap]
      constructor
      · rintro ⟨⟨b₁, x₁⟩, hr, hq⟩
        obtain ⟨m₁, rfl, rfl, h₁⟩ := ihr.mp hr
        obtain ⟨m₂, rfl, hb, h₂⟩ := ihq.mp hq
        exact ⟨m₁ ++ m₂, by simp, by simp [hb], m₁, m₂, rfl, h₁, h₂⟩
      · rintro ⟨m, rfl, hb, m₁, m₂, rfl, h₁, h₂⟩
        refine ⟨⟨m₁.reverse ++ b, m₂ ++ s.after⟩, ihr.mpr ⟨m₁, by simp, rfl, h₁⟩,
          ihq.mpr ⟨m₂, rfl, by simp [hb], h₂⟩⟩
  | alt r q ihr ihq =>
      intro s b x
      simp only [runs, List.mem_append, ihr, ihq, Run]
      constructor
      · rintro (⟨m, hx, hb, h⟩ | ⟨m, hx, hb, h⟩)
        · exact ⟨m, hx, hb, .inl h⟩
        · exact ⟨m, hx, hb, .inr h⟩
      · rintro ⟨m, hx, hb, h | h⟩
        · exact .inl ⟨m, hx, hb, h⟩
        · exact .inr ⟨m, hx, hb, h⟩
  | bound =>
      intro s b x
      exact mem_assertion (P := fun y => Spot.boundary word ⟨b, y⟩ = true) Iff.rfl
  | notAhead r ih =>
      intro s b x
      have hnone : (runs word r ⟨b, x⟩).isEmpty = true ↔
          ∀ m y, x = m ++ y → ¬Run word r b m y := by
        rw [List.isEmpty_iff, List.eq_nil_iff_forall_not_mem]
        constructor
        · intro h m y hx hrun
          exact h ⟨m.reverse ++ b, y⟩ (ih.mpr ⟨m, hx, rfl, hrun⟩)
        · intro h s hs
          obtain ⟨m, hx, -, hrun⟩ := ih.mp hs
          exact h m _ hx hrun
      exact mem_assertion (P := fun z => ∀ m y, z = m ++ y → ¬Run word r b m y) hnone

theorem runs_ne_nil {r : Regex A} {b x : List A} :
    runs word r ⟨b, x⟩ ≠ [] ↔ ∃ m y, x = m ++ y ∧ Run word r b m y := by
  constructor
  · intro h
    obtain ⟨s, hs⟩ := List.exists_mem_of_ne_nil _ h
    obtain ⟨m, hx, -, hrun⟩ := mem_runs.mp hs
    exact ⟨m, _, hx, hrun⟩
  · rintro ⟨m, y, hx, hrun⟩
    exact List.ne_nil_of_mem (mem_runs.mpr ⟨m, hx, rfl, hrun⟩ :
      (⟨m.reverse ++ b, y⟩ : Spot A) ∈ runs word r ⟨b, x⟩)

theorem search_iff_runs {r : Regex A} : ∀ {x b : List A},
    search word r b x = true ↔ ∃ u v, x = u ++ v ∧ runs word r ⟨u.reverse ++ b, v⟩ ≠ []
  | [], b => by
      have hnil : search word r b [] = true ↔ runs word r ⟨b, []⟩ ≠ [] := by
        simp [search]
      rw [hnil]
      constructor
      · exact fun h => ⟨[], [], rfl, h⟩
      · rintro ⟨u, v, hx, h⟩
        obtain ⟨rfl, rfl⟩ := List.append_eq_nil_iff.mp hx.symm
        exact h
  | a :: as, b => by
      have hcons : search word r b (a :: as) = true ↔
          runs word r ⟨b, a :: as⟩ ≠ [] ∨ search word r (a :: b) as = true := by
        simp [search]
      rw [hcons, search_iff_runs]
      constructor
      · rintro (h | ⟨u, v, rfl, h⟩)
        · exact ⟨[], a :: as, rfl, h⟩
        · exact ⟨a :: u, v, rfl, by simpa using h⟩
      · rintro ⟨u, v, hx, h⟩
        cases u with
        | nil =>
            cases hx
            exact .inl h
        | cons c u =>
            cases hx
            exact .inr ⟨u, v, rfl, by simpa using h⟩

theorem occurs_iff_runs {r : Regex A} {text : List A} :
    Occurs word r text ↔ ∃ u v, text = u ++ v ∧ runs word r ⟨u.reverse, v⟩ ≠ [] := by
  constructor
  · rintro ⟨u, m, v, htext, hrun⟩
    exact ⟨u, m ++ v, htext, runs_ne_nil.mpr ⟨m, v, rfl, hrun⟩⟩
  · rintro ⟨u, v, htext, h⟩
    obtain ⟨m, y, rfl, hrun⟩ := runs_ne_nil.mp h
    exact ⟨u, m, y, htext, hrun⟩

/-- `pattern.search(text)` finds something exactly when there is something to find. -/
theorem search_iff {r : Regex A} {text : List A} :
    search word r [] text = true ↔ Occurs word r text := by
  rw [search_iff_runs, occurs_iff_runs]
  simp only [List.append_nil]

end

/-! ## How much a match takes, and how far it looks -/

/-- At least so many characters are matched. -/
def minLen : Regex A → ℕ
  | .eps => 0
  | .one _ => 1
  | .many _ => 0
  | .seq r q => r.minLen + q.minLen
  | .alt r q => min r.minLen q.minLen
  | .bound => 0
  | .notAhead _ => 0

/-- At most so many, of an expression that looks at nothing else. -/
def maxLen : Regex A → Option ℕ
  | .eps => some 0
  | .one _ => some 1
  | .many _ => none
  | .seq r q => r.maxLen.bind fun k => q.maxLen.map (k + ·)
  | .alt r q => r.maxLen.bind fun k => q.maxLen.map (max k ·)
  | .bound => none
  | .notAhead _ => none

/-- Where `n` more characters are matched behind it, what the expression looks at is matched. -/
def Local : ℕ → Regex A → Bool
  | _, .eps => true
  | _, .one _ => true
  | _, .many _ => true
  | n, .seq r q => Local (n + q.minLen) r && Local n q
  | n, .alt r q => Local n r && Local n q
  | _, .bound => false
  | n, .notAhead r => r.maxLen.any (fun k => decide (k ≤ n))

section
variable {word : A → Bool}

theorem Run.minLen_le {r : Regex A} : ∀ {b m y : List A}, Run word r b m y → r.minLen ≤ m.length := by
  induction r with
  | eps | many p | bound | notAhead r => exact fun _ => Nat.zero_le _
  | one p =>
      rintro b m y ⟨a, rfl, -⟩
      exact le_rfl
  | seq r q ihr ihq =>
      rintro b m y ⟨m₁, m₂, rfl, h₁, h₂⟩
      rw [List.length_append]
      exact Nat.add_le_add (ihr h₁) (ihq h₂)
  | alt r q ihr ihq =>
      rintro b m y (h | h)
      · exact (min_le_left _ _).trans (ihr h)
      · exact (min_le_right _ _).trans (ihq h)

/-- An expression of bounded length does not look around. -/
theorem Run.of_maxLen {r : Regex A} : ∀ {k : ℕ} {b m y : List A}, r.maxLen = some k →
    Run word r b m y → m.length ≤ k ∧ ∀ b' y', Run word r b' m y' := by
  induction r with
  | eps =>
      rintro k b m y hk rfl
      exact ⟨Nat.zero_le _, fun _ _ => rfl⟩
  | one p =>
      rintro k b m y hk ⟨a, rfl, ha⟩
      cases hk
      exact ⟨le_rfl, fun _ _ => ⟨a, rfl, ha⟩⟩
  | many p | bound | notAhead r =>
      intro k b m y hk
      cases hk
  | seq r q ihr ihq =>
      rintro k b m y hk ⟨m₁, m₂, rfl, h₁, h₂⟩
      obtain ⟨k₁, hk₁, hk⟩ := Option.bind_eq_some_iff.mp hk
      obtain ⟨k₂, hk₂, rfl⟩ := Option.map_eq_some_iff.mp hk
      obtain ⟨hlen₁, hany₁⟩ := ihr hk₁ h₁
      obtain ⟨hlen₂, hany₂⟩ := ihq hk₂ h₂
      refine ⟨by rw [List.length_append]; omega, fun b' y' => ⟨m₁, m₂, rfl, hany₁ _ _, hany₂ _ _⟩⟩
  | alt r q ihr ihq =>
      intro k b m y hk h
      obtain ⟨k₁, hk₁, hk⟩ := Option.bind_eq_some_iff.mp hk
      obtain ⟨k₂, hk₂, rfl⟩ := Option.map_eq_some_iff.mp hk
      rcases h with h | h
      · obtain ⟨hlen, hany⟩ := ihr hk₁ h
        exact ⟨hlen.trans (le_max_left _ _), fun b' y' => .inl (hany b' y')⟩
      · obtain ⟨hlen, hany⟩ := ihq hk₂ h
        exact ⟨hlen.trans (le_max_right _ _), fun b' y' => .inr (hany b' y')⟩

/-- A local match does not depend on what surrounds it. -/
theorem Run.extend {r : Regex A} : ∀ {n : ℕ} {b m y : List A}, r.Local n = true → n ≤ y.length →
    Run word r b m y → ∀ b' z, Run word r b' m (y ++ z) := by
  induction r with
  | eps => exact fun _ _ h _ _ => h
  | one p => exact fun _ _ h _ _ => h
  | many p => exact fun _ _ h _ _ => h
  | bound =>
      intro n b m y hl
      cases hl
  | seq r q ihr ihq =>
      rintro n b m y hl hn ⟨m₁, m₂, rfl, h₁, h₂⟩ b' z
      obtain ⟨hlr, hlq⟩ := Bool.and_eq_true_iff.mp hl
      have hlen := h₂.minLen_le
      refine ⟨m₁, m₂, rfl, ?_, ihq hlq hn h₂ _ z⟩
      rw [← List.append_assoc]
      exact ihr hlr (by rw [List.length_append]; omega) h₁ b' z
  | alt r q ihr ihq =>
      intro n b m y hl hn h b' z
      obtain ⟨hlr, hlq⟩ := Bool.and_eq_true_iff.mp hl
      exact h.imp (fun h => ihr hlr hn h b' z) fun h => ihq hlq hn h b' z
  | notAhead r ih =>
      rintro n b m y hl hn ⟨rfl, hnone⟩ b' z
      obtain ⟨k, hk, hkn⟩ := Option.any_eq_true _ _ |>.mp hl
      refine ⟨rfl, fun m' y' hsplit hrun => ?_⟩
      -- what is looked for would lie in what was matched before it was extended
      obtain ⟨hlen, hany⟩ := Run.of_maxLen hk hrun
      have hle : m'.length ≤ y.length := hlen.trans ((of_decide_eq_true hkn).trans hn)
      obtain ⟨y₀, rfl⟩ : m' <+: y :=
        List.prefix_of_prefix_length_le ⟨y', hsplit.symm⟩ ⟨z, rfl⟩ hle
      exact hnone m' y₀ rfl (hany b y₀)

end

/-! ## What a match must take -/

/-- Whether there can be a match among these characters. -/
def feasible (chars : List A) : Regex A → Bool
  | .eps => true
  | .one p => chars.any p
  | .many _ => true
  | .seq r q => feasible chars r && feasible chars q
  | .alt r q => feasible chars r || feasible chars q
  | .bound => true
  | .notAhead _ => true

section
variable {word : A → Bool}

theorem Run.feasible {chars : List A} {r : Regex A} : ∀ {b m y : List A}, Run word r b m y →
    m ⊆ chars → r.feasible chars = true := by
  induction r with
  | eps | many p | bound | notAhead r => exact fun _ _ => rfl
  | one p =>
      rintro b m y ⟨a, rfl, ha⟩ hm
      exact List.any_eq_true.mpr ⟨a, hm List.mem_cons_self, ha⟩
  | seq r q ihr ihq =>
      rintro b m y ⟨m₁, m₂, rfl, h₁, h₂⟩ hm
      obtain ⟨hm₁, hm₂⟩ := List.append_subset.mp hm
      exact Bool.and_eq_true_iff.mpr ⟨ihr h₁ hm₁, ihq h₂ hm₂⟩
  | alt r q ihr ihq =>
      intro b m y h hm
      exact Bool.or_eq_true_iff.mpr (h.imp (ihr · hm) (ihq · hm))

theorem not_occurs_of_not_feasible {r : Regex A} {text : List A}
    (h : r.feasible text = false) : ¬Occurs word r text := by
  rintro ⟨u, m, v, rfl, hrun⟩
  have hm : m ⊆ u ++ (m ++ v) := fun a ha => by simp [ha]
  exact Bool.false_ne_true (h.symm.trans (hrun.feasible hm))

end

/-! ## Barriers -/

/-- No class of the expression accepts the character. -/
def avoids (c : A) : Regex A → Bool
  | .eps => true
  | .one p => !p c
  | .many p => !p c
  | .seq r q => avoids c r && avoids c q
  | .alt r q => avoids c r && avoids c q
  | .bound => true
  | .notAhead r => avoids c r

/-- A character that no word contains and no class accepts. -/
structure Barrier (word : A → Bool) (c : A) (r : Regex A) : Prop where
  word : word c = false
  avoids : r.avoids c = true

section
variable {word : A → Bool} {c : A}

theorem Barrier.both {r q : Regex A} {s : Regex A}
    (hs : s.avoids c = (r.avoids c && q.avoids c)) (h : Barrier word c s) :
    Barrier word c r ∧ Barrier word c q := by
  obtain ⟨hr, hq⟩ := Bool.and_eq_true_iff.mp (hs.symm.trans h.avoids)
  exact ⟨⟨h.word, hr⟩, h.word, hq⟩

/-- To the left of a barrier the matcher finds what it finds at the end of a text. -/
theorem runs_right {r : Regex A} (y : List A) : ∀ {b x : List A}, Barrier word c r →
    runs word r ⟨b, x ++ c :: y⟩ =
      (runs word r ⟨b, x⟩).map fun s => ⟨s.before, s.after ++ c :: y⟩ := by
  induction r with
  | eps => exact fun _ => rfl
  | one p =>
      intro b x h
      have hp : p c = false := by simpa [avoids] using h.avoids
      cases x with
      | nil => simp [runs, hp]
      | cons a as => by_cases ha : p a = true <;> simp [runs, ha]
  | many p =>
      intro b x h
      have hp : p c = false := by simpa [avoids] using h.avoids
      show manyRuns p b (x ++ c :: y) = (manyRuns p b x).map _
      induction x generalizing b with
      | nil => simp [manyRuns, hp]
      | cons a as ih => by_cases ha : p a = true <;> simp [manyRuns, ha, ih]
  | seq r q ihr ihq =>
      intro b x h
      obtain ⟨hr, hq⟩ := h.both rfl
      simp only [runs, ihr hr, List.flatMap_map, List.map_flatMap]
      exact congrArg (List.flatMap · _) (funext fun s => ihq hq)
  | alt r q ihr ihq =>
      intro b x h
      obtain ⟨hr, hq⟩ := h.both rfl
      simp only [runs, ihr hr, ihq hq, List.map_append]
  | bound =>
      intro b x h
      have hsame : Spot.boundary word ⟨b, x ++ c :: y⟩ = Spot.boundary word ⟨b, x⟩ := by
        cases x <;> simp [Spot.boundary, h.word]
      simp only [runs, hsame]
      split <;> rfl
  | notAhead r ih =>
      intro b x h
      simp only [runs, ih ⟨h.word, h.avoids⟩, List.isEmpty_map]
      split <;> rfl

/-- To its right, what it finds at the beginning. -/
theorem runs_left {r : Regex A} (z : List A) : ∀ {b x : List A}, word c = false →
    runs word r ⟨b ++ c :: z, x⟩ =
      (runs word r ⟨b, x⟩).map fun s => ⟨s.before ++ c :: z, s.after⟩ := by
  induction r with
  | eps => exact fun _ => rfl
  | one p =>
      intro b x h
      cases x with
      | nil => rfl
      | cons a as => by_cases ha : p a = true <;> simp [runs, ha]
  | many p =>
      intro b x h
      show manyRuns p (b ++ c :: z) x = (manyRuns p b x).map _
      induction x generalizing b with
      | nil => rfl
      | cons a as ih =>
          have ih' := @ih (a :: b)
          by_cases ha : p a = true <;> simp_all [manyRuns]
  | seq r q ihr ihq =>
      intro b x h
      simp only [runs, ihr h, List.flatMap_map, List.map_flatMap]
      exact congrArg (List.flatMap · _) (funext fun s => ihq h)
  | alt r q ihr ihq =>
      intro b x h
      simp only [runs, ihr h, ihq h, List.map_append]
  | bound =>
      intro b x h
      have hsame : Spot.boundary word ⟨b ++ c :: z, x⟩ = Spot.boundary word ⟨b, x⟩ := by
        cases b <;> simp [Spot.boundary, h]
      simp only [runs, hsame]
      split <;> rfl
  | notAhead r ih =>
      intro b x h
      simp only [runs, ih h, List.isEmpty_map]
      split <;> rfl

/-- What occurs in a text occurs on one side of a barrier. -/
theorem occurs_barrier {r : Regex A} (h : Barrier word c r) (x y : List A) :
    Occurs word r (x ++ c :: y) ↔ Occurs word r x ∨ Occurs word r y := by
  simp only [occurs_iff_runs]
  constructor
  · rintro ⟨u, v, hsplit, hruns⟩
    rcases List.append_eq_append_iff.mp hsplit with ⟨u', rfl, hv⟩ | ⟨x', rfl, rfl⟩
    · cases u' with
      | nil =>
          cases hv
          rw [List.append_nil, ← List.nil_append (c :: y), runs_right y h] at hruns
          exact .inl ⟨x, [], by simp, fun hnil => hruns (by rw [hnil]; rfl)⟩
      | cons a u' =>
          cases hv
          rw [List.reverse_append, List.reverse_cons, List.append_assoc, List.singleton_append,
            runs_left _ h.word] at hruns
          exact .inr ⟨u', v, rfl, fun hnil => hruns (by rw [hnil]; rfl)⟩
    · rw [runs_right y h] at hruns
      exact .inl ⟨u, x', rfl, fun hnil => hruns (by rw [hnil]; rfl)⟩
  · rintro (⟨u, v, rfl, hruns⟩ | ⟨u, v, rfl, hruns⟩)
    · refine ⟨u, v ++ c :: y, by simp, ?_⟩
      rw [runs_right y h]
      exact fun hnil => hruns (List.map_eq_nil_iff.mp hnil)
    · refine ⟨x ++ c :: u, v, by simp, ?_⟩
      rw [List.reverse_append, List.reverse_cons, List.append_assoc, List.singleton_append,
        runs_left _ h.word]
      exact fun hnil => hruns (List.map_eq_nil_iff.mp hnil)

end

end Regex

end AegisOs.Lib
