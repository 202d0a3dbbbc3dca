/-
# `AegisOs.Lib.FixedWidth` — words of one length that keep the order

A code is *fixed-width* on a set if its words there have one length and come in
the order of the letters they stand for.  Order-keeping survives composition
only because of the length: of two words that differ early, what follows does
not matter, and what is put in front or behind is put at the same place.

    digits of a number            (`FixedWidth.numeral`)
    pairs, first part first       (`FixedWidth.pair`)
    a symbol in front             (`FixedWidth.cons`)
    a text behind                 (`FixedWidth.append`)

`numeral` writes the last `w` digits of a number in base `b`; a number below
`b ^ w` is read back from it (`foldl_numeral`).
-/
import Mathlib.Algebra.Order.Ring.Nat
import Mathlib.Data.List.Lex
import Mathlib.Data.Prod.Lex
import Mathlib.Order.Interval.Set.Defs
import Mathlib.Order.Monotone.Basic

namespace AegisOs.Lib

variable {α α' χ : Type}

/-! ## Words and their order -/

/-- Words of one length: the first difference decides. -/
theorem append_lt_append [LinearOrder χ] {u v : List χ} (hlen : u.length = v.length) (h : u < v)
    (x y : List χ) : u ++ x < v ++ y := by
  induction u generalizing v with
  | nil =>
      cases v with
      | nil => exact absurd h (lt_irrefl _)
      | cons d v => simp at hlen
  | cons c u ih =>
      cases v with
      | nil => simp at hlen
      | cons d v =>
          rw [List.cons_append, List.cons_append, List.cons_lt_cons_iff]
          obtain hcd | ⟨rfl, huv⟩ := List.cons_lt_cons_iff.mp h
          · exact .inl hcd
          · exact .inr ⟨rfl, ih (by simpa using hlen) huv⟩

/-- On `S`, the words of `enc` have length `n` and keep the order. -/
structure FixedWidth [LinearOrder α] [LinearOrder χ] (S : Set α) (enc : α → List χ) (n : ℕ) :
    Prop where
  length : ∀ a ∈ S, (enc a).length = n
  mono : StrictMonoOn enc S

namespace FixedWidth

variable [LinearOrder α] [LinearOrder α'] [LinearOrder χ] {S : Set α} {S' : Set α'}
  {enc : α → List χ} {enc' : α' → List χ} {n n' : ℕ}

/-- The words of two letters compare as the letters do. -/
theorem le_iff (h : FixedWidth S enc n) {a b : α} (ha : a ∈ S) (hb : b ∈ S) :
    enc a ≤ enc b ↔ a ≤ b := h.mono.le_iff_le ha hb

theorem cons (c : χ) (h : FixedWidth S enc n) : FixedWidth S (fun a => c :: enc a) (n + 1) where
  length a ha := by rw [List.length_cons, h.length a ha]
  mono a ha b hb hab := List.cons_lt_cons_iff.mpr (.inr ⟨rfl, h.mono ha hb hab⟩)

theorem append (w : List χ) (h : FixedWidth S enc n) :
    FixedWidth S (fun a => enc a ++ w) (n + w.length) where
  length a ha := by rw [List.length_append, h.length a ha]
  mono a ha b hb hab :=
    append_lt_append ((h.length a ha).trans (h.length b hb).symm) (h.mono ha hb hab) w w

/-- One word after another, for pairs in the order of a dictionary. -/
theorem pair (h : FixedWidth S enc n) (h' : FixedWidth S' enc' n') :
    FixedWidth {p : α ×ₗ α' | (ofLex p).1 ∈ S ∧ (ofLex p).2 ∈ S'}
      (fun p => enc (ofLex p).1 ++ enc' (ofLex p).2) (n + n') where
  length p hp := by rw [List.length_append, h.length _ hp.1, h'.length _ hp.2]
  mono p hp q hq hpq := by
    obtain hlt | ⟨heq, hlt⟩ := Prod.Lex.lt_iff.mp hpq
    · exact append_lt_append ((h.length _ hp.1).trans (h.length _ hq.1).symm)
        (h.mono hp.1 hq.1 hlt) _ _
    · dsimp only
      rw [heq]
      exact List.append_left_lt (h'.mono hp.2 hq.2 hlt)

end FixedWidth

/-! ## Digits -/

/-- The last `w` digits of `n` in base `b`, the most significant first. -/
def numeral (b : ℕ) (sym : ℕ → χ) : ℕ → ℕ → List χ
  | 0, _ => []
  | w + 1, n => numeral b sym w (n / b) ++ [sym (n % b)]

variable {b : ℕ} {sym : ℕ → χ}

@[simp] theorem length_numeral (w n : ℕ) : (numeral b sym w n).length = w := by
  induction w generalizing n with
  | zero => rfl
  | succ w ih => rw [numeral, List.length_append, ih, List.length_singleton]

theorem mem_numeral {w n : ℕ} {c : χ} (hb : 0 < b) (h : c ∈ numeral b sym w n) :
    ∃ d < b, sym d = c := by
  induction w generalizing n with
  | zero => simp [numeral] at h
  | succ w ih =>
      rw [numeral, List.mem_append, List.mem_singleton] at h
      obtain h | rfl := h
      · exact ih h
      · exact ⟨n % b, Nat.mod_lt n hb, rfl⟩

/-- A number that fits is read back. -/
theorem foldl_numeral (val : χ → ℕ) (hb : 0 < b) (hval : ∀ d < b, val (sym d) = d) {w n : ℕ}
    (hn : n < b ^ w) : (numeral b sym w n).foldl (fun acc c => acc * b + val c) 0 = n := by
  induction w generalizing n with
  | zero =>
      rw [pow_zero] at hn
      rw [numeral, List.foldl_nil]
      omega
  | succ w ih =>
      have hhigh : n / b < b ^ w := by
        rw [Nat.div_lt_iff_lt_mul hb, ← pow_succ]
        exact hn
      rw [numeral, List.foldl_append, ih hhigh, List.foldl_cons, List.foldl_nil,
        hval _ (Nat.mod_lt n hb), Nat.div_add_mod']

theorem FixedWidth.numeral [LinearOrder χ] (hb : 0 < b) (hsym : StrictMonoOn sym (Set.Iio b))
    (w : ℕ) : FixedWidth (Set.Iio (b ^ w)) (numeral b sym w) w where
  length n _ := length_numeral w n
  mono := by
    induction w with
    | zero =>
        intro n hn m hm hnm
        rw [Set.mem_Iio, pow_zero] at hn hm
        omega
    | succ w ih =>
        intro n hn m hm hnm
        rw [Set.mem_Iio, pow_succ, ← Nat.div_lt_iff_lt_mul hb] at hn hm
        -- the higher digits decide, or they agree and the last one does
        rcases (Nat.div_le_div_right (c := b) hnm.le).lt_or_eq with hlt | heq
        · exact append_lt_append (by simp) (ih hn hm hlt) _ _
        · have hmod : n % b < m % b := by
            have hn' := Nat.div_add_mod n b
            have hm' := Nat.div_add_mod m b
            rw [heq] at hn'
            omega
          rw [AegisOs.Lib.numeral, AegisOs.Lib.numeral, heq]
          exact List.append_left_lt (List.cons_lt_cons_iff.mpr
            (.inl (hsym (Nat.mod_lt n hb) (Nat.mod_lt m hb) hmod)))

end AegisOs.Lib
