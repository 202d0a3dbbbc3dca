/-
# `AegisOs.Governance.Masking` — what masking leaves

The five expressions and their tokens are rules in the sense of
`AegisOs.Lib.Redact`: every expression is framed by `\b`, and the brackets of
a token are barriers for all five.  That is checked once, by computation
(`sealed_pii`), and the rest is the library's.

  * `mask_loop_eq`: the loop is `redact`, and it collects the labels of the
    passes in which something was replaced;
  * `mask_pii_clean`: none of the expressions is found in the result.
-/
import AegisOs.Governance.Guardrails

namespace AegisOs.Guardrails

open Lib Regex

section
variable (U : Unicode)

/-! ## The tokens -/

/-- The rules of the loop. -/
def rules (patterns : List (String × Framed Char)) : List (Rule Char) :=
  patterns.map fun p => ⟨p.2, redaction p.1⟩

/-- Whether the brackets of a token and what stands between them keep the expression out. -/
def keeps_out (r : Regex Char) (label : String) : Bool :=
  r.avoids '[' && r.avoids ']' &&
    !r.feasible ("REDACTED-".toList ++ label.toList.map Char.toUpper)

variable {U}

theorem sealed_of_keeps_out {r : Regex Char} {label : String} (h : keeps_out r label = true) :
    Sealed (word U) r (redaction label) := by
  obtain ⟨⟨hopen, hclose⟩, hinner⟩ : (r.avoids '[' = true ∧ r.avoids ']' = true) ∧
      r.feasible ("REDACTED-".toList ++ label.toList.map Char.toUpper) = false := by
    simpa [keeps_out] using h
  exact ⟨'[', _, ']', rfl, ⟨rfl, hopen⟩, ⟨rfl, hclose⟩, not_occurs_of_not_feasible hinner⟩

/-- Each expression is kept out of each token. -/
theorem keeps_out_pii : ∀ p ∈ pii_patterns U, ∀ q ∈ pii_patterns U,
    keeps_out p.2.regex q.1 = true := by
  simp only [pii_patterns, List.forall_mem_cons, List.not_mem_nil, false_imp_iff, implies_true,
    and_true]
  exact ⟨⟨rfl, rfl, rfl, rfl, rfl⟩, ⟨rfl, rfl, rfl, rfl, rfl⟩, ⟨rfl, rfl, rfl, rfl, rfl⟩,
    ⟨rfl, rfl, rfl, rfl, rfl⟩, rfl, rfl, rfl, rfl, rfl⟩

theorem sealed_pii : AllSealed (word U) (rules (pii_patterns U)) := by
  intro P hP Q hQ
  obtain ⟨p, hp, rfl⟩ := List.mem_map.mp hP
  obtain ⟨q, hq, rfl⟩ := List.mem_map.mp hQ
  exact sealed_of_keeps_out (keeps_out_pii p hp q hq)

variable (U)

/-- How many tokens each pass inserts. -/
def insertions : List (String × Framed Char) → List Char → List (String × ℕ)
  | [], _ => []
  | (label, pattern) :: patterns, text =>
      (label, (cut (word U) pattern.regex 0 [] text).2.length) ::
        insertions patterns (sub (word U) pattern.regex (redaction label) text)

/-- The labels of which a token was inserted. -/
def inserted (patterns : List (String × Framed Char)) (text : List Char) : List String :=
  ((insertions U patterns text).filter fun p => 0 < p.2).map (·.1)

variable {U}

theorem inserted_cons (label : String) (pattern : Framed Char)
    (patterns : List (String × Framed Char)) (text : List Char) :
    inserted U ((label, pattern) :: patterns) text =
      (if search (word U) pattern.regex [] text then [label] else []) ++
        inserted U patterns (sub (word U) pattern.regex (redaction label) text) := by
  have hcount : 0 < (cut (word U) pattern.regex 0 [] text).2.length ↔
      search (word U) pattern.regex [] text = true := by
    rw [List.length_pos_iff, cut_ne_nil_iff, search_iff]
  unfold inserted
  rw [insertions, List.filter_cons]
  by_cases hfound : search (word U) pattern.regex [] text = true
  · rw [if_pos (decide_eq_true (hcount.mpr hfound)), if_pos hfound]
    rfl
  · have hnone : ¬0 < (cut (word U) pattern.regex 0 [] text).2.length := fun h => hfound (hcount.mp h)
    rw [if_neg (by simpa using hnone), if_neg hfound]
    rfl

/-- The loop applies all rules, and collects the labels of those that replaced something. -/
theorem mask_loop_eq : ∀ (patterns : List (String × Framed Char)) (text : List Char)
    (found : List String), mask_loop U patterns text found =
      (redact (word U) (rules patterns) text, found ++ inserted U patterns text)
  | [], text, found => by simp [mask_loop, rules, redact, inserted, insertions]
  | (label, pattern) :: patterns, text, found => by
      rw [inserted_cons, mask_loop]
      by_cases hfound : search (word U) pattern.regex [] text = true
      · rw [if_pos hfound, if_pos hfound, mask_loop_eq, List.append_assoc]
        rfl
      · -- a rule whose expression does not occur changes nothing
        have hsame : sub (word U) pattern.regex (redaction label) text = text := by
          refine sub_of_not_occurs _ ?_
          rwa [← search_iff]
        have hrules : redact (word U) (rules ((label, pattern) :: patterns)) text =
            redact (word U) (rules patterns) text := by
          show redact (word U) (rules patterns)
            (sub (word U) pattern.regex (redaction label) text) = _
          rw [hsame]
        rw [if_neg hfound, if_neg hfound, mask_loop_eq, hsame, hrules, List.nil_append]

theorem inserted_sublist : ∀ (patterns : List (String × Framed Char)) (text : List Char),
    (inserted U patterns text).Sublist (patterns.map (·.1))
  | [], _ => List.Sublist.refl _
  | (label, pattern) :: patterns, text => by
      have ih := inserted_sublist patterns (sub (word U) pattern.regex (redaction label) text)
      rw [inserted_cons]
      split
      · exact ih.cons_cons label
      · exact ih.cons label

theorem masked_text (text : String) : (masked U text).text.toList =
    redact (word U) (rules (pii_patterns U)) (normalize U text.toList) := by
  simp [masked, mask_loop_eq]

theorem masked_found (text : String) :
    (masked U text).found_types = inserted U (pii_patterns U) (normalize U text.toList) := by
  simp [masked, mask_loop_eq]

theorem labels_nodup : ((pii_patterns U).map (·.1)).Nodup := by
  simp [pii_patterns]

theorem masked_nodup (text : String) : (masked U text).found_types.Nodup := by
  rw [masked_found]
  exact labels_nodup.sublist (inserted_sublist _ _)

theorem masked_not_occurs (text : String) : ∀ p ∈ pii_patterns U,
    ¬Occurs (word U) p.2.regex (masked U text).text.toList := by
  intro p hp
  rw [masked_text]
  exact redact_clean sealed_pii _ ⟨p.2, redaction p.1⟩ (List.mem_map.mpr ⟨p, hp, rfl⟩)

/-- **Masked text is clean.**  No expression is found in it; the labels are those of the passes that
inserted a token, in the order of the table; and no pass leaves its own expression or brings about
another. -/
theorem mask_pii_clean (U : Unicode) (text : String) :
    ∃ r, (standard U).mask_pii text = .ok r ∧
      (∀ p ∈ pii_patterns U, search (word U) p.2.regex [] r.text.toList = false) ∧
      r.found_types = inserted U (pii_patterns U) (normalize U text.toList) ∧
      r.found_types.Sublist ((pii_patterns U).map (·.1)) ∧ r.found_types.Nodup ∧
      ∀ p ∈ pii_patterns U, ∀ q ∈ pii_patterns U, ∀ x,
        search (word U) q.2.regex [] (sub (word U) p.2.regex (redaction p.1) x) = true →
          q ≠ p ∧ search (word U) q.2.regex [] x = true := by
  refine ⟨masked U text, rfl, ?_, masked_found text, ?_, masked_nodup text, ?_⟩
  · intro p hp
    rw [Bool.eq_false_iff, Ne, search_iff]
    exact masked_not_occurs text p hp
  · rw [masked_found]
    exact inserted_sublist _ _
  · intro p hp q hq x hfound
    rw [search_iff] at hfound
    have hseal : ∀ q ∈ pii_patterns U, Sealed (word U) q.2.regex (redaction p.1) :=
      fun q hq => sealed_of_keeps_out (keeps_out_pii q hq p hp)
    constructor
    · rintro rfl
      exact not_occurs_sub_self (R := ⟨q.2, redaction q.1⟩) (hseal q hq) x hfound
    · rw [search_iff]
      by_contra hx
      exact not_occurs_sub (R := ⟨p.2, redaction p.1⟩) (hseal q hq) hx hfound

end

end AegisOs.Guardrails
