/-
# `AegisOs.Lib.Rego` — rule bodies and undefined values

A term of Rego has a value or is undefined: looking up an absent key gives
nothing, and an operator applied to nothing gives nothing.  An expression in a
body counts when it is defined and not false; `not` before it turns that
around, so that an undefined expression fails a body and satisfies a `not`.
A body is the conjunction of its expressions, a rule the disjunction of its
bodies, and a partial set the values of the rules whose bodies hold.

Each operator has one lemma that says when its expression counts.
-/
import Mathlib.Data.List.Basic

namespace AegisOs.Lib.Rego

/-- The value of a term, if it has one. -/
abbrev Term (α : Type) : Type := Option α

variable {α β : Type}

/-- `obj[k]`. -/
def index [BEq α] (obj : Term (List (α × β))) (k : Term α) : Term β := do
  (← obj).lookup (← k)

/-- `a == b`. -/
def eq [DecidableEq α] (a b : Term α) : Term Bool := do
  pure (decide ((← a) = (← b)))

/-- `a != b`. -/
def ne [DecidableEq α] (a b : Term α) : Term Bool := do
  pure (decide ((← a) ≠ (← b)))

/-- `a in xs`. -/
def mem [DecidableEq α] (a : Term α) (xs : Term (List α)) : Term Bool := do
  pure (decide ((← a) ∈ (← xs)))

/-- `startswith(a, b)`. -/
def startswith (a b : Term String) : Term Bool := do
  pure ((← a).startsWith (← b))

/-- An expression of a body: a term that counts as such, under `not`, or the assignment of a term
to a variable, which has a value or fails. -/
inductive Expr where
  | term (e : Term Bool)
  | not (e : Term Bool)
  | assign (defined : Bool)

/-- Whether an expression counts. -/
def Expr.holds : Expr → Bool
  | .term e => e == some true
  | .not e => !(e == some true)
  | .assign defined => defined

/-- Whether a body holds. -/
def body (es : List Expr) : Bool := es.all Expr.holds

/-- `contains`: the values of the rules whose bodies hold. -/
def partialSet (rules : List (α × List Expr)) : List α :=
  (rules.filter fun rule => body rule.2).map Prod.fst

/-! ## When an expression counts -/

theorem index_eq_some [BEq α] {obj : Term (List (α × β))} {k : Term α} {v : β} :
    index obj k = some v ↔ ∃ o k', obj = some o ∧ k = some k' ∧ o.lookup k' = some v := by
  unfold index
  cases obj <;> cases k <;> simp

section
variable [DecidableEq α]

theorem eq_iff {a b : Term α} : eq a b = some true ↔ ∃ v, a = some v ∧ b = some v := by
  unfold eq
  cases a <;> cases b <;> simp [eq_comm]

theorem ne_iff {a b : Term α} :
    ne a b = some true ↔ ∃ v w, a = some v ∧ b = some w ∧ v ≠ w := by
  unfold ne
  cases a <;> cases b <;> simp

theorem mem_iff {a : Term α} {xs : Term (List α)} :
    mem a xs = some true ↔ ∃ v l, a = some v ∧ xs = some l ∧ v ∈ l := by
  unfold mem
  cases a <;> cases xs <;> simp

end

theorem startswith_iff {a b : Term String} :
    startswith a b = some true ↔ ∃ s p, a = some s ∧ b = some p ∧ s.startsWith p = true := by
  unfold startswith
  cases a <;> cases b <;> simp

section
variable {e : Term Bool} {es : List Expr}

@[simp] theorem holds_term : (Expr.term e).holds = true ↔ e = some true := by
  simp [Expr.holds]

@[simp] theorem holds_not : (Expr.not e).holds = true ↔ e ≠ some true := by
  simp [Expr.holds]

@[simp] theorem holds_assign {d : Bool} : (Expr.assign d).holds = true ↔ d = true := Iff.rfl

@[simp] theorem body_nil : body [] = true := rfl

@[simp] theorem body_cons {x : Expr} : body (x :: es) = true ↔ x.holds = true ∧ body es = true := by
  simp [body]

theorem mem_partialSet {rules : List (α × List Expr)} {v : α} :
    v ∈ partialSet rules ↔ ∃ es, (v, es) ∈ rules ∧ body es = true := by
  simp [partialSet]

theorem partialSet_eq_nil {rules : List (α × List Expr)} :
    partialSet rules = [] ↔ ∀ rule ∈ rules, body rule.2 = false := by
  simp [partialSet]

@[simp] theorem partialSet_nil : partialSet ([] : List (α × List Expr)) = [] := rfl

/-- A partial set is built rule by rule. -/
theorem partialSet_cons {v : α} {rules : List (α × List Expr)} :
    partialSet ((v, es) :: rules) = (if body es then [v] else []) ++ partialSet rules := by
  unfold partialSet
  by_cases h : body es = true <;> simp [h]

end

end AegisOs.Lib.Rego
