/-
# `AegisOs.Lib.Ttl` — tables of entries that lapse

A table maps a key to the instant its entry lapses.  Nothing removes a lapsed
entry by itself: `purge now` drops every entry whose instant is not after
`now`, and a lookup that matters is preceded by a purge.  So the content of a
table is not the set of its entries but what a purge at the time of the lookup
would leave, and that is what `Tracks` follows: an abstract record of the last
instant written under one key, blind to when the purges happened.

    purge a, then purge b (a ≤ b)   =   purge b                 (`purge_purge`)
    a write under the key           ⟹   the record is that write (`Tracks.insert_self`)
    a write under another key, a purge ⟹ the record is unchanged (`Tracks.insert_other`, `Tracks.purge`)
-/
import Mathlib.Order.Lattice
import Mathlib.Data.Option.Basic
import Mathlib.Logic.Function.Basic

namespace AegisOs.Lib.Ttl

variable {K T : Type}

/-- Drop the entries that have lapsed at `now`. -/
def purge [LinearOrder T] (now : T) (m : K → Option T) : K → Option T :=
  fun k => (m k).filter (fun e => decide (now < e))

/-- Write the instant `e` under `k`. -/
def insert [DecidableEq K] (k : K) (e : T) (m : K → Option T) : K → Option T :=
  Function.update m k (some e)

@[simp] theorem insert_self [DecidableEq K] (k : K) (e : T) (m : K → Option T) : insert k e m k = some e := by
  simp [insert]

@[simp] theorem insert_other [DecidableEq K] {k k' : K} (h : k' ≠ k) (e : T) (m : K → Option T) :
    insert k e m k' = m k' := by
  simp [insert, h]

section
variable [LinearOrder T]

theorem purge_eq_some {now : T} {m : K → Option T} {k : K} {e : T} :
    purge now m k = some e ↔ m k = some e ∧ now < e := by
  simp [purge, Option.filter_eq_some_iff]

theorem purge_eq_none {now : T} {m : K → Option T} {k : K} :
    purge now m k = none ↔ ∀ e, m k = some e → e ≤ now := by
  simp [purge, Option.filter_eq_none_iff]

theorem purge_of_none (now : T) {m : K → Option T} {k : K} (h : m k = none) : purge now m k = none := by
  simp [purge, h]

/-- Of two purges only the later one counts. -/
theorem purge_purge {a b : T} (h : a ≤ b) (m : K → Option T) : purge b (purge a m) = purge b m := by
  funext k
  apply Option.ext
  intro e
  constructor
  · intro he
    have h₁ := purge_eq_some.mp he
    have h₂ := purge_eq_some.mp h₁.1
    exact purge_eq_some.mpr ⟨h₂.1, h₁.2⟩
  · intro he
    have h₁ := purge_eq_some.mp he
    exact purge_eq_some.mpr ⟨purge_eq_some.mpr ⟨h₁.1, lt_of_le_of_lt h h₁.2⟩, h₁.2⟩

/-! ## The record of one key -/

/-- From `now` on, the table answers for `k` as if `last` were its only entry. -/
def Tracks (k : K) (last : Option T) (now : T) (m : K → Option T) : Prop :=
  ∀ t, now ≤ t → purge t m k = last.filter (fun e => decide (t < e))

theorem Tracks.later {k : K} {last : Option T} {a b : T} {m : K → Option T} (h : a ≤ b)
    (hm : Tracks k last a m) : Tracks k last b m :=
  fun t ht => hm t (le_trans h ht)

theorem Tracks.purge {k : K} {last : Option T} {a b : T} {m : K → Option T} (h : a ≤ b)
    (hm : Tracks k last a m) : Tracks k last b (purge b m) := by
  intro t ht
  rw [purge_purge ht]
  exact hm t (le_trans h ht)

variable [DecidableEq K]

theorem Tracks.insert_self (k : K) (e now : T) (m : K → Option T) :
    Tracks k (some e) now (insert k e m) := by
  intro t _
  simp [Ttl.purge]

theorem Tracks.insert_other {k k' : K} {last : Option T} {now : T} {m : K → Option T} (e : T)
    (h : k ≠ k') (hm : Tracks k last now m) : Tracks k last now (insert k' e m) := by
  intro t ht
  have := hm t ht
  simpa [Ttl.purge, h] using this

end

end AegisOs.Lib.Ttl
