/-
# `AegisOs.Lib.Shards` — one object for all keys, or one for each

An object that serves many clients often keeps a table, and every call works on the entry
of one key.  `cell s k` is what a state has for the key `k`: its entry, and whatever else
of the state concerns `k` (the records about it in a shared log, say).

| | |
| :-- | :-- |
| `About cell k m` | `m` answers and changes what the cell of `k` determines, and no other cell |
| `shard key m` | the same calls on a family of objects, each call on the object of its key |

Where every call is about its key, the shared object and the family cannot be told apart
by any run (`outcomes_shard`), and what a client of one key sees of a run is what it would
have seen alone (`ofKey_outcomes`, `cell_final`).
-/
import AegisOs.Lib.Bisim
import Mathlib.Logic.Function.Basic

namespace AegisOs.Lib

open EState

variable {κ σ γ ε α β ι : Type} {cell : σ → κ → γ} {k : κ}

/-! ## Code about one key -/

/-- The states agree on the cell of `k`. -/
def SameCell (cell : σ → κ → γ) (k : κ) (s t : σ) : Prop := cell s k = cell t k

theorem SameCell.refl (s : σ) : SameCell cell k s s := rfl

theorem SameCell.trans (s t u : σ) (h₁ : SameCell cell k s t) (h₂ : SameCell cell k t u) :
    SameCell cell k s u := Eq.trans h₁ h₂

structure About (cell : σ → κ → γ) (k : κ) (m : EStateM ε σ α) : Prop where
  alike : Bisim (SameCell cell k) m m
  others : ∀ k', k' ≠ k → Keeps (SameCell cell k') m

theorem About.pure (a : α) : About cell k (Pure.pure a : EStateM ε σ α) :=
  ⟨Bisim.pure a, fun _ _ => Keeps.pure SameCell.refl a⟩

theorem About.throw (e : ε) : About cell k (throw e : EStateM ε σ α) :=
  ⟨Bisim.throw e, fun _ _ => Keeps.throw SameCell.refl e⟩

/-- What stands behind a `throw` does not matter. -/
theorem About.raise (e : ε) (f : α → EStateM ε σ β) : About cell k (MonadExcept.throw e >>= f) :=
  About.throw e

theorem About.ofExcept (x : Except ε α) :
    About cell k (MonadExcept.ofExcept x : EStateM ε σ α) :=
  ⟨Bisim.ofExcept x, fun _ _ => Keeps.ofExcept SameCell.refl x⟩

theorem About.bind {m : EStateM ε σ α} {f : α → EStateM ε σ β} (hm : About cell k m)
    (hf : ∀ a, About cell k (f a)) : About cell k (m >>= f) where
  alike := hm.alike.bind fun a => (hf a).alike
  others k' hk := Keeps.bind SameCell.trans (hm.others k' hk)
    fun a => (hf a).others k' hk

theorem About.map {m : EStateM ε σ α} (f : α → β) (hm : About cell k m) :
    About cell k (f <$> m) := by
  rw [← bind_pure_comp]
  exact hm.bind fun a => .pure (f a)

theorem About.ite {c : Prop} [Decidable c] {m n : EStateM ε σ α} (hm : About cell k m)
    (hn : About cell k n) : About cell k (if c then m else n) := by
  split
  · exact hm
  · exact hn

/-- Code that looks at nothing but the cell. -/
theorem About.read {f : σ → EStateM ε σ β}
    (hf : ∀ s t, cell s k = cell t k → f s = f t) (h : ∀ s, About cell k (f s)) :
    About cell k (get >>= f) where
  alike := Bisim.get_bind fun s t hst => by
    rw [hf s t hst]
    exact (h t).alike s t hst
  others k' hk := Keeps.bind SameCell.trans (Keeps.get SameCell.refl) fun s => (h s).others k' hk

/-- Code that writes to nothing but the cell. -/
theorem About.write {f : σ → σ} (hf : ∀ s t, cell s k = cell t k → cell (f s) k = cell (f t) k)
    (ho : ∀ s k', k' ≠ k → cell (f s) k' = cell s k') :
    About cell k (modify f : EStateM ε σ PUnit) where
  alike := Bisim.modify hf
  others k' hk s := (ho s k' hk).symm

/-! ## A family of objects -/

section
variable [DecidableEq κ]

/-- The call on the object of its key. -/
def shard (key : ι → κ) (m : ι → EStateM ε σ α) (x : ι) : EStateM ε (κ → σ) α :=
  zoom (fun F => F (key x)) (fun s F => Function.update F (key x) s) (m x)

/-- The shared object has the cells of the family. -/
def Assembles (cell : σ → κ → γ) (s : σ) (F : κ → σ) : Prop := ∀ k, cell s k = cell (F k) k

/-- The answers to the calls on `k`. -/
def ofKey (key : ι → κ) (k : κ) (xs : List ι) (outs : List (Except ε α)) : List (Except ε α) :=
  ((xs.zip outs).filter fun p => key p.1 = k).map Prod.snd

variable {key : ι → κ} {m : ι → EStateM ε σ α}

theorem result_shard (x : ι) (F : κ → σ) : result (shard key m x F) = result (m x (F (key x))) :=
  result_zoom _ _ _ F

theorem after_shard (x : ι) (F : κ → σ) :
    after (shard key m x F) = Function.update F (key x) (after (m x (F (key x)))) :=
  after_zoom _ _ _ F

theorem shard_bisim (h : ∀ x, About cell (key x) (m x)) (x : ι) :
    Bisim (Assembles cell) (m x) (shard key m x) := by
  intro s F hF
  have hmatch := (h x).alike s (F (key x)) (hF (key x))
  have hassembles : Assembles cell (after (m x s)) (after (shard key m x F)) := by
    intro k
    rw [after_shard]
    by_cases hk : k = key x
    · subst hk
      rw [Function.update_self]
      exact hmatch.after
    · rw [Function.update_of_ne hk, ← show cell s k = _ from (h x).others k hk s]
      exact hF k
  cases hm : result (m x s) with
  | ok a =>
      have hF : result (shard key m x F) = .ok a := by rw [result_shard, ← hmatch.result, hm]
      rw [eq_ok hm, eq_ok hF]
      exact .ok hassembles
  | error e =>
      have hF : result (shard key m x F) = .error e := by rw [result_shard, ← hmatch.result, hm]
      rw [eq_error hm, eq_error hF]
      exact .error hassembles

/-- **One for all is one for each.** -/
theorem outcomes_shard (h : ∀ x, About cell (key x) (m x)) (xs : List ι) {s : σ} {F : κ → σ}
    (hF : Assembles cell s F) :
    outcomes m xs s = outcomes (shard key m) xs F ∧
      Assembles cell (final m xs s) (final (shard key m) xs F) :=
  Bisim.outcomes (shard_bisim h) xs hF

/-- An object of the family sees the calls on its key. -/
theorem final_shard (xs : List ι) (k : κ) :
    ∀ F : κ → σ, final (shard key m) xs F k = final m (xs.filter fun x => key x = k) (F k) := by
  induction xs with
  | nil => exact fun _ => rfl
  | cons x xs ih =>
      intro F
      rw [final, ih, after_shard]
      by_cases hk : key x = k
      · subst hk
        simp [final]
      · simp [hk, Function.update_of_ne (Ne.symm hk)]

theorem ofKey_shard (xs : List ι) (k : κ) :
    ∀ F : κ → σ, ofKey key k xs (outcomes (shard key m) xs F) =
      outcomes m (xs.filter fun x => key x = k) (F k) := by
  induction xs with
  | nil => exact fun _ => rfl
  | cons x xs ih =>
      intro F
      have hrest := ih (after (shard key m x F))
      rw [after_shard] at hrest
      unfold ofKey at hrest ⊢
      rw [outcomes, result_shard, after_shard, List.zip_cons_cons]
      by_cases hk : key x = k
      · subst hk
        rw [Function.update_self] at hrest
        simpa [outcomes] using hrest
      · rw [Function.update_of_ne (Ne.symm hk)] at hrest
        simpa [hk] using hrest

/-- **Isolation.**  What the clients of a key see of a run is what they would have seen alone, and
so is the cell they leave. -/
theorem ofKey_outcomes (h : ∀ x, About cell (key x) (m x)) (xs : List ι) (s : σ) (k : κ) :
    ofKey key k xs (outcomes m xs s) = outcomes m (xs.filter fun x => key x = k) s ∧
      cell (final m xs s) k = cell (final m (xs.filter fun x => key x = k) s) k := by
  have hF : Assembles cell s fun _ => s := fun _ => rfl
  obtain ⟨houts, hcells⟩ := outcomes_shard h xs hF
  refine ⟨?_, ?_⟩
  · rw [houts, ofKey_shard]
  · rw [hcells k, final_shard]

end

end AegisOs.Lib
