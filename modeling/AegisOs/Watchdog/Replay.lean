/-
# `AegisOs.Watchdog.Replay` — how exact a replay is

`restore_from_history` does not add the amounts of a ledger.  It turns each one
into a price per token, and `record_tokens` turns the price into an amount again;
both steps round, and an entry without tokens has no price at all.

What comes back is right exactly when every amount survives the round trip, added
to what was spent before it: `Recovered` says so in terms of the ledger alone.
A ledger that satisfies it is replayed to the exact sums, and it is the only kind
that is replayed exactly at every length (`replay_exact_iff`).  Ledgers whose
quotients have at most 28 digits, the kind of `Exact`, are among them.
-/
import AegisOs.Watchdog.Ledger
import Mathlib.Algebra.Order.BigOperators.Group.List

namespace AegisOs.BudgetEnforcer

open Lib Lib.EState

/-! ## What should come back -/

/-- The entries that are the first of their operation, of those whose operation is not `known`. -/
def first_entries (known : Finset String) : List BudgetHistoryEntry → List BudgetHistoryEntry
  | [] => []
  | entry :: history =>
      if entry.operation_id ∈ known then first_entries known history
      else entry :: first_entries (insert entry.operation_id known) history

def total_amount (entries : List BudgetHistoryEntry) : ℚ := (entries.map (·.amount_usd)).sum

def total_tokens (entries : List BudgetHistoryEntry) : ℤ := (entries.map (·.tokens_used)).sum

/-- `restore_from_history` returns a session with the exact sums over the first occurrences. -/
def Restored (e : BudgetEnforcer) (id : Uuid) (agent_type : String) (limit : ℚ)
    (history : List BudgetHistoryEntry) : Prop :=
  ∃ s, result (restore_from_history id agent_type limit history e) = .ok s ∧
    s.cost_usd = total_amount (first_entries ∅ history) ∧
    s.tokens_used = total_tokens (first_entries ∅ history)

/-- What a ledger may hold. -/
def NonNegative (entries : List BudgetHistoryEntry) : Prop :=
  ∀ entry ∈ entries, 0 ≤ entry.amount_usd ∧ 0 ≤ entry.tokens_used

/-- The amount an entry is debited with: its price, times its tokens. -/
def repriced (entry : BudgetHistoryEntry) : ℚ :=
  Decimal.mul entry.tokens_used (resolve_cost_per_token entry)

/-- With `spent` on the account, every amount comes back exactly when its turn comes. -/
def Recovered (spent : ℚ) (entries : List BudgetHistoryEntry) : Prop :=
  ∀ before entry rest, entries = before ++ entry :: rest →
    Decimal.add (spent + total_amount before) (repriced entry) =
      spent + total_amount before + entry.amount_usd

theorem first_entries_subset (known : Finset String) (history : List BudgetHistoryEntry) :
    first_entries known history ⊆ history := by
  induction history generalizing known with
  | nil => exact List.Subset.refl _
  | cons entry history ih =>
      unfold first_entries
      split
      · exact List.subset_cons_of_subset _ (ih _)
      · exact List.cons_subset_cons _ (ih _)

/-- The ids of a ledger. -/
def operation_ids (history : List BudgetHistoryEntry) : Finset String :=
  (history.map (·.operation_id)).toFinset

theorem first_entries_append (known : Finset String) (h₁ h₂ : List BudgetHistoryEntry) :
    first_entries known (h₁ ++ h₂) =
      first_entries known h₁ ++ first_entries (known ∪ operation_ids h₁) h₂ := by
  induction h₁ generalizing known with
  | nil => simp [first_entries, operation_ids]
  | cons entry h₁ ih =>
      have hids : insert entry.operation_id known ∪ operation_ids h₁ =
          known ∪ operation_ids (entry :: h₁) := by
        ext op
        simp [operation_ids]
      simp only [List.cons_append, first_entries]
      split
      · rename_i hknown
        rw [ih, ← hids, Finset.insert_eq_of_mem hknown]
      · rw [ih, hids]
        rfl

/-- A first entry, found in the ledger. -/
theorem first_entries_split {known : Finset String} {history before rest : List BudgetHistoryEntry}
    {entry : BudgetHistoryEntry} (h : first_entries known history = before ++ entry :: rest) :
    ∃ h₁ h₂, history = h₁ ++ entry :: h₂ ∧ first_entries known h₁ = before ∧
      entry.operation_id ∉ known ∪ operation_ids h₁ := by
  induction history generalizing known before with
  | nil => simp [first_entries] at h
  | cons x history ih =>
      have hids : ∀ h₁, insert x.operation_id known ∪ operation_ids h₁ =
          known ∪ operation_ids (x :: h₁) := by
        intro h₁
        ext op
        simp [operation_ids]
      rw [first_entries] at h
      split at h
      · rename_i hknown
        obtain ⟨h₁, h₂, rfl, hbefore, hnew⟩ := ih h
        refine ⟨x :: h₁, h₂, rfl, ?_, ?_⟩
        · rw [first_entries, if_pos hknown, hbefore]
        · rwa [← hids, Finset.insert_eq_of_mem hknown]
      · rename_i hx
        cases before with
        | nil =>
            cases h
            exact ⟨[], history, rfl, rfl, by simpa [operation_ids] using hx⟩
        | cons y before =>
            obtain ⟨rfl, htail⟩ := List.cons.inj h
            obtain ⟨h₁, h₂, rfl, hbefore, hnew⟩ := ih htail
            refine ⟨x :: h₁, h₂, rfl, ?_, by rwa [← hids]⟩
            rw [first_entries, if_neg hx, hbefore]

theorem total_amount_nonneg {entries : List BudgetHistoryEntry} (h : NonNegative entries) :
    0 ≤ total_amount entries := by
  refine List.sum_nonneg fun x hx => ?_
  obtain ⟨entry, hentry, rfl⟩ := List.mem_map.mp hx
  exact (h entry hentry).1

theorem total_amount_cons (entry : BudgetHistoryEntry) (entries : List BudgetHistoryEntry) :
    total_amount (entry :: entries) = entry.amount_usd + total_amount entries := by
  simp [total_amount]

theorem total_tokens_cons (entry : BudgetHistoryEntry) (entries : List BudgetHistoryEntry) :
    total_tokens (entry :: entries) = entry.tokens_used + total_tokens entries := by
  simp [total_tokens]

theorem recovered_nil (spent : ℚ) : Recovered spent [] := by
  intro before entry rest h
  simp at h

theorem recovered_cons {spent : ℚ} {entry : BudgetHistoryEntry} {entries : List BudgetHistoryEntry} :
    Recovered spent (entry :: entries) ↔
      Decimal.add spent (repriced entry) = spent + entry.amount_usd ∧
        Recovered (spent + entry.amount_usd) entries := by
  constructor
  · intro h
    refine ⟨by simpa [total_amount] using h [] entry entries rfl, fun before x rest hsplit => ?_⟩
    have hx := h (entry :: before) x rest (by rw [hsplit]; rfl)
    rwa [total_amount_cons, ← add_assoc] at hx
  · rintro ⟨hfirst, hrest⟩ before x rest hsplit
    cases before with
    | nil =>
        cases hsplit
        simpa [total_amount] using hfirst
    | cons y before =>
        cases hsplit
        rw [total_amount_cons, ← add_assoc]
        exact hrest before x rest rfl

/-! ## One entry -/

/-- The entry's operation is new and stays within the limit: the tokens and the repriced amount
are added. -/
theorem entered_first (id : Uuid) {s : BudgetSession} {entry : BudgetHistoryEntry}
    (hnew : entry.operation_id ∉ s.applied_operation_ids) (ht : 0 ≤ entry.tokens_used)
    (hl : Decimal.add s.cost_usd (repriced entry) ≤ s.budget_limit_usd) :
    ∃ s', entered id s entry = .ok s' ∧
      s'.cost_usd = Decimal.add s.cost_usd (repriced entry) ∧
      s'.tokens_used = s.tokens_used + entry.tokens_used ∧
      s'.budget_limit_usd = s.budget_limit_usd ∧
      s'.applied_operation_ids = insert entry.operation_id s.applied_operation_ids := by
  refine ⟨debited { s with tokens_used := s.tokens_used + entry.tokens_used } (repriced entry)
    (some entry.operation_id), ?_, by simp, by simp, by simp, rfl⟩
  rw [entered, charged, if_neg hnew, if_neg (not_lt.mpr ht)]
  dsimp only
  rw [if_neg]
  · rfl
  · simpa [repriced] using hl

/-- Whatever is entered, its operation is then known, and a new one has been debited. -/
theorem entered_ok {id : Uuid} {s s' : BudgetSession} {entry : BudgetHistoryEntry}
    (h : entered id s entry = .ok s') :
    s'.applied_operation_ids = insert entry.operation_id s.applied_operation_ids ∧
      (entry.operation_id ∉ s.applied_operation_ids →
        s'.cost_usd = Decimal.add s.cost_usd (repriced entry)) := by
  rw [entered, charged] at h
  split at h
  · rename_i hknown
    cases h
    exact ⟨(Finset.insert_eq_of_mem hknown).symm, fun hnew => absurd hknown hnew⟩
  · split at h
    · cases h
    · dsimp only at h
      split at h
      · cases h
      · cases h
        exact ⟨rfl, fun _ => by simp [repriced]⟩

/-! ## A ledger -/

/-- A ledger that is recovered is replayed to the sums. -/
theorem replayed_recovered (id : Uuid) {history : List BudgetHistoryEntry} :
    ∀ {s : BudgetSession}, NonNegative history →
      s.cost_usd + total_amount (first_entries s.applied_operation_ids history) ≤ s.budget_limit_usd →
      Recovered s.cost_usd (first_entries s.applied_operation_ids history) →
      ∃ s', replayed id history s = .ok s' ∧
        s'.cost_usd = s.cost_usd + total_amount (first_entries s.applied_operation_ids history) ∧
        s'.tokens_used = s.tokens_used + total_tokens (first_entries s.applied_operation_ids history) := by
  induction history with
  | nil =>
      intro s _ _ _
      exact ⟨s, rfl, by simp [first_entries, total_amount], by simp [first_entries, total_tokens]⟩
  | cons entry history ih =>
      intro s hn hl hr
      have hn' : NonNegative history := fun x hx => hn x (List.mem_cons_of_mem _ hx)
      obtain ⟨-, ht⟩ := hn entry List.mem_cons_self
      by_cases hknown : entry.operation_id ∈ s.applied_operation_ids
      · have hskip : entered id s entry = .ok s := by
          rw [entered, charged, if_pos hknown]
        rw [first_entries, if_pos hknown] at hl hr ⊢
        obtain ⟨s', hrun, hsums⟩ := ih hn' hl hr
        refine ⟨s', ?_, hsums⟩
        rw [replayed, List.foldlM_cons, hskip]
        exact hrun
      · rw [first_entries, if_neg hknown] at hl hr ⊢
        obtain ⟨hfirst, hr⟩ := recovered_cons.mp hr
        have hrest : 0 ≤ total_amount (first_entries (insert entry.operation_id s.applied_operation_ids)
            history) := total_amount_nonneg fun x hx => hn' x (first_entries_subset _ _ hx)
        rw [total_amount_cons] at hl
        have hfits : Decimal.add s.cost_usd (repriced entry) ≤ s.budget_limit_usd := by
          rw [hfirst]
          linarith
        obtain ⟨s₁, hentered, hcost, htokens, hlimit, hops⟩ := entered_first id hknown ht hfits
        rw [hfirst] at hcost
        rw [← hops, ← hcost] at hr
        rw [← hops] at hl ⊢
        obtain ⟨s', hrun, hc, ht'⟩ := ih hn' (by rw [hcost, hlimit]; linarith) hr
        refine ⟨s', ?_, ?_, ?_⟩
        · rw [replayed, List.foldlM_cons, hentered]
          exact hrun
        · rw [hc, hcost, total_amount_cons, add_assoc]
        · rw [ht', htokens, total_tokens_cons, add_assoc]

theorem replayed_ids {id : Uuid} {history : List BudgetHistoryEntry} :
    ∀ {s s' : BudgetSession}, replayed id history s = .ok s' →
      s'.applied_operation_ids = s.applied_operation_ids ∪ operation_ids history := by
  induction history with
  | nil =>
      intro s s' h
      cases h
      simp [operation_ids]
  | cons entry history ih =>
      intro s s' h
      rw [replayed, List.foldlM_cons] at h
      obtain ⟨s₁, hentered, hrest⟩ := except_bind_eq_ok h
      rw [ih hrest, (entered_ok hentered).1]
      ext op
      simp [operation_ids]

section
variable {e : BudgetEnforcer} {id : Uuid} {agent_type : String} {limit : ℚ}
  {history : List BudgetHistoryEntry}

theorem restored_iff : Restored e id agent_type limit history ↔
    ∃ s, replayed id history (blank id agent_type limit) = .ok s ∧
      s.cost_usd = total_amount (first_entries ∅ history) ∧
      s.tokens_used = total_tokens (first_entries ∅ history) := by
  rw [Restored, (restore_from_history_result e id agent_type limit history).1]

theorem restored_of_recovered (hn : NonNegative history)
    (hl : total_amount (first_entries ∅ history) ≤ limit)
    (hr : Recovered 0 (first_entries ∅ history)) : Restored e id agent_type limit history := by
  obtain ⟨s, hrun, hcost, htokens⟩ := replayed_recovered id
    (s := blank id agent_type limit) hn (by simpa [blank] using hl) hr
  exact restored_iff.mpr ⟨s, hrun, by simpa [blank] using hcost, by simpa [blank] using htokens⟩

/-- Two lengths at which the replay is exact, one entry apart, show that the entry's amount came
back exactly. -/
theorem recovered_of_restored {h₁ : List BudgetHistoryEntry} {entry : BudgetHistoryEntry}
    (hnew : entry.operation_id ∉ operation_ids h₁)
    (hbefore : Restored e id agent_type limit h₁)
    (hafter : Restored e id agent_type limit (h₁ ++ [entry])) :
    Decimal.add (total_amount (first_entries ∅ h₁)) (repriced entry) =
      total_amount (first_entries ∅ h₁) + entry.amount_usd := by
  obtain ⟨s₁, hrun₁, hcost₁, -⟩ := restored_iff.mp hbefore
  obtain ⟨s₂, hrun₂, hcost₂, -⟩ := restored_iff.mp hafter
  rw [replayed_append, hrun₁] at hrun₂
  obtain ⟨s, hentered, hs⟩ := except_bind_eq_ok (show entered id s₁ entry >>= pure = .ok s₂ from hrun₂)
  cases hs
  have hops : entry.operation_id ∉ s₁.applied_operation_ids := by
    rw [replayed_ids hrun₁]
    simpa [blank] using hnew
  have hfirst : first_entries ∅ (h₁ ++ [entry]) = first_entries ∅ h₁ ++ [entry] := by
    rw [first_entries_append, first_entries, if_neg (by simpa using hnew), first_entries]
  rw [← hcost₁, ← (entered_ok hentered).2 hops, hcost₂, hfirst, hcost₁]
  simp [total_amount]

/-- **How exact a replay is.**  For a ledger within the limit: if every amount is recovered, the
session comes back with the exact sums; and that is the case at every length of the ledger exactly
if every amount is. -/
theorem replay_exact_iff (e : BudgetEnforcer) (id : Uuid) (agent_type : String)
    (hn : NonNegative history) (hl : total_amount (first_entries ∅ history) ≤ limit) :
    (Recovered 0 (first_entries ∅ history) → Restored e id agent_type limit history) ∧
    ((∀ h, h <+: history → Restored e id agent_type limit h) ↔
      Recovered 0 (first_entries ∅ history)) := by
  refine ⟨restored_of_recovered hn hl, ?_, ?_⟩
  · intro hall before entry rest hsplit
    obtain ⟨h₁, h₂, rfl, rfl, hnew⟩ := first_entries_split hsplit
    rw [Finset.empty_union] at hnew
    simpa using recovered_of_restored hnew (hall h₁ ⟨_, rfl⟩) (hall (h₁ ++ [entry]) ⟨h₂, by simp⟩)
  · rintro hr h ⟨tail, rfl⟩
    have hn' : NonNegative h := fun x hx => hn x (List.mem_append_left _ hx)
    rw [first_entries_append] at hl hr
    refine restored_of_recovered hn' ?_ ?_
    · have htail : 0 ≤ total_amount (first_entries (∅ ∪ operation_ids h) tail) :=
        total_amount_nonneg fun x hx =>
          hn x (List.mem_append_right _ (first_entries_subset _ _ hx))
      rw [total_amount, List.map_append, List.sum_append] at hl
      exact le_trans (le_add_of_nonneg_right htail) hl
    · intro before entry rest hsplit
      exact hr before entry (rest ++ _) (by rw [hsplit, List.append_assoc]; rfl)

end

-- The last sum alone says less: here two errors cancel.
example : repriced ⟨"activity-1", 2, 14⟩ ≠ 2 ∧ repriced ⟨"activity-2", 2, 13⟩ ≠ 2 ∧
    Decimal.add (Decimal.add 0 (repriced ⟨"activity-1", 2, 14⟩))
      (repriced ⟨"activity-2", 2, 13⟩) = 4 := by
  decide +kernel

/-- A ledger is recovered if its entries without tokens are free and nothing in it has more than 28
digits. -/
theorem recovered_of_fits {spent : ℚ} {entries : List BudgetHistoryEntry}
    (hfree : ∀ entry ∈ entries, entry.tokens_used = 0 → entry.amount_usd = 0)
    (hamount : ∀ entry ∈ entries, Decimal.Fits entry.amount_usd)
    (hquotient : ∀ entry ∈ entries, Decimal.Fits (entry.amount_usd / entry.tokens_used))
    (hsums : ∀ before, before <+: entries → Decimal.Fits (spent + total_amount before)) :
    Recovered spent entries := by
  rintro before entry rest rfl
  have hmem : entry ∈ before ++ entry :: rest := by simp
  have hback : repriced entry = entry.amount_usd := by
    unfold repriced resolve_cost_per_token
    by_cases h0 : entry.tokens_used = 0
    · simp [h0, hfree entry hmem h0, Decimal.mul]
    · have hne : (entry.tokens_used : ℚ) ≠ 0 := by exact_mod_cast h0
      have hexact : (entry.tokens_used : ℚ) * (entry.amount_usd / entry.tokens_used) =
          entry.amount_usd := by field_simp
      rw [if_neg h0, Decimal.div_eq (hquotient entry hmem), Decimal.mul_eq, hexact]
      rw [hexact]
      exact hamount entry hmem
  have hsum : spent + total_amount (before ++ [entry]) =
      spent + total_amount before + entry.amount_usd := by
    simp [total_amount, add_assoc]
  rw [hback, Decimal.add_eq]
  rw [← hsum]
  exact hsums _ ⟨rest, by simp⟩

/-- A dollar for three tokens. -/
def thirds : List BudgetHistoryEntry := [⟨"activity-1", 1, 3⟩]

/-- A third of a dollar has no 28-digit price: less than the dollar comes back. -/
theorem thirds_inexact : NonNegative thirds ∧ total_amount (first_entries ∅ thirds) ≤ 10 ∧
    Decimal.Fits (total_amount (first_entries ∅ thirds)) ∧
    ¬Restored ⟨fun _ => none, []⟩ ⟨"00000000-0000-0000-0000-000000000000"⟩ "finance" 10 thirds := by
  have htotal : total_amount (first_entries ∅ thirds) = 1 := by decide +kernel
  refine ⟨?_, by rw [htotal]; norm_num, ?_, ?_⟩
  · intro entry hentry
    cases List.mem_singleton.mp hentry
    exact ⟨zero_le_one, by decide⟩
  · rw [htotal]
    exact ⟨1, 0, by decide +kernel, by norm_num⟩
  · rw [restored_iff, htotal]
    rintro ⟨s, hrun, hcost, -⟩
    have hless : (replayed ⟨"00000000-0000-0000-0000-000000000000"⟩ thirds
        (blank ⟨"00000000-0000-0000-0000-000000000000"⟩ "finance" 10)).map
          (fun s => decide (s.cost_usd = 1)) = .ok false := by
      decide +kernel
    rw [hrun] at hless
    simp [Except.map, hcost] at hless

/-- A ledger with a redelivered entry, at two dollars for a million tokens. -/
def redelivered : List BudgetHistoryEntry :=
  [⟨"activity-1", 1, 500000⟩, ⟨"activity-2", 2, 1000000⟩, ⟨"activity-2", 2, 1000000⟩]

/-- It is replayed to three dollars and a million and a half tokens. -/
theorem redelivered_restored :
    Restored ⟨fun _ => none, []⟩ ⟨"00000000-0000-0000-0000-000000000000"⟩ "finance" 10 redelivered ∧
      total_amount (first_entries ∅ redelivered) = 3 ∧
      total_tokens (first_entries ∅ redelivered) = 1500000 := by
  have hfirst : first_entries ∅ redelivered =
      [⟨"activity-1", 1, 500000⟩, ⟨"activity-2", 2, 1000000⟩] := by decide +kernel
  have htotal : total_amount (first_entries ∅ redelivered) = 3 := by decide +kernel
  have hn : NonNegative redelivered := by
    unfold NonNegative
    decide +kernel
  refine ⟨?_, htotal, by decide +kernel⟩
  refine (replay_exact_iff _ _ _ hn (by rw [htotal]; norm_num)).1 ?_
  rw [hfirst, recovered_cons, recovered_cons]
  exact ⟨by decide +kernel, by decide +kernel, recovered_nil _⟩

end AegisOs.BudgetEnforcer
