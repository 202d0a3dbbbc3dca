/-
# `AegisOs.Watchdog.BudgetRuns` — whole runs of a budget session

Three results about runs of calls on one session, the caller going on after
every exception.

**Redelivery.**  A delivery of `record_tokens` under an operation id debits the
session the first time and does nothing the next, also where the first one
raised: the id is marked between the debit and the raise (`deliver_run`).  So a
session holds the sums over the operations delivered (`Tally`), and two lists
with the same deliveries in them, in whatever order and however often, leave
the same sums (`redelivery_harmless`).  Rounding is no part of this only where
the sums fit the decimal context.

**Restarts.**  A call answers, and leaves of its session, what the session
alone determines (`perform_local`); a snapshot determines the session; so a
restart is invisible (`snapshot_transparent`).

**Normal returns.**  A debit raises exactly when it leaves the session over its
limit.  A redelivery is recognised before the limit is looked at, so it returns
also where the first delivery raised (`normal_return_within_budget_iff`).
-/
import AegisOs.Lib.Runs
import AegisOs.Watchdog.Ledger
import Mathlib.Data.List.Perm.Basic
import Mathlib.Data.List.Nodup

namespace AegisOs.BudgetEnforcer

open Lib Lib.EState

/-! ## Redelivery -/

/-- One delivery of an operation. -/
def deliver (id : Uuid) (x : Spend) : BE BudgetSession :=
  record_tokens id x.tokens x.cost_per_token (some x.op)

/-- What an operation is debited for. -/
def Spend.price (x : Spend) : ℚ := Decimal.mul x.tokens x.cost_per_token

/-- **One delivery**: nothing under an id the session knows, else the debit and the mark, whether or
not the cap is passed. -/
theorem deliver_run {e : BudgetEnforcer} {id : Uuid} {s : BudgetSession}
    (h : e.sessions id = some s) (x : Spend) (htok : 0 ≤ x.tokens) :
    ∃ s', (after (deliver id x e)).sessions id = some s' ∧
      (x.op ∈ s.applied_operation_ids → s' = s) ∧
      (x.op ∉ s.applied_operation_ids →
        s'.cost_usd = Decimal.add s.cost_usd x.price ∧ s'.tokens_used = s.tokens_used + x.tokens ∧
          s'.applied_operation_ids = insert x.op s.applied_operation_ids) := by
  unfold deliver
  rw [record_tokens_run h]
  by_cases hdup : x.op ∈ s.applied_operation_ids
  · rw [if_pos ((is_duplicate_operation_some s x.op).mpr hdup)]
    exact ⟨s, h, fun _ => rfl, fun hnew => absurd hdup hnew⟩
  · have hdup' : ¬is_duplicate_operation { s with tokens_used := s.tokens_used + x.tokens }
        (some x.op) = true := mt (is_duplicate_operation_some _ x.op).mp hdup
    rw [if_neg (mt (is_duplicate_operation_some s x.op).mp hdup), if_neg (not_lt.mpr htok),
      record_spend_run (put_self e id _), if_neg hdup']
    split
    · exact ⟨_, put_self _ _ _, fun hd => absurd hd hdup, fun _ => ⟨rfl, rfl, rfl⟩⟩
    · exact ⟨_, put_self _ _ _, fun hd => absurd hd hdup, fun _ => ⟨rfl, rfl, rfl⟩⟩

/-- The session `s'` is `s` with the operations of `zs` debited, one delivery of each operation of
`xs` that `s` did not know. -/
structure Tally (s : BudgetSession) (xs zs : List Spend) (s' : BudgetSession) : Prop where
  nodup : (zs.map Spend.op).Nodup
  mem : ∀ z ∈ zs, z ∈ xs ∧ z.op ∉ s.applied_operation_ids
  covers : ∀ x ∈ xs, x.op ∈ s.applied_operation_ids ∨ x.op ∈ zs.map Spend.op
  cost : s'.cost_usd = s.cost_usd + (zs.map Spend.price).sum
  tokens : s'.tokens_used = s.tokens_used + (zs.map Spend.tokens).sum
  ops : s'.applied_operation_ids = s.applied_operation_ids ∪ (zs.map Spend.op).toFinset

/-- The sums over any of the operations that are new to the session have at most 28 digits. -/
def SumsFit (s : BudgetSession) (xs : List Spend) : Prop :=
  ∀ zs : List Spend, (zs.map Spend.op).Nodup →
    (∀ z ∈ zs, z ∈ xs ∧ z.op ∉ s.applied_operation_ids) →
    Decimal.Fits (s.cost_usd + (zs.map Spend.price).sum)

theorem Tally.known_iff {s s' : BudgetSession} {xs zs : List Spend} (h : Tally s xs zs s')
    (op : String) :
    op ∈ s'.applied_operation_ids ↔ op ∈ s.applied_operation_ids ∨ op ∈ zs.map Spend.op := by
  rw [h.ops, Finset.mem_union, List.mem_toFinset]

/-- A delivery of an operation the session knows. -/
theorem Tally.again {s s' : BudgetSession} {xs zs : List Spend} (h : Tally s xs zs s') {x : Spend}
    (hx : x.op ∈ s'.applied_operation_ids) : Tally s (xs ++ [x]) zs s' where
  nodup := h.nodup
  mem z hz := ⟨List.mem_append_left _ (h.mem z hz).1, (h.mem z hz).2⟩
  covers y hy := by
    obtain hy | hy := List.mem_append.mp hy
    · exact h.covers y hy
    · rw [List.mem_singleton.mp hy]
      exact (h.known_iff x.op).mp hx
  cost := h.cost
  tokens := h.tokens
  ops := h.ops

/-- A delivery of an operation that is new to it. -/
theorem Tally.first {s s' s'' : BudgetSession} {xs zs : List Spend} (h : Tally s xs zs s')
    {x : Spend} (hx : x.op ∉ s'.applied_operation_ids) (hfits : SumsFit s (xs ++ [x]))
    (hcost : s''.cost_usd = Decimal.add s'.cost_usd x.price)
    (htok : s''.tokens_used = s'.tokens_used + x.tokens)
    (hops : s''.applied_operation_ids = insert x.op s'.applied_operation_ids) :
    Tally s (xs ++ [x]) (zs ++ [x]) s'' := by
  rw [h.known_iff, not_or] at hx
  have hnodup : ((zs ++ [x]).map Spend.op).Nodup := by
    rw [List.map_append, List.nodup_append]
    refine ⟨h.nodup, by simp, ?_⟩
    intro op hop op' hop' heq
    rw [List.map_singleton, List.mem_singleton] at hop'
    exact hx.2 (hop' ▸ heq ▸ hop)
  have hmem : ∀ z ∈ zs ++ [x], z ∈ xs ++ [x] ∧ z.op ∉ s.applied_operation_ids := by
    intro z hz
    obtain hz | hz := List.mem_append.mp hz
    · exact ⟨List.mem_append_left _ (h.mem z hz).1, (h.mem z hz).2⟩
    · rw [List.mem_singleton.mp hz]
      exact ⟨by simp, hx.1⟩
  have hsum : s.cost_usd + ((zs ++ [x]).map Spend.price).sum = s'.cost_usd + x.price := by
    rw [h.cost, List.map_append, List.sum_append, add_assoc]
    simp
  refine ⟨hnodup, hmem, ?_, ?_, ?_, ?_⟩
  · intro y hy
    rw [List.map_append, List.mem_append]
    obtain hy | hy := List.mem_append.mp hy
    · exact (h.covers y hy).imp_right .inl
    · rw [List.mem_singleton.mp hy]
      exact .inr (.inr (by simp))
  · rw [hcost, hsum]
    exact Decimal.add_eq (hsum ▸ hfits _ hnodup hmem)
  · rw [htok, h.tokens, List.map_append, List.sum_append, add_assoc]
    simp
  · rw [hops, h.ops, List.map_append, List.toFinset_append]
    ext op
    simp

theorem SumsFit.mono {s : BudgetSession} {xs ys : List Spend} (h : SumsFit s xs)
    (hsub : ∀ y ∈ ys, y ∈ xs) : SumsFit s ys := fun zs hnodup hmem =>
  h zs hnodup fun z hz => ⟨hsub z (hmem z hz).1, (hmem z hz).2⟩

/-- What any deliveries leave. -/
theorem run_tally {e : BudgetEnforcer} {id : Uuid} {s : BudgetSession} (h : e.sessions id = some s)
    (xs : List Spend) (htok : ∀ x ∈ xs, 0 ≤ x.tokens) (hfits : SumsFit s xs) :
    ∃ zs s', (final (deliver id) xs e).sessions id = some s' ∧ Tally s xs zs s' := by
  induction xs using List.reverseRecOn with
  | nil =>
      refine ⟨[], s, h, ?_⟩
      exact ⟨List.nodup_nil, by simp, by simp, by simp, by simp, by simp⟩
  | append_singleton xs x ih =>
      obtain ⟨zs, s₁, hs₁, ht⟩ := ih (fun y hy => htok y (List.mem_append_left _ hy))
        (hfits.mono fun y hy => List.mem_append_left _ hy)
      obtain ⟨s₂, hs₂, hold, hnew⟩ := deliver_run hs₁ x (htok x (by simp))
      rw [final_snoc]
      by_cases hx : x.op ∈ s₁.applied_operation_ids
      · rw [hold hx] at hs₂
        exact ⟨zs, s₁, hs₂, ht.again hx⟩
      · obtain ⟨hcost, htokens, hops⟩ := hnew hx
        exact ⟨zs ++ [x], s₂, hs₂, ht.first hx hfits hcost htokens hops⟩

/-- Deliveries under one id are all alike. -/
def Consistent (xs : List Spend) : Prop := ∀ x ∈ xs, ∀ y ∈ xs, x.op = y.op → x = y

/-- The operations debited are those of the list that the session did not know. -/
theorem Tally.mem_iff {s s' : BudgetSession} {xs zs : List Spend} (h : Tally s xs zs s')
    (hcons : Consistent xs) (z : Spend) :
    z ∈ zs ↔ z ∈ xs ∧ z.op ∉ s.applied_operation_ids := by
  refine ⟨h.mem z, fun ⟨hz, hnew⟩ => ?_⟩
  obtain ⟨z', hz', hop⟩ := List.mem_map.mp ((h.covers z hz).resolve_left hnew)
  rwa [← hcons z' (h.mem z' hz').1 z hz hop]

/-- **At-least-once delivery is harmless.**  From any session, two lists of the same deliveries, in
any order and any number of times, with the cap passed or not: the same cost, the same tokens and
the same operations. -/
theorem redelivery_harmless {e : BudgetEnforcer} {id : Uuid} {s : BudgetSession}
    (h : e.sessions id = some s) {xs ys : List Spend} (hcons : Consistent xs)
    (htok : ∀ x ∈ xs, 0 ≤ x.tokens) (hfits : SumsFit s xs) (hsame : ∀ x, x ∈ ys ↔ x ∈ xs) :
    ∃ s₁ s₂, (final (deliver id) xs e).sessions id = some s₁ ∧
      (final (deliver id) ys e).sessions id = some s₂ ∧ s₁.cost_usd = s₂.cost_usd ∧
      s₁.tokens_used = s₂.tokens_used ∧ s₁.applied_operation_ids = s₂.applied_operation_ids := by
  obtain ⟨zs₁, s₁, hs₁, ht₁⟩ := run_tally h xs htok hfits
  obtain ⟨zs₂, s₂, hs₂, ht₂⟩ := run_tally h ys (fun y hy => htok y ((hsame y).mp hy))
    (hfits.mono fun y hy => (hsame y).mp hy)
  have hcons₂ : Consistent ys := fun x hx y hy =>
    hcons x ((hsame x).mp hx) y ((hsame y).mp hy)
  have hperm : zs₁.Perm zs₂ := by
    refine (List.perm_ext_iff_of_nodup ht₁.nodup.of_map ht₂.nodup.of_map).mpr fun z => ?_
    rw [ht₁.mem_iff hcons, ht₂.mem_iff hcons₂, hsame]
  refine ⟨s₁, s₂, hs₁, hs₂, ?_, ?_, ?_⟩
  · rw [ht₁.cost, ht₂.cost, (hperm.map Spend.price).sum_eq]
  · rw [ht₁.tokens, ht₂.tokens, (hperm.map Spend.tokens).sum_eq]
  · rw [ht₁.ops, ht₂.ops, List.toFinset_eq_of_perm _ _ (hperm.map Spend.op)]

/-- A session that may cost five dollars, and two operations that cost three and four. -/
def fiveDollars : BudgetEnforcer :=
  put ⟨fun _ => none, []⟩ ⟨"b"⟩ (blank ⟨"b"⟩ "general" 5)

def threeAndFour : List Spend := [⟨"x", 3, 1⟩, ⟨"y", 4, 1⟩, ⟨"x", 3, 1⟩]

theorem price_one {op : String} {n : ℤ} (hn : |n| < 10 ^ Decimal.prec) :
    Spend.price ⟨op, n, 1⟩ = n := by
  have hfits : Decimal.Fits ((n : ℚ) * 1) := by simpa using Decimal.fits_intCast hn
  simpa [Spend.price] using Decimal.mul_eq hfits

theorem threeAndFour_fit : SumsFit (blank ⟨"b"⟩ "general" 5) threeAndFour := by
  have hx : Spend.price ⟨"x", 3, 1⟩ = 3 := price_one (by decide)
  have hy : Spend.price ⟨"y", 4, 1⟩ = 4 := price_one (by decide)
  have hfits : ∀ n : ℕ, (n : ℤ) < 10 ^ Decimal.prec → Decimal.Fits (n : ℚ) := fun n hn => by
    simpa using Decimal.fits_intCast (n := n) (by simpa using hn)
  intro zs hnodup hmem
  have hzs : ∀ z ∈ zs, z = ⟨"x", 3, 1⟩ ∨ z = ⟨"y", 4, 1⟩ := by
    intro z hz
    have := (hmem z hz).1
    simp only [threeAndFour, List.mem_cons, List.not_mem_nil] at this
    tauto
  -- two operations, each at most once: at most two debits
  rcases zs with _ | ⟨z₁, _ | ⟨z₂, _ | ⟨z₃, zs⟩⟩⟩
  · simpa [blank] using hfits 0 (by decide)
  · obtain rfl | rfl := hzs z₁ (by simp)
    · simpa [blank, hx] using hfits 3 (by decide)
    · simpa [blank, hy] using hfits 4 (by decide)
  · have h7 : Decimal.Fits (3 + 4) := by
      convert hfits 7 (by decide) using 1
      norm_num
    obtain rfl | rfl := hzs z₁ (by simp) <;> obtain rfl | rfl := hzs z₂ (by simp)
    · simp at hnodup
    · simpa [blank, hx, hy] using h7
    · simpa [blank, hx, hy, add_comm] using h7
    · simp at hnodup
  · obtain rfl | rfl := hzs z₁ (by simp) <;> obtain rfl | rfl := hzs z₂ (by simp) <;>
      obtain rfl | rfl := hzs z₃ (by simp) <;> simp at hnodup

/-- The cap is passed by the second debit, whichever comes second, and the third delivery is a
duplicate. -/
theorem threeAndFour_harmless :
    ∃ s₁ s₂, (final (deliver ⟨"b"⟩) threeAndFour fiveDollars).sessions ⟨"b"⟩ = some s₁ ∧
      (final (deliver ⟨"b"⟩) [⟨"y", 4, 1⟩, ⟨"x", 3, 1⟩] fiveDollars).sessions ⟨"b"⟩ = some s₂ ∧
      s₁.cost_usd = s₂.cost_usd ∧ s₁.tokens_used = s₂.tokens_used ∧
      s₁.applied_operation_ids = s₂.applied_operation_ids := by
  refine redelivery_harmless (put_self _ _ _) ?_ ?_ threeAndFour_fit ?_
  · simp [Consistent, threeAndFour]
  · simp [threeAndFour]
  · intro x
    simp only [threeAndFour, List.mem_cons, List.not_mem_nil]
    tauto

/-! ## Restarts -/

/-- A call on a session. -/
inductive Call where
  | record_spend (amount_usd : ℚ) (operation_id : Option String)
  | record_tokens (tokens : ℤ) (cost_per_token : ℚ) (operation_id : Option String)
  | check_budget

/-- The call, and the session it returns if it returns one. -/
def perform (id : Uuid) : Call → BE (Option BudgetSession)
  | .record_spend amount_usd operation_id => some <$> record_spend id amount_usd operation_id
  | .record_tokens tokens cost_per_token operation_id =>
      some <$> record_tokens id tokens cost_per_token operation_id
  | .check_budget => do
      check_budget id
      return none

/-- `m` answers, and makes of the session, what the session alone determines; it leaves the other
sessions as they are. -/
def Local {α : Type} (id : Uuid) (m : BE α) : Prop :=
  ∀ s : BudgetSession, ∀ e e' : BudgetEnforcer, e.sessions id = some s → e'.sessions id = some s →
    result (m e') = result (m e) ∧ ∃ s' : BudgetSession, s'.session_id = s.session_id ∧
      (after (m e)).sessions = (e.put id s').sessions ∧
      (after (m e')).sessions = (e'.put id s').sessions

theorem put_same {e : BudgetEnforcer} {id : Uuid} {s : BudgetSession} (h : e.sessions id = some s) :
    e.sessions = (e.put id s).sessions := by
  unfold put
  rw [← h, Function.update_eq_self]

theorem debited_session_id (s : BudgetSession) (amount : ℚ) (op : Option String) :
    (debited s amount op).session_id = s.session_id := by
  cases op <;> rfl

theorem Local.map {α β : Type} {id : Uuid} {m : BE α} (h : Local id m) (f : α → β) :
    Local id (f <$> m) := by
  intro s e e' he he'
  obtain ⟨hres, hs⟩ := h s e e' he he'
  rw [result_map, result_map, after_map, after_map, hres]
  exact ⟨rfl, hs⟩

theorem record_spend_local (id : Uuid) (amount : ℚ) (op : Option String) :
    Local id (record_spend id amount op) := by
  intro s e e' he he'
  rw [record_spend_run he, record_spend_run he']
  by_cases hdup : is_duplicate_operation s op = true
  · rw [if_pos hdup, if_pos hdup]
    exact ⟨rfl, s, rfl, put_same he, put_same he'⟩
  rw [if_neg hdup, if_neg hdup]
  by_cases hcap : s.budget_limit_usd < Decimal.add s.cost_usd amount
  · rw [if_pos hcap, if_pos hcap]
    exact ⟨rfl, { debited s amount op with
        alerts := (debited s amount op).alerts ++ [exceeded_message id (debited s amount op)] },
      debited_session_id s amount op, rfl, rfl⟩
  · rw [if_neg hcap, if_neg hcap]
    exact ⟨rfl, _, debited_session_id s amount op, rfl, rfl⟩

theorem record_tokens_local (id : Uuid) (tokens : ℤ) (cost_per_token : ℚ) (op : Option String) :
    Local id (record_tokens id tokens cost_per_token op) := by
  intro s e e' he he'
  rw [record_tokens_run he, record_tokens_run he']
  by_cases hdup : is_duplicate_operation s op = true
  · rw [if_pos hdup, if_pos hdup]
    exact ⟨rfl, s, rfl, put_same he, put_same he'⟩
  rw [if_neg hdup, if_neg hdup]
  by_cases hneg : tokens < 0
  · rw [if_pos hneg, if_pos hneg]
    exact ⟨rfl, { s with tokens_used := s.tokens_used + tokens }, rfl, rfl, rfl⟩
  · rw [if_neg hneg, if_neg hneg]
    obtain ⟨hres, s', hid, hs, hs'⟩ := record_spend_local id (Decimal.mul tokens cost_per_token) op
      { s with tokens_used := s.tokens_used + tokens } _ _ (put_self e id _) (put_self e' id _)
    rw [put_put] at hs hs'
    exact ⟨hres, s', hid, hs, hs'⟩

theorem check_budget_local (id : Uuid) : Local id (check_budget id) := by
  intro s e e' he he'
  unfold check_budget
  rw [bind_ok (require_session_run he), bind_ok (require_session_run he')]
  refine ⟨?_, s, rfl, ?_, ?_⟩
  · split <;> rfl
  · split <;> exact put_same he
  · split <;> exact put_same he'

theorem perform_local (id : Uuid) (c : Call) : Local id (perform id c) := by
  cases c with
  | record_spend amount op => exact (record_spend_local id amount op).map some
  | record_tokens tokens cost op => exact (record_tokens_local id tokens cost op).map some
  | check_budget => exact (check_budget_local id).map fun _ => none

/-- An enforcer some history of calls leads to. -/
inductive Reachable : BudgetEnforcer → Prop
  | init (audit : List AuditEvent) : Reachable ⟨fun _ => none, audit⟩
  | create_session {e : BudgetEnforcer} (settings_limit : ℚ) (id : Uuid) (agent_type : String)
      (limit : Option ℚ) : Reachable e →
      Reachable (after (create_session settings_limit id agent_type limit e))
  | perform {e : BudgetEnforcer} (id : Uuid) (c : Call) : Reachable e →
      Reachable (after (perform id c e))
  | restore_session {e : BudgetEnforcer} (snapshot : BudgetSessionSnapshot) : Reachable e →
      Reachable (after (restore_session snapshot e))
  | restore_from_history {e : BudgetEnforcer} (id : Uuid) (agent_type : String) (limit : ℚ)
      (history : List BudgetHistoryEntry) : Reachable e →
      Reachable (after (restore_from_history id agent_type limit history e))

/-- Every session is registered under its own id. -/
def Keyed (e : BudgetEnforcer) : Prop := ∀ id s, e.sessions id = some s → s.session_id = id

theorem Keyed.put {e : BudgetEnforcer} (h : Keyed e) {id : Uuid} {s : BudgetSession}
    (hs : s.session_id = id) : Keyed (e.put id s) := by
  intro id' s' h'
  by_cases hid : id' = id
  · subst hid
    rw [put_self] at h'
    cases h'
    exact hs
  · rw [put_other e hid] at h'
    exact h id' s' h'

theorem Keyed.congr {e e' : BudgetEnforcer} (h : Keyed e) (hs : e'.sessions = e.sessions) :
    Keyed e' := by
  intro id s hid
  rw [hs] at hid
  exact h id s hid

/-- Code that works on its own session alone, and refuses to work on none, keeps the registry
keyed. -/
theorem Local.keyed {α : Type} {id : Uuid} {m : BE α} (h : Local id m)
    (hnone : ∀ e : BudgetEnforcer, e.sessions id = none → (after (m e)).sessions = e.sessions)
    {e : BudgetEnforcer} (he : Keyed e) : Keyed (after (m e)) := by
  cases hs : e.sessions id with
  | none => exact he.congr (hnone e hs)
  | some s =>
      obtain ⟨-, s', hid, hput, -⟩ := h s e e hs hs
      exact (he.put (hid.trans (he id s hs))).congr hput

section
variable {e : BudgetEnforcer} {id : Uuid} (h : e.sessions id = none)
include h

theorem record_spend_none (amount : ℚ) (op : Option String) :
    after (record_spend id amount op e) = e := by
  obtain ⟨x, hx, -⟩ := require_session_none h
  unfold record_spend
  rw [bind_error hx]
  rfl

theorem record_tokens_none (tokens : ℤ) (cost_per_token : ℚ) (op : Option String) :
    after (record_tokens id tokens cost_per_token op e) = e := by
  obtain ⟨x, hx, -⟩ := require_session_none h
  unfold record_tokens
  rw [bind_error hx]
  rfl

theorem check_budget_none : after (check_budget id e) = e := by
  obtain ⟨x, hx, -⟩ := require_session_none h
  unfold check_budget
  rw [bind_error hx]
  rfl

theorem perform_none (c : Call) : after (perform id c e) = e := by
  cases c with
  | record_spend amount op => exact (after_map some _ e).trans (record_spend_none h amount op)
  | record_tokens tokens cost op =>
      exact (after_map some _ e).trans (record_tokens_none h tokens cost op)
  | check_budget => exact (after_map (fun _ => none) _ e).trans (check_budget_none h)

end

/-- Code that leaves a keyed registry keyed. -/
abbrev KeepsKeyed {α : Type} (m : BE α) : Prop := Keeps (fun e e' => Keyed e → Keyed e') m

theorem KeepsKeyed.seq {α β : Type} {m : BE α} {f : α → BE β} (hm : KeepsKeyed m)
    (hf : ∀ a, KeepsKeyed (f a)) : KeepsKeyed (m >>= f) :=
  Keeps.bind (fun _ _ _ h₁ h₂ h => h₂ (h₁ h)) hm hf

theorem require_session_keyed (id : Uuid) : KeepsKeyed (require_session id) := by
  intro e he
  cases hs : e.sessions id with
  | none =>
      obtain ⟨x, hx, -⟩ := require_session_none hs
      rw [hx]
      exact he
  | some s =>
      rw [require_session_run hs]
      exact he

theorem replay_keyed (id : Uuid) (history : List BudgetHistoryEntry) :
    KeepsKeyed (replay id history) := by
  induction history with
  | nil => exact fun e he => he
  | cons entry history ih =>
      refine KeepsKeyed.seq (fun e he => ?_) fun _ => ih
      exact (record_tokens_local id _ _ _).keyed
        (fun e hs => congrArg sessions (record_tokens_none hs _ _ _)) he

theorem restore_from_history_keyed (id : Uuid) (agent_type : String) (limit : ℚ)
    (history : List BudgetHistoryEntry) :
    KeepsKeyed (restore_from_history id agent_type limit history) :=
  KeepsKeyed.seq (fun _ he => he.put rfl) fun _ =>
    (replay_keyed id history).seq fun _ => require_session_keyed id

theorem Reachable.keyed {e : BudgetEnforcer} (h : Reachable e) : Keyed e := by
  induction h with
  | init audit =>
      intro id s hs
      cases hs
  | create_session settings_limit id agent_type limit _ ih => exact ih.put rfl
  | perform id c _ ih =>
      exact (perform_local id c).keyed (fun e hs => congrArg sessions (perform_none hs c)) ih
  | restore_session snapshot _ ih => exact ih.put rfl
  | restore_from_history id agent_type limit history _ ih =>
      exact restore_from_history_keyed id agent_type limit history _ ih

theorem restore_serialize (s : BudgetSession) (e : BudgetEnforcer) :
    restore_session s.serialize e = .ok s (e.put s.session_id s) := by
  unfold restore_session
  rw [s.deserialize_serialize]
  rfl

/-- A new enforcer that holds the session restored from its snapshot. -/
def restarted (id : Uuid) (e : BudgetEnforcer) : Except Exc BudgetEnforcer :=
  (result (require_session id e)).map fun session =>
    after (restore_session session.serialize ⟨fun _ => none, e.audit⟩)

/-- Enforcers that hold the same session. -/
def Alike (id : Uuid) (e e' : BudgetEnforcer) : Prop :=
  ∃ s, e.sessions id = some s ∧ e'.sessions id = some s ∧ s.session_id = id

theorem Alike.sim (id : Uuid) : Sim (perform id) (restarted id) (Alike id) where
  call := by
    rintro e e' ⟨s, hs, hs', hid⟩ c
    obtain ⟨hres, s₁, hid₁, hput, hput'⟩ := perform_local id c s e e' hs hs'
    refine ⟨hres, s₁, ?_, ?_, hid₁.trans hid⟩
    · rw [hput, put_self]
    · rw [hput', put_self]
  restart := by
    rintro e e' ⟨s, hs, hs', hid⟩
    unfold restarted
    rw [require_session_run hs']
    refine ⟨_, rfl, s, hs, ?_, hid⟩
    show (after (restore_session s.serialize _)).sessions id = some s
    rw [restore_serialize, hid]
    exact put_self _ _ _

/-- **Snapshots are transparent.**  From a session of any enforcer a history leads to, any calls with
restarts in any places answer what the calls alone answer and leave the session they leave; and the
snapshot of the session is read back as the session. -/
theorem snapshot_transparent {e : BudgetEnforcer} (he : Reachable e) {id : Uuid}
    {s : BudgetSession} (hs : e.sessions id = some s) :
    (∀ items : List (Item Call), ∃ e',
      Lib.replay (perform id) (restarted id) items e =
        .ok (outcomes (perform id) (calls items) e, e') ∧
      e'.sessions id = (final (perform id) (calls items) e).sessions id) ∧
    BudgetSession.deserialize s.serialize = s := by
  refine ⟨fun items => ?_, s.deserialize_serialize⟩
  obtain ⟨e', hrun, s', hs₁, hs₂, -⟩ :=
    replay_eq (Alike.sim id) items ⟨s, hs, hs, he.keyed id s hs⟩
  exact ⟨e', hrun, hs₂.trans hs₁.symm⟩

/-- A session that may cost one dollar. -/
def oneDollar : BudgetEnforcer := after (create_session 1 ⟨"b"⟩ "general" none ⟨fun _ => none, []⟩)

/-- A restart between an operation and its redelivery. -/
theorem oneDollar_transparent : ∃ e',
    Lib.replay (perform ⟨"b"⟩) (restarted ⟨"b"⟩)
        [.call (.record_spend 1 (some "x")), .restart, .call (.record_spend 1 (some "x")),
          .call .check_budget] oneDollar =
      .ok (outcomes (perform ⟨"b"⟩)
        [.record_spend 1 (some "x"), .record_spend 1 (some "x"), .check_budget] oneDollar, e') ∧
    e'.sessions ⟨"b"⟩ =
      (final (perform ⟨"b"⟩)
        [.record_spend 1 (some "x"), .record_spend 1 (some "x"), .check_budget] oneDollar).sessions
        ⟨"b"⟩ :=
  (snapshot_transparent (.create_session 1 ⟨"b"⟩ "general" none (.init [])) (put_self _ _ _)).1 _

/-! ## Normal returns -/

/-- A debit of a non-negative amount. -/
def Call.NonNegative : Call → Prop
  | .record_spend amount_usd _ => 0 ≤ amount_usd
  | .record_tokens tokens cost_per_token _ => 0 ≤ tokens ∧ 0 ≤ cost_per_token
  | .check_budget => False

/-- The session has applied the operation of the call before. -/
def Call.redelivered (s : BudgetSession) : Call → Bool
  | .record_spend _ operation_id => is_duplicate_operation s operation_id
  | .record_tokens _ _ operation_id => is_duplicate_operation s operation_id
  | .check_budget => false

def Within (s : BudgetSession) : Prop := s.cost_usd ≤ s.budget_limit_usd

/-- A call that returns leaves its session within the limit, and one that leaves it over the limit
raises `BudgetExceededError`. -/
structure Enforced (id : Uuid) (c : Call) (e : BudgetEnforcer) : Prop where
  returns : ∀ {r e' s}, perform id c e = .ok r e' → e'.sessions id = some s → Within s
  raises : ∀ {s}, (after (perform id c e)).sessions id = some s → ¬Within s →
    ∃ x, result (perform id c e) = .error x ∧ x.kind = .BudgetExceededError

/-- A redelivery returns the session as it is. -/
theorem perform_redelivered {e : BudgetEnforcer} {id : Uuid} {s : BudgetSession}
    (h : e.sessions id = some s) {c : Call} (hc : c.redelivered s = true) :
    perform id c e = .ok (some s) e := by
  cases c with
  | record_spend amount op =>
      refine map_ok some ?_
      rw [record_spend_run h]
      exact if_pos hc
  | record_tokens tokens cost op =>
      refine map_ok some ?_
      rw [record_tokens_run h]
      exact if_pos hc
  | check_budget => cases hc

/-- The call returns with its session within the limit, or it raises `BudgetExceededError`. -/
def Settled {α : Type} (id : Uuid) (e : BudgetEnforcer) (f : BudgetSession → α) (m : BE α) : Prop :=
  (∃ s, m e = .ok (f s) (e.put id s) ∧ Within s) ∨
    ∃ x e', m e = .error x e' ∧ x.kind = .BudgetExceededError

theorem Settled.map {α β : Type} {id : Uuid} {e : BudgetEnforcer} {f : BudgetSession → α}
    {m : BE α} (h : Settled id e f m) (g : α → β) : Settled id e (fun s => g (f s)) (g <$> m) := by
  rcases h with ⟨s, hs, hw⟩ | ⟨x, e', hx, hk⟩
  · exact .inl ⟨s, map_ok g hs, hw⟩
  · exact .inr ⟨x, e', map_error g hx, hk⟩

/-- A first delivery raises exactly when it leaves the session over its limit. -/
theorem record_spend_settled {e : BudgetEnforcer} {id : Uuid} {s : BudgetSession}
    (h : e.sessions id = some s) (amount : ℚ) {op : Option String}
    (hnew : is_duplicate_operation s op = false) :
    Settled id e (fun s => s) (record_spend id amount op) := by
  unfold Settled
  rw [record_spend_run h, if_neg (by simp [hnew])]
  split
  · exact .inr ⟨_, _, rfl, rfl⟩
  · rename_i hcap
    refine .inl ⟨_, rfl, ?_⟩
    unfold Within
    rw [debited_cost, debited_limit]
    exact not_lt.mp hcap

theorem record_tokens_settled {e : BudgetEnforcer} {id : Uuid} {s : BudgetSession}
    (h : e.sessions id = some s) {tokens : ℤ} (htok : 0 ≤ tokens) (cost_per_token : ℚ)
    {op : Option String} (hnew : is_duplicate_operation s op = false) :
    Settled id e (fun s => s) (record_tokens id tokens cost_per_token op) := by
  have hspend : Settled id (e.put id { s with tokens_used := s.tokens_used + tokens }) (fun s => s)
      (record_spend id (Decimal.mul tokens cost_per_token) op) :=
    record_spend_settled (put_self e id _) _ hnew
  unfold Settled at hspend ⊢
  rw [record_tokens_run h, if_neg (by simp [hnew]), if_neg (not_lt.mpr htok)]
  simpa only [put_put] using hspend

theorem perform_settled {e : BudgetEnforcer} {id : Uuid} {s : BudgetSession}
    (h : e.sessions id = some s) {c : Call} (hc : c.NonNegative) (hnew : c.redelivered s = false) :
    Settled id e some (perform id c) := by
  cases c with
  | record_spend amount op => exact (record_spend_settled h amount hnew).map some
  | record_tokens tokens cost op => exact (record_tokens_settled h hc.1 cost hnew).map some
  | check_budget => cases hc

/-- A call on a session that is not registered raises and changes nothing. -/
theorem perform_unregistered {e : BudgetEnforcer} {id : Uuid} (h : e.sessions id = none)
    (c : Call) : ∃ x, perform id c e = .error x e := by
  obtain ⟨x, hx, -⟩ := require_session_none h
  refine ⟨x, ?_⟩
  cases c with
  | record_spend amount op => exact map_error some (bind_error hx)
  | record_tokens tokens cost op => exact map_error some (bind_error hx)
  | check_budget => exact bind_error (bind_error hx)

theorem enforced_of_settled {e : BudgetEnforcer} {id : Uuid} {c : Call}
    (h : Settled id e some (perform id c)) : Enforced id c e := by
  rcases h with ⟨s, hrun, hwithin⟩ | ⟨x, e₁, hrun, hkind⟩
  · constructor
    · intro r e' s' hr hs'
      rw [hrun] at hr
      cases hr
      cases (put_self e id s).symm.trans hs'
      exact hwithin
    · intro s' hafter hover
      rw [hrun] at hafter
      cases (put_self e id s).symm.trans hafter
      exact absurd hwithin hover
  · constructor
    · intro r e' s' hr _
      rw [hrun] at hr
      cases hr
    · intro s' _ _
      exact ⟨x, by rw [hrun]; rfl, hkind⟩

/-- **Normal returns.**  In every state of the enforcer, a debit of a non-negative amount is enforced
exactly when it is not the redelivery of an operation to a session that is over its limit. -/
theorem normal_return_within_budget_iff (e : BudgetEnforcer) (id : Uuid) {c : Call}
    (hc : c.NonNegative) :
    Enforced id c e ↔ ∀ s, e.sessions id = some s → c.redelivered s = true → Within s := by
  constructor
  · intro henf s hs hdup
    exact henf.returns (perform_redelivered hs hdup) hs
  · intro hok
    cases hs : e.sessions id with
    | none =>
        obtain ⟨x, hx⟩ := perform_unregistered hs c
        constructor
        · intro r e' s hr _
          rw [hx] at hr
          cases hr
        · intro s hafter _
          rw [hx] at hafter
          cases hs.symm.trans hafter
    | some s =>
        cases hdup : c.redelivered s with
        | true =>
            have hrun := perform_redelivered hs hdup
            have hwithin := hok s hs hdup
            constructor
            · intro r e' s' hr hs'
              rw [hrun] at hr
              cases hr
              cases hs.symm.trans hs'
              exact hwithin
            · intro s' hafter hover
              rw [hrun] at hafter
              cases hs.symm.trans hafter
              exact absurd hwithin hover
        | false => exact enforced_of_settled (perform_settled hs hc hdup)

/-- Two dollars have been debited to the session under an operation id, and it raised. -/
def twoOfOne : BudgetEnforcer := after (perform ⟨"b"⟩ (.record_spend 2 (some "x")) oneDollar)

theorem oneDollar_session : oneDollar.sessions ⟨"b"⟩ = some (blank ⟨"b"⟩ "general" 1) :=
  put_self ⟨fun _ => none, []⟩ ⟨"b"⟩ (blank ⟨"b"⟩ "general" 1)

theorem twoOfOne_reachable : Reachable twoOfOne :=
  .perform ⟨"b"⟩ _ (.create_session 1 ⟨"b"⟩ "general" none (.init []))

theorem add_zero_two : Decimal.add 0 2 = 2 := by
  have hfits : Decimal.Fits (0 + 2) := by
    simpa using Decimal.fits_intCast (n := 2) (by decide)
  simpa using Decimal.add_eq hfits

/-- The debit is on the session, over its limit, and so is the mark of the operation. -/
theorem twoOfOne_session : ∃ s, twoOfOne.sessions ⟨"b"⟩ = some s ∧ s.cost_usd = 2 ∧
    s.budget_limit_usd = 1 ∧ "x" ∈ s.applied_operation_ids := by
  have hrun : twoOfOne = after (record_spend ⟨"b"⟩ 2 (some "x") oneDollar) := after_map some _ _
  have hadd : Decimal.add (blank ⟨"b"⟩ "general" 1).cost_usd 2 = 2 := add_zero_two
  rw [hrun, record_spend_run oneDollar_session, if_neg (by decide),
    if_pos (by rw [hadd]; norm_num [blank])]
  refine ⟨_, put_self oneDollar ⟨"b"⟩ _, ?_, rfl, ?_⟩
  · exact (debited_cost _ _ _).trans hadd
  · exact Finset.mem_insert_self _ _

/-- The redelivery of the operation that raised returns, with the session still over its limit. -/
theorem redelivered_breach_returns :
    Reachable twoOfOne ∧ ∃ s, perform ⟨"b"⟩ (.record_spend 2 (some "x")) twoOfOne = .ok (some s) twoOfOne ∧
      twoOfOne.sessions ⟨"b"⟩ = some s ∧ s.budget_limit_usd < s.cost_usd := by
  obtain ⟨s, hs, hcost, hlimit, hop⟩ := twoOfOne_session
  refine ⟨twoOfOne_reachable, s, perform_redelivered hs ?_, hs, ?_⟩
  · exact (is_duplicate_operation_some s "x").mpr hop
  · rw [hcost, hlimit]
    norm_num

/-- Under an operation id of its own the same debit is enforced. -/
theorem fresh_debit_enforced : Enforced ⟨"b"⟩ (.record_spend 2 (some "x")) oneDollar := by
  refine (normal_return_within_budget_iff oneDollar ⟨"b"⟩ (by simp [Call.NonNegative])).mpr ?_
  intro s hs hdup
  rw [oneDollar_session] at hs
  cases hs
  simp [Call.redelivered, is_duplicate_operation, blank] at hdup

end AegisOs.BudgetEnforcer
