/-
# `AegisOs.Watchdog.Metering` — the token counter

`record_tokens` counts twice: on the session, in `tokens_used`, and for Prometheus,
in `aegis_tokens_consumed_total`, which has one value for each agent type.  Here are
the methods that count, with the counter; without it they are those of
`BudgetEnforcer` (the `erases_` lemmas).

The two counts move together (`Together`), with one exception: `restore_from_history`
starts the session again from nothing, and then counts the entries of the ledger a
second time.  After it the session has counted `m` tokens and the counter `m` more
(`Restocked`).  With a ledger that has no tokens to count (`Silent`), `m` is 0.
-/
import AegisOs.Watchdog.Replay
import AegisOs.Lib.Probe

namespace AegisOs

open Lib Lib.EState

/-- `aegis_tokens_consumed_total`, by `agent_type`. -/
abbrev TokenCounter : Type := String → ℤ

abbrev MBE : Type → Type := EStateM Exc (Probed BudgetEnforcer TokenCounter)

namespace Metered

/-- `_tokens_consumed.labels(agent_type=agent_type).inc(tokens)`. -/
def inc (agent_type : String) (tokens : ℤ) : MBE PUnit :=
  if tokens < 0 then
    throw ⟨.ValueError, "Counters can only be incremented by non-negative amounts."⟩
  else probe fun counter => Function.update counter agent_type (counter agent_type + tokens)

/-- `record_tokens`. -/
def record_tokens (session_id : Uuid) (tokens : ℤ) (cost_per_token : ℚ)
    (operation_id : Option String) : MBE BudgetSession := do
  let session ← plain (BudgetEnforcer.require_session session_id)
  if BudgetEnforcer.is_duplicate_operation session operation_id then return session
  plain (modify (·.put session_id { session with tokens_used := session.tokens_used + tokens }))
  inc session.agent_type tokens
  plain (BudgetEnforcer.record_spend session_id (Decimal.mul tokens cost_per_token) operation_id)

/-- The loop of `restore_from_history`. -/
def replay (session_id : Uuid) : List BudgetHistoryEntry → MBE Unit
  | [] => pure ()
  | entry :: history => do
      let _ ← record_tokens session_id entry.tokens_used
        (BudgetEnforcer.resolve_cost_per_token entry) (some entry.operation_id)
      replay session_id history

/-- `restore_from_history`. -/
def restore_from_history (session_id : Uuid) (agent_type : String) (budget_limit_usd : ℚ)
    (history : List BudgetHistoryEntry) : MBE BudgetSession := do
  plain (modify (·.put session_id (BudgetEnforcer.blank session_id agent_type budget_limit_usd)))
  replay session_id history
  plain (BudgetEnforcer.require_session session_id)

/-! ## Without the counter -/

theorem erases_record_tokens (id : Uuid) (tokens : ℤ) (c : ℚ) (op : Option String) :
    Erases (record_tokens id tokens c op) (BudgetEnforcer.record_tokens id tokens c op) := by
  refine (erases_plain _).bind fun session => ?_
  refine Erases.ite (erases_pure session) ?_
  refine (erases_plain _).bind fun _ => ?_
  intro p
  unfold inc
  split
  · rfl
  · exact erases_plain (BudgetEnforcer.record_spend id (Decimal.mul tokens c) op) _

theorem erases_replay (id : Uuid) (history : List BudgetHistoryEntry) :
    Erases (replay id history) (BudgetEnforcer.replay id history) := by
  induction history with
  | nil => exact erases_pure ()
  | cons entry history ih => exact (erases_record_tokens _ _ _ _).bind fun _ => ih

theorem erases_restore_from_history (id : Uuid) (agent_type : String) (limit : ℚ)
    (history : List BudgetHistoryEntry) :
    Erases (restore_from_history id agent_type limit history)
      (BudgetEnforcer.restore_from_history id agent_type limit history) := by
  refine (erases_plain _).bind fun _ => ?_
  exact (erases_replay id history).bind fun _ => erases_plain _

/-! ## What a method counts -/

/-- What a session has counted, and for which agent type. -/
def meter (e : BudgetEnforcer) (id : Uuid) : Option (String × ℤ) :=
  (e.sessions id).map fun s => (s.agent_type, s.tokens_used)

/-- `tokens_used` of a session, and 0 before there is one. -/
def tokens_used_of (e : BudgetEnforcer) (id : Uuid) : ℤ := (meter e id).elim 0 Prod.snd

/-- No session counts anything. -/
def SameTokens (e e' : BudgetEnforcer) : Prop := meter e' = meter e

theorem meter_put (e : BudgetEnforcer) (id : Uuid) (s : BudgetSession) :
    meter (e.put id s) = Function.update (meter e) id (some (s.agent_type, s.tokens_used)) := by
  funext id'
  by_cases h : id' = id
  · subst h
    simp [meter]
  · rw [Function.update_of_ne h, meter, meter, BudgetEnforcer.put_other _ h]

theorem meter_of_session {e : BudgetEnforcer} {id : Uuid} {s : BudgetSession}
    (h : e.sessions id = some s) : meter e id = some (s.agent_type, s.tokens_used) := by
  rw [meter, h]
  rfl

theorem session_of_meter {e : BudgetEnforcer} {id : Uuid} {a : String} {k : ℤ}
    (h : meter e id = some (a, k)) :
    ∃ s, e.sessions id = some s ∧ s.agent_type = a ∧ s.tokens_used = k := by
  obtain ⟨s, hs, heq⟩ := Option.map_eq_some_iff.mp h
  cases heq
  exact ⟨s, hs, rfl, rfl⟩

theorem debited_agent_type (s : BudgetSession) (amount : ℚ) (op : Option String) :
    (BudgetEnforcer.debited s amount op).agent_type = s.agent_type := by
  cases op <;> rfl

/-- A debit of money counts no tokens. -/
theorem record_spend_sameTokens (id : Uuid) (amount : ℚ) (op : Option String) :
    Keeps SameTokens (BudgetEnforcer.record_spend id amount op) := by
  intro e
  cases hs : e.sessions id with
  | none =>
      obtain ⟨x, hx, -⟩ := BudgetEnforcer.require_session_none hs
      unfold BudgetEnforcer.record_spend
      rw [bind_error hx]
      rfl
  | some s =>
      have hput : ∀ s' : BudgetSession, s'.agent_type = s.agent_type →
          s'.tokens_used = s.tokens_used → meter (e.put id s') = meter e := by
        intro s' ha ht
        rw [meter_put, ha, ht, ← meter_of_session hs, Function.update_eq_self]
      rw [BudgetEnforcer.record_spend_run hs]
      split
      · rfl
      · split
        · exact hput _ (debited_agent_type s amount op) (BudgetEnforcer.debited_tokens s amount op)
        · exact hput _ (debited_agent_type s amount op) (BudgetEnforcer.debited_tokens s amount op)

theorem record_tokens_duplicate (tokens : ℤ) (c : ℚ) {id : Uuid} {op : Option String}
    {s : BudgetSession} {p : Probed BudgetEnforcer TokenCounter}
    (hs : p.state.sessions id = some s)
    (hdup : BudgetEnforcer.is_duplicate_operation s op = true) :
    record_tokens id tokens c op p = .ok s p := by
  have hrequire : plain (BudgetEnforcer.require_session id) p = .ok s p :=
    plain_ok (BudgetEnforcer.require_session_run hs)
  unfold record_tokens
  rw [bind_ok hrequire, if_pos hdup]
  rfl

/-- The counts come first, whatever becomes of the debit. -/
theorem record_tokens_eq {id : Uuid} {tokens : ℤ} {c : ℚ} {op : Option String} {s : BudgetSession}
    {p : Probed BudgetEnforcer TokenCounter} (hs : p.state.sessions id = some s)
    (hdup : ¬BudgetEnforcer.is_duplicate_operation s op = true) (ht : 0 ≤ tokens) :
    record_tokens id tokens c op p =
      plain (BudgetEnforcer.record_spend id (Decimal.mul tokens c) op)
        ⟨p.state.put id { s with tokens_used := s.tokens_used + tokens },
          Function.update p.probe s.agent_type (p.probe s.agent_type + tokens)⟩ := by
  have hrequire : plain (BudgetEnforcer.require_session id) p = .ok s p :=
    plain_ok (BudgetEnforcer.require_session_run hs)
  have hinc : inc s.agent_type tokens = probe fun counter =>
      Function.update counter s.agent_type (counter s.agent_type + tokens) :=
    if_neg (not_lt.mpr ht)
  unfold record_tokens
  rw [bind_ok hrequire, if_neg hdup, hinc]
  rfl

section
variable {id : Uuid} {a : String} {k n : ℤ} {p₀ p : Probed BudgetEnforcer TokenCounter}

/-- Compared with `p₀`, the session has counted `k` and its agent type `n`, and all else is as it
was. -/
structure Stands (id : Uuid) (a : String) (k n : ℤ) (p₀ p : Probed BudgetEnforcer TokenCounter) :
    Prop where
  session : meter p.state = Function.update (meter p₀.state) id (some (a, k))
  counter : p.probe = Function.update p₀.probe a n

theorem Stands.held (h : Stands id a k n p₀ p) :
    ∃ s, p.state.sessions id = some s ∧ s.agent_type = a ∧ s.tokens_used = k := by
  refine session_of_meter ?_
  rw [h.session, Function.update_self]

theorem Stands.same {p' : Probed BudgetEnforcer TokenCounter} (h : Stands id a k n p₀ p)
    (hs : SameTokens p.state p'.state) (hc : p'.probe = p.probe) : Stands id a k n p₀ p' :=
  ⟨hs.trans h.session, hc.trans h.counter⟩

/-- A step that counts nothing. -/
theorem Stands.after_plain {α : Type} {m : BE α} (h : Stands id a k n p₀ p)
    (hm : Keeps SameTokens m) : Stands id a k n p₀ (after (plain m p)) := by
  have hkeep : Keeps (fun q q' : Probed BudgetEnforcer TokenCounter =>
      SameTokens q.state q'.state ∧ q'.probe = q.probe) (plain m) := hm.plain
  exact h.same (hkeep p).1 (hkeep p).2

/-- `record_tokens` counts on both sides, or on neither. -/
theorem record_tokens_stands {tokens : ℤ} (c : ℚ) (op : Option String) (h : Stands id a k n p₀ p)
    (ht : 0 ≤ tokens) {s : BudgetSession} (hs : p.state.sessions id = some s) :
    Stands id a (if BudgetEnforcer.is_duplicate_operation s op then k else k + tokens)
      (if BudgetEnforcer.is_duplicate_operation s op then n else n + tokens) p₀
      (after (record_tokens id tokens c op p)) := by
  split
  · rename_i hdup
    rw [record_tokens_duplicate tokens c hs hdup]
    exact h
  · rename_i hdup
    rw [record_tokens_eq hs hdup ht]
    obtain ⟨s', hs', ha, hk⟩ := h.held
    rw [hs, Option.some.injEq] at hs'
    subst hs' ha hk
    refine Stands.after_plain ?_ (record_spend_sameTokens id (Decimal.mul tokens c) op)
    refine ⟨?_, ?_⟩
    · show meter (p.state.put id _) = _
      rw [meter_put, h.session, Function.update_idem]
    · show Function.update p.probe _ (p.probe s.agent_type + tokens) = _
      rw [h.counter, Function.update_idem, Function.update_self]

theorem record_tokens_zero_stands (c : ℚ) (op : Option String) (h : Stands id a k n p₀ p) :
    Stands id a k n p₀ (after (record_tokens id 0 c op p)) := by
  obtain ⟨s, hs, -, -⟩ := h.held
  have hstep := record_tokens_stands c op h le_rfl hs
  rwa [add_zero, add_zero, ite_self, ite_self] at hstep

/-- A replay counts the same on both sides. -/
theorem replay_stands {history : List BudgetHistoryEntry}
    (hn : ∀ entry ∈ history, 0 ≤ entry.tokens_used) (h : Stands id a k n p₀ p) :
    ∃ j, 0 ≤ j ∧ Stands id a (k + j) (n + j) p₀ (after (replay id history p)) := by
  induction history generalizing k n p with
  | nil =>
      refine ⟨0, le_rfl, ?_⟩
      rw [add_zero, add_zero]
      exact h
  | cons entry history ih =>
      have hentry := hn entry List.mem_cons_self
      obtain ⟨s, hs, -, -⟩ := h.held
      have hstep := record_tokens_stands (BudgetEnforcer.resolve_cost_per_token entry)
        (some entry.operation_id) h hentry hs
      obtain ⟨i, hi, hfirst⟩ : ∃ i, 0 ≤ i ∧ Stands id a (k + i) (n + i) p₀
          (after (record_tokens id entry.tokens_used
            (BudgetEnforcer.resolve_cost_per_token entry) (some entry.operation_id) p)) := by
        split at hstep
        · exact ⟨0, le_rfl, by simpa using hstep⟩
        · exact ⟨_, hentry, hstep⟩
      unfold replay
      cases hr : record_tokens id entry.tokens_used
          (BudgetEnforcer.resolve_cost_per_token entry) (some entry.operation_id) p with
      | error e p' =>
          rw [hr] at hfirst
          rw [bind_error hr]
          exact ⟨i, hi, hfirst⟩
      | ok s' p' =>
          rw [hr] at hfirst
          rw [bind_ok hr]
          obtain ⟨j, hj, hrest⟩ :=
            ih (fun x hx => hn x (List.mem_cons_of_mem _ hx)) hfirst
          refine ⟨i + j, by omega, ?_⟩
          rwa [add_assoc, add_assoc] at hrest

end

/-- After a restore the session has counted `m`, and so has the counter. -/
def Restocked (id : Uuid) (a : String) (m : ℤ) (p p' : Probed BudgetEnforcer TokenCounter) : Prop :=
  Stands id a m (p.probe a + m) p p'

theorem blank_restocked (id : Uuid) (a : String) (limit : ℚ) (p : Probed BudgetEnforcer TokenCounter) :
    Restocked id a 0 p { p with state := p.state.put id (BudgetEnforcer.blank id a limit) } := by
  refine ⟨meter_put _ _ _, ?_⟩
  rw [add_zero, Function.update_eq_self]

theorem restore_from_history_run (id : Uuid) (a : String) (limit : ℚ)
    (history : List BudgetHistoryEntry) (p : Probed BudgetEnforcer TokenCounter) :
    restore_from_history id a limit history p =
      (replay id history >>= fun _ => plain (BudgetEnforcer.require_session id))
        { p with state := p.state.put id (BudgetEnforcer.blank id a limit) } := rfl

theorem require_session_sameTokens (id : Uuid) :
    Keeps SameTokens (BudgetEnforcer.require_session id) := by
  intro e
  cases hs : e.sessions id with
  | none =>
      obtain ⟨x, hx, -⟩ := BudgetEnforcer.require_session_none hs
      rw [hx]
      rfl
  | some s =>
      rw [BudgetEnforcer.require_session_run hs]
      rfl

/-- A step that counts nothing, behind one that may have raised. -/
theorem Stands.then_plain {α β : Type} {id : Uuid} {a : String} {k n : ℤ}
    {p₀ p : Probed BudgetEnforcer TokenCounter} {m : MBE α} {f : α → BE β}
    (h : Stands id a k n p₀ (after (m p))) (hf : ∀ x, Keeps SameTokens (f x)) :
    Stands id a k n p₀ (after ((m >>= fun x => plain (f x)) p)) := by
  cases hr : m p with
  | error e p' =>
      rw [bind_error hr]
      rwa [hr] at h
  | ok x p' =>
      rw [hr] at h
      rw [bind_ok hr]
      exact Stands.after_plain h (hf x)

/-- **A restore counts the ledger again.** -/
theorem restore_from_history_restocked (id : Uuid) (a : String) (limit : ℚ)
    {history : List BudgetHistoryEntry} (hn : ∀ entry ∈ history, 0 ≤ entry.tokens_used)
    (p : Probed BudgetEnforcer TokenCounter) :
    ∃ m, 0 ≤ m ∧ Restocked id a m p (after (restore_from_history id a limit history p)) := by
  obtain ⟨m, hm, hreplay⟩ := replay_stands hn (blank_restocked id a limit p)
  rw [zero_add, add_zero] at hreplay
  refine ⟨m, hm, ?_⟩
  rw [restore_from_history_run]
  exact hreplay.then_plain fun _ => require_session_sameTokens id

/-- A session that has been restored is the one in the registry. -/
theorem restore_from_history_ok {id : Uuid} {a : String} {limit : ℚ}
    {history : List BudgetHistoryEntry} {s : BudgetSession}
    {p p' : Probed BudgetEnforcer TokenCounter}
    (h : restore_from_history id a limit history p = .ok s p') : p'.state.sessions id = some s := by
  rw [restore_from_history_run] at h
  obtain ⟨_, p₁, -, h₁⟩ := bind_eq_ok.mp h
  obtain ⟨e, he, rfl⟩ := zoom_eq_ok.mp h₁
  cases hs : p₁.state.sessions id with
  | none =>
      obtain ⟨x, hx, -⟩ := BudgetEnforcer.require_session_none hs
      rw [hx] at he
      cases he
  | some s' =>
      rw [BudgetEnforcer.require_session_run hs] at he
      cases he
      exact hs

/-! ## The counter never falls -/

/-- No agent type's count is lower than before. -/
def Grows (p p' : Probed BudgetEnforcer TokenCounter) : Prop := ∀ a, p.probe a ≤ p'.probe a

theorem Grows.refl (p : Probed BudgetEnforcer TokenCounter) : Grows p p := fun _ => le_rfl

theorem Grows.trans (p₁ p₂ p₃ : Probed BudgetEnforcer TokenCounter) (h₁ : Grows p₁ p₂)
    (h₂ : Grows p₂ p₃) : Grows p₁ p₃ := fun a => le_trans (h₁ a) (h₂ a)

theorem grows_plain {α : Type} (m : BE α) : Keeps Grows (plain m) :=
  Keeps.zoom (R := fun _ _ => True) (fun _ => trivial) fun _ _ _ _ => le_rfl

theorem grows_inc (a : String) (tokens : ℤ) : Keeps Grows (inc a tokens) := by
  unfold inc
  split
  · exact Keeps.throw Grows.refl _
  · rename_i ht
    intro p b
    show p.probe b ≤ Function.update p.probe a (p.probe a + tokens) b
    by_cases hb : b = a
    · subst hb
      rw [Function.update_self]
      omega
    · rw [Function.update_of_ne hb]

theorem grows_record_tokens (id : Uuid) (tokens : ℤ) (c : ℚ) (op : Option String) :
    Keeps Grows (record_tokens id tokens c op) := by
  refine Keeps.bind Grows.trans (grows_plain _) fun s => ?_
  refine Keeps.ite (Keeps.pure Grows.refl s) ?_
  refine Keeps.bind Grows.trans (grows_plain _) fun _ => ?_
  exact Keeps.bind Grows.trans (grows_inc _ _) fun _ => grows_plain _

theorem grows_restore_from_history (id : Uuid) (a : String) (limit : ℚ)
    (history : List BudgetHistoryEntry) :
    Keeps Grows (restore_from_history id a limit history) := by
  refine Keeps.bind Grows.trans (grows_plain _) fun _ => ?_
  refine Keeps.bind Grows.trans ?_ fun _ => grows_plain _
  induction history with
  | nil => exact Keeps.pure Grows.refl ()
  | cons entry history ih =>
      exact Keeps.bind Grows.trans (grows_record_tokens _ _ _ _) fun _ => ih

/-! ## Ledgers without tokens -/

/-- The entries a replay gets to, if none of them carries tokens; a negative limit ends it at the
first. -/
def reached (limit : ℚ) (history : List BudgetHistoryEntry) : List BudgetHistoryEntry :=
  if limit < 0 then (BudgetEnforcer.first_entries ∅ history).take 1
  else BudgetEnforcer.first_entries ∅ history

/-- The ledger has no tokens for a replay to count. -/
def Silent (limit : ℚ) (history : List BudgetHistoryEntry) : Prop :=
  ∀ entry ∈ reached limit history, entry.tokens_used = 0

instance (limit : ℚ) (history : List BudgetHistoryEntry) : Decidable (Silent limit history) :=
  inferInstanceAs (Decidable (∀ entry ∈ reached limit history, entry.tokens_used = 0))

/-- A ledger in which no entry has tokens is one of them. -/
theorem silent_of_zero {limit : ℚ} {history : List BudgetHistoryEntry}
    (h : ∀ entry ∈ history, entry.tokens_used = 0) : Silent limit history := by
  intro entry hentry
  refine h entry (BudgetEnforcer.first_entries_subset ∅ history ?_)
  unfold reached at hentry
  split at hentry
  · exact List.mem_of_mem_take hentry
  · exact hentry

/-- Nothing has been debited from the session; it knows the operations `known`. -/
structure Undebited (s : BudgetSession) (limit : ℚ) (known : Finset String) : Prop where
  tokens_used : s.tokens_used = 0
  cost_usd : s.cost_usd = 0
  limit_usd : s.budget_limit_usd = limit
  operations : s.applied_operation_ids = known

/-- An entry without tokens adds its operation; with a negative limit it raises. -/
theorem record_tokens_zero (c : ℚ) (op : String) {id : Uuid} {limit : ℚ} {known : Finset String}
    {s : BudgetSession} {p : Probed BudgetEnforcer TokenCounter}
    (hs : p.state.sessions id = some s) (hu : Undebited s limit known) (hop : op ∉ known) :
    (limit < 0 → ∃ e p', record_tokens id 0 c (some op) p = .error e p') ∧
      (0 ≤ limit → ∃ s' p', record_tokens id 0 c (some op) p = .ok s' p' ∧
        p'.state.sessions id = some s' ∧ Undebited s' limit (insert op known)) := by
  have hdup : ¬BudgetEnforcer.is_duplicate_operation s (some op) = true := by
    rwa [BudgetEnforcer.is_duplicate_operation_some, hu.operations]
  have hamount : Decimal.mul (0 : ℤ) c = 0 := by simp [Decimal.mul]
  have hcost : Decimal.add 0 0 = 0 := by simp [Decimal.add]
  rw [record_tokens_eq hs hdup le_rfl, hamount]
  generalize hs₁ : { s with tokens_used := s.tokens_used + 0 } = s₁
  have hu₁ : Undebited s₁ limit known := by
    subst hs₁
    exact ⟨by rw [hu.tokens_used]; rfl, hu.cost_usd, hu.limit_usd, hu.operations⟩
  have hrun := BudgetEnforcer.record_spend_run (BudgetEnforcer.put_self p.state id s₁) 0 (some op)
  rw [if_neg (by rwa [BudgetEnforcer.is_duplicate_operation_some, hu₁.operations]), hu₁.limit_usd,
    hu₁.cost_usd, hcost] at hrun
  constructor
  · intro hlimit
    rw [if_pos hlimit] at hrun
    exact ⟨_, _, plain_error hrun⟩
  · intro hlimit
    rw [if_neg (not_lt.mpr hlimit)] at hrun
    refine ⟨_, _, plain_ok hrun, BudgetEnforcer.put_self _ _ _, ?_⟩
    refine ⟨?_, ?_, ?_, ?_⟩
    · rw [BudgetEnforcer.debited_tokens, hu₁.tokens_used]
    · rw [BudgetEnforcer.debited_cost, hu₁.cost_usd, hcost]
    · rw [BudgetEnforcer.debited_limit, hu₁.limit_usd]
    · show insert op s₁.applied_operation_ids = _
      rw [hu₁.operations]

/-- A ledger without tokens is replayed to a session that has counted nothing. -/
theorem replay_silent {id : Uuid} {a : String} {k n : ℤ} {limit : ℚ}
    {p₀ : Probed BudgetEnforcer TokenCounter} (hlimit : 0 ≤ limit)
    {history : List BudgetHistoryEntry} :
    ∀ {known : Finset String} {s : BudgetSession} {p : Probed BudgetEnforcer TokenCounter},
      (∀ entry ∈ BudgetEnforcer.first_entries known history, entry.tokens_used = 0) →
      Stands id a k n p₀ p → p.state.sessions id = some s → Undebited s limit known →
      ∃ s' p', replay id history p = .ok () p' ∧ Stands id a k n p₀ p' ∧
        p'.state.sessions id = some s' ∧
        Undebited s' limit (known ∪ BudgetEnforcer.operation_ids history) := by
  induction history with
  | nil =>
      intro known s p _ hstands hs hu
      refine ⟨s, p, rfl, hstands, hs, ?_⟩
      simpa [BudgetEnforcer.operation_ids] using hu
  | cons entry history ih =>
      intro known s p hz hstands hs hu
      have hids : insert entry.operation_id known ∪ BudgetEnforcer.operation_ids history =
          known ∪ BudgetEnforcer.operation_ids (entry :: history) := by
        ext op
        simp [BudgetEnforcer.operation_ids]
      unfold BudgetEnforcer.first_entries at hz
      by_cases hop : entry.operation_id ∈ known
      · rw [if_pos hop] at hz
        rw [← hids, Finset.insert_eq_of_mem hop]
        have hdup := record_tokens_duplicate entry.tokens_used
          (BudgetEnforcer.resolve_cost_per_token entry) hs ((BudgetEnforcer.is_duplicate_operation_some s _).mpr (by rwa [hu.operations]))
        unfold replay
        rw [bind_ok hdup]
        exact ih hz hstands hs hu
      · rw [if_neg hop] at hz
        have hzero := hz entry List.mem_cons_self
        obtain ⟨s₁, p₁, hrun, hs₁, hu₁⟩ := (record_tokens_zero
          (BudgetEnforcer.resolve_cost_per_token entry) entry.operation_id hs hu hop).2 hlimit
        have hstands₁ : Stands id a k n p₀ p₁ := by
          have hstep := record_tokens_zero_stands (BudgetEnforcer.resolve_cost_per_token entry)
            (some entry.operation_id) hstands
          rwa [hrun] at hstep
        unfold replay
        rw [hzero, bind_ok hrun, ← hids]
        exact ih (fun x hx => hz x (List.mem_cons_of_mem _ hx)) hstands₁ hs₁ hu₁

theorem blank_undebited (id : Uuid) (a : String) (limit : ℚ) :
    Undebited (BudgetEnforcer.blank id a limit) limit ∅ := ⟨rfl, rfl, rfl, rfl⟩

section
variable (id : Uuid) (a : String) {limit : ℚ} {history : List BudgetHistoryEntry}
  (hsilent : Silent limit history) (p : Probed BudgetEnforcer TokenCounter)
include hsilent

/-- A restore from a ledger without tokens counts nothing. -/
theorem restore_from_history_silent_ok (hok : history = [] ∨ 0 ≤ limit) :
    ∃ s p', restore_from_history id a limit history p = .ok s p' ∧ Restocked id a 0 p p' ∧
      p'.state.sessions id = some s ∧
      Undebited s limit (BudgetEnforcer.operation_ids history) := by
  have hblank := blank_undebited id a limit
  have hput := BudgetEnforcer.put_self p.state id (BudgetEnforcer.blank id a limit)
  have hstands := blank_restocked id a limit p
  obtain ⟨s, p', hrun, hp', hs, hu⟩ : ∃ s p', replay id history
      { p with state := p.state.put id (BudgetEnforcer.blank id a limit) } = .ok () p' ∧
      Restocked id a 0 p p' ∧ p'.state.sessions id = some s ∧
      Undebited s limit (BudgetEnforcer.operation_ids history) := by
    by_cases hnil : history = []
    · subst hnil
      exact ⟨_, _, rfl, hstands, hput, hblank⟩
    · have hlimit := hok.resolve_left hnil
      rw [Silent, reached, if_neg (not_lt.mpr hlimit)] at hsilent
      obtain ⟨s, p', hrun, hp', hs, hu⟩ := replay_silent hlimit hsilent hstands hput hblank
      exact ⟨s, p', hrun, hp', hs, by rwa [Finset.empty_union] at hu⟩
  refine ⟨s, p', ?_, hp', hs, hu⟩
  rw [restore_from_history_run, bind_ok hrun]
  exact plain_ok (BudgetEnforcer.require_session_run hs)

/-- With a negative limit it raises at the first entry, which has no tokens either. -/
theorem restore_from_history_silent_error (hraise : ¬(history = [] ∨ 0 ≤ limit)) :
    ∃ e p', restore_from_history id a limit history p = .error e p' ∧ Restocked id a 0 p p' := by
  have hput : ({ p with state := p.state.put id (BudgetEnforcer.blank id a limit) } :
      Probed BudgetEnforcer TokenCounter).state.sessions id = some (BudgetEnforcer.blank id a limit) :=
    BudgetEnforcer.put_self _ _ _
  rw [not_or, not_le] at hraise
  obtain ⟨hne, hlimit⟩ := hraise
  cases history with
  | nil => exact absurd rfl hne
  | cons entry history =>
      have hzero : entry.tokens_used = 0 := by
        refine hsilent entry ?_
        rw [reached, if_pos hlimit, BudgetEnforcer.first_entries, if_neg (Finset.notMem_empty _)]
        exact List.mem_cons_self
      obtain ⟨e, p', hrun⟩ := (record_tokens_zero (BudgetEnforcer.resolve_cost_per_token entry)
        entry.operation_id hput (blank_undebited id a limit) (Finset.notMem_empty _)).1 hlimit
      rw [restore_from_history_run]
      refine ⟨e, p', bind_error (bind_error ?_), ?_⟩
      · rw [hzero]
        exact hrun
      · have hstep := record_tokens_zero_stands (BudgetEnforcer.resolve_cost_per_token entry)
          (some entry.operation_id) (blank_restocked id a limit p)
        rw [add_zero, hrun] at hstep
        rwa [Restocked, add_zero]

theorem restore_from_history_silent_restocked :
    Restocked id a 0 p (after (restore_from_history id a limit history p)) := by
  by_cases hledger : history = [] ∨ 0 ≤ limit
  · obtain ⟨s, p', hrun, hp', -⟩ := restore_from_history_silent_ok id a hsilent p hledger
    rwa [hrun]
  · obtain ⟨e, p', hrun, hp'⟩ := restore_from_history_silent_error id a hsilent p hledger
    rwa [hrun]

end

end Metered

end AegisOs
