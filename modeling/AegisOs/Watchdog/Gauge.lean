/-
# `AegisOs.Watchdog.Gauge` — the gauge the alerts watch

`aegis_budget_remaining_usd` has one value for each session, and the `BudgetCritical`
alert fires on it.  Here are the methods that set it; without it they are those of
`BudgetEnforcer` (the `erases_` lemmas).

A method that charges a session sets the gauge before it can raise, so the two never
part: in any run, breaches, redeliveries and failing replays included, the value of a
session is what it has left (`remaining`), or its limit as long as nothing was charged
(`Shown`).  Either is positive exactly as long as `check_budget` lets a request
through (`gauge_tells`).

The conversion to a float is a parameter.
-/
import AegisOs.Watchdog.Isolation
import AegisOs.Lib.Probe

namespace AegisOs

open Lib Lib.EState

/-- `aegis_budget_remaining_usd`, by `session_id`; a label that was never set has no value. -/
abbrev BudgetGauge (F : Type) : Type := String → Option F

abbrev GBE (F : Type) : Type → Type := EStateM Exc (Probed BudgetEnforcer (BudgetGauge F))

namespace BudgetEnforcer

/-- `max(session.budget_limit_usd - session.cost_usd, Decimal("0"))`. -/
def remaining (s : BudgetSession) : ℚ := max (Decimal.fix (s.budget_limit_usd - s.cost_usd)) 0

theorem remaining_nonpos_iff (s : BudgetSession) :
    remaining s ≤ 0 ↔ s.budget_limit_usd ≤ s.cost_usd := by
  rw [remaining, max_le_iff, ← not_lt, Decimal.fix_pos_iff]
  simp

/-- What the next `check_budget` does. -/
theorem check_budget_refuses_iff {e : BudgetEnforcer} {id : Uuid} {s : BudgetSession}
    (h : e.sessions id = some s) :
    (∃ msg e', check_budget id e = .error ⟨.BudgetExceededError, msg⟩ e') ↔
      s.budget_limit_usd ≤ s.cost_usd := by
  obtain ⟨hlets, hrefuses⟩ := check_budget_run h
  constructor
  · rintro ⟨msg, e', hrun⟩
    by_contra hlt
    rw [hlets (not_le.mp hlt)] at hrun
    cases hrun
  · intro hle
    obtain ⟨msg, hrun⟩ := hrefuses hle
    exact ⟨msg, _, hrun⟩

end BudgetEnforcer

namespace Gauged

variable {F : Type} (to_float : ℚ → F)

/-- `_budget_remaining.labels(session_id=str(session_id)).set(float(value))`. -/
def set (session_id : Uuid) (value : ℚ) : GBE F PUnit :=
  probe fun gauge => Function.update gauge session_id.text (some (to_float value))

/-- `create_session`. -/
def create_session (settings_limit : ℚ) (session_id : Uuid) (agent_type : String)
    (budget_limit_usd : Option ℚ) : GBE F BudgetSession := do
  let limit := budget_limit_usd.getD settings_limit
  let session : BudgetSession :=
    { session_id := session_id, agent_type := agent_type, budget_limit_usd := limit }
  plain (modify (·.put session_id session))
  set to_float session_id limit
  plain (modify (·.log (.info "budget.session_created"
    [("session_id", .str session_id.text), ("agent_type", .str agent_type),
      ("budget_limit_usd", .text [.dec limit])])))
  return session

/-- `record_spend`. -/
def record_spend (session_id : Uuid) (amount_usd : ℚ) (operation_id : Option String) :
    GBE F BudgetSession := do
  let session ← plain (BudgetEnforcer.require_session session_id)
  if BudgetEnforcer.is_duplicate_operation session operation_id then return session
  let session := BudgetEnforcer.debited session amount_usd operation_id
  plain (modify (·.put session_id session))
  set to_float session_id (BudgetEnforcer.remaining session)
  if session.budget_limit_usd < session.cost_usd then
    plain (modify (·.breached session_id session))
    throw ⟨.BudgetExceededError, BudgetEnforcer.exceeded_message session_id session⟩
  return session

/-- `record_tokens`. -/
def record_tokens (session_id : Uuid) (tokens : ℤ) (cost_per_token : ℚ)
    (operation_id : Option String) : GBE F BudgetSession := do
  let session ← plain (BudgetEnforcer.require_session session_id)
  if BudgetEnforcer.is_duplicate_operation session operation_id then return session
  plain (modify (·.put session_id { session with tokens_used := session.tokens_used + tokens }))
  -- `Counter.inc`
  if tokens < 0 then
    throw ⟨.ValueError, "Counters can only be incremented by non-negative amounts."⟩
  record_spend to_float session_id (Decimal.mul tokens cost_per_token) operation_id

/-- `restore_session`. -/
def restore_session (snapshot : BudgetSessionSnapshot) : GBE F BudgetSession := do
  let session := BudgetSession.deserialize snapshot
  plain (modify (·.put session.session_id session))
  set to_float session.session_id (BudgetEnforcer.remaining session)
  return session

/-- The loop of `restore_from_history`. -/
def replay (session_id : Uuid) : List BudgetHistoryEntry → GBE F Unit
  | [] => pure ()
  | entry :: history => do
      let _ ← record_tokens to_float session_id entry.tokens_used
        (BudgetEnforcer.resolve_cost_per_token entry) (some entry.operation_id)
      replay session_id history

/-- `restore_from_history`. -/
def restore_from_history (session_id : Uuid) (agent_type : String) (budget_limit_usd : ℚ)
    (history : List BudgetHistoryEntry) : GBE F BudgetSession := do
  plain (modify (·.put session_id (BudgetEnforcer.blank session_id agent_type budget_limit_usd)))
  set to_float session_id budget_limit_usd
  replay to_float session_id history
  plain (BudgetEnforcer.require_session session_id)

/-- A call of any of the methods; `check_budget` and `get_session` leave the gauge alone. -/
def invoke (settings_limit : ℚ) : BudgetEnforcer.Method → GBE F (Option BudgetSession)
  | .create_session session_id agent_type budget_limit_usd =>
      some <$> create_session to_float settings_limit session_id agent_type budget_limit_usd
  | .call session_id (.record_spend amount_usd operation_id) =>
      some <$> record_spend to_float session_id amount_usd operation_id
  | .call session_id (.record_tokens tokens cost_per_token operation_id) =>
      some <$> record_tokens to_float session_id tokens cost_per_token operation_id
  | .call session_id .check_budget => do
      plain (BudgetEnforcer.check_budget session_id)
      return none
  | .restore_session snapshot => some <$> restore_session to_float snapshot
  | .restore_from_history session_id agent_type budget_limit_usd history =>
      some <$> restore_from_history to_float session_id agent_type budget_limit_usd history
  | .get_session session_id => plain (BudgetEnforcer.get_session session_id)

/-! ## Without the gauge -/

theorem erases_create_session (settings_limit : ℚ) (id : Uuid) (agent_type : String)
    (limit : Option ℚ) :
    Erases (create_session to_float settings_limit id agent_type limit)
      (BudgetEnforcer.create_session settings_limit id agent_type limit) := fun _ => rfl

theorem erases_record_spend (id : Uuid) (amount : ℚ) (op : Option String) :
    Erases (record_spend to_float id amount op) (BudgetEnforcer.record_spend id amount op) := by
  refine (erases_plain _).bind fun session => Erases.ite (erases_pure session) ?_
  refine (erases_plain _).bind fun _ => Erases.after_probe _ (Erases.ite ?_ (erases_pure _))
  exact (erases_plain _).bind fun _ => erases_throw _

theorem erases_record_tokens (id : Uuid) (tokens : ℤ) (c : ℚ) (op : Option String) :
    Erases (record_tokens to_float id tokens c op)
      (BudgetEnforcer.record_tokens id tokens c op) := by
  refine (erases_plain _).bind fun session => Erases.ite (erases_pure session) ?_
  refine (erases_plain _).bind fun _ => Erases.ite (erases_throw _) ?_
  exact erases_record_spend to_float id (Decimal.mul tokens c) op

theorem erases_restore_session (snapshot : BudgetSessionSnapshot) :
    Erases (restore_session to_float snapshot) (BudgetEnforcer.restore_session snapshot) :=
  fun _ => rfl

theorem erases_replay (id : Uuid) (history : List BudgetHistoryEntry) :
    Erases (replay to_float id history) (BudgetEnforcer.replay id history) := by
  induction history with
  | nil => exact erases_pure ()
  | cons entry history ih => exact (erases_record_tokens to_float _ _ _ _).bind fun _ => ih

theorem erases_restore_from_history (id : Uuid) (agent_type : String) (limit : ℚ)
    (history : List BudgetHistoryEntry) :
    Erases (restore_from_history to_float id agent_type limit history)
      (BudgetEnforcer.restore_from_history id agent_type limit history) := by
  refine (erases_plain _).bind fun _ => Erases.after_probe _ ?_
  exact (erases_replay to_float id history).bind fun _ => erases_plain _

theorem erases_invoke (settings_limit : ℚ) (x : BudgetEnforcer.Method) :
    Erases (invoke to_float settings_limit x) (BudgetEnforcer.invoke settings_limit x) := by
  cases x with
  | create_session id agent_type limit =>
      exact (erases_create_session to_float settings_limit id agent_type limit).map some
  | call id c =>
      cases c with
      | record_spend amount op => exact (erases_record_spend to_float id amount op).map some
      | record_tokens tokens c op => exact (erases_record_tokens to_float id tokens c op).map some
      | check_budget => exact (erases_plain _).bind fun _ => erases_pure none
  | restore_session snapshot => exact (erases_restore_session to_float snapshot).map some
  | restore_from_history id agent_type limit history =>
      exact (erases_restore_from_history to_float id agent_type limit history).map some
  | get_session id => exact erases_plain _

/-! ## What the gauge shows -/

/-- What a gauge has for a session. -/
inductive Shown : Option BudgetSession → Option F → Prop
  | unregistered : Shown none none
  | remaining (s : BudgetSession) : Shown (some s) (some (to_float (BudgetEnforcer.remaining s)))
  | uncharged {s : BudgetSession} (h : s.cost_usd = 0) :
      Shown (some s) (some (to_float s.budget_limit_usd))

def Shows (p : Probed BudgetEnforcer (BudgetGauge F)) : Prop :=
  ∀ id : Uuid, Shown to_float (p.state.sessions id) (p.probe id.text)

variable {to_float} {p : Probed BudgetEnforcer (BudgetGauge F)} {id : Uuid} {s s' : BudgetSession}

/-- Counting tokens and noting alerts does not change what is shown. -/
theorem Shown.same {v : Option F} (h : Shown to_float (some s) v) (hcost : s'.cost_usd = s.cost_usd)
    (hlimit : s'.budget_limit_usd = s.budget_limit_usd) : Shown to_float (some s') v := by
  cases h with
  | remaining =>
      have hsame : BudgetEnforcer.remaining s' = BudgetEnforcer.remaining s := by
        rw [BudgetEnforcer.remaining, hcost, hlimit]
        rfl
      rw [← hsame]
      exact .remaining s'
  | uncharged h =>
      rw [← hlimit]
      exact .uncharged (hcost.trans h)

/-- A session is registered, and its label set. -/
theorem Shows.store (h : Shows to_float p) {v : Option F} (hs : Shown to_float (some s) v) :
    Shows to_float ⟨p.state.put id s, Function.update p.probe id.text v⟩ := by
  intro id'
  by_cases hid : id' = id
  · subst hid
    simpa using hs
  · have htext : id'.text ≠ id.text := by
      intro heq
      cases id
      cases id'
      exact hid (congrArg Uuid.mk heq)
    show Shown to_float ((p.state.put id s).sessions id')
      (Function.update p.probe id.text v id'.text)
    rw [BudgetEnforcer.put_other _ hid, Function.update_of_ne htext]
    exact h id'

theorem Shows.rewrite (h : Shows to_float p) (hs : p.state.sessions id = some s)
    (hcost : s'.cost_usd = s.cost_usd) (hlimit : s'.budget_limit_usd = s.budget_limit_usd) :
    Shows to_float ⟨p.state.put id s', p.probe⟩ := by
  have hshown : Shown to_float (some s) (p.probe id.text) := hs ▸ h id
  have hstore : Shows to_float ⟨p.state.put id s',
      Function.update p.probe id.text (p.probe id.text)⟩ := h.store (hshown.same hcost hlimit)
  rwa [Function.update_eq_self] at hstore

/-- What holds of the gauge before holds after. -/
def Stays {α : Type} (to_float : ℚ → F) (m : GBE F α) : Prop :=
  Keeps (fun p p' => Shows to_float p → Shows to_float p') m

section
variable {α β : Type}

theorem Stays.bind {m : GBE F α} {f : α → GBE F β} (hm : Stays to_float m)
    (hf : ∀ a, Stays to_float (f a)) : Stays to_float (m >>= f) :=
  Keeps.bind (fun _ _ _ hfirst hsecond h => hsecond (hfirst h)) hm hf

theorem Stays.map {m : GBE F α} (hm : Stays to_float m) (f : α → β) : Stays to_float (f <$> m) := by
  intro p h
  rw [after_map]
  exact hm p h

theorem Stays.plain {m : BE α} (hm : Keeps (fun e e' => e'.sessions = e.sessions) m) :
    Stays to_float (EState.plain m) := by
  intro p h
  obtain ⟨hsessions, hprobe⟩ := hm.plain p
  intro id
  rw [hsessions, hprobe]
  exact h id

end

/-- A method of a session that is not there raises. -/
theorem require_session_none (hs : p.state.sessions id = none) :
    ∃ x, (plain (BudgetEnforcer.require_session id) : GBE F BudgetSession) p = .error x p := by
  obtain ⟨x, hx, -⟩ := BudgetEnforcer.require_session_none hs
  exact ⟨x, plain_error hx⟩

theorem require_session_run (hs : p.state.sessions id = some s) :
    (plain (BudgetEnforcer.require_session id) : GBE F BudgetSession) p = .ok s p :=
  plain_ok (BudgetEnforcer.require_session_run hs)

theorem require_session_sessions (id : Uuid) :
    Keeps (fun e e' => e'.sessions = e.sessions) (BudgetEnforcer.require_session id) := by
  intro e
  cases hs : e.sessions id with
  | none =>
      obtain ⟨x, hx, -⟩ := BudgetEnforcer.require_session_none hs
      rw [hx]
      rfl
  | some s =>
      rw [BudgetEnforcer.require_session_run hs]
      rfl

theorem check_budget_sessions (id : Uuid) :
    Keeps (fun e e' => e'.sessions = e.sessions) (BudgetEnforcer.check_budget id) := by
  intro e
  cases hs : e.sessions id with
  | none => rw [BudgetEnforcer.check_budget_none hs]
  | some s =>
      obtain ⟨hlets, hrefuses⟩ := BudgetEnforcer.check_budget_run hs
      rcases lt_or_ge s.cost_usd s.budget_limit_usd with hlt | hle
      · rw [hlets hlt]
        rfl
      · obtain ⟨msg, hrun⟩ := hrefuses hle
        rw [hrun]
        rfl

/-- The gauge is set before a breach is raised. -/
theorem record_spend_stays (id : Uuid) (amount : ℚ) (op : Option String) :
    Stays to_float (record_spend to_float id amount op) := by
  intro p h
  unfold record_spend
  cases hs : p.state.sessions id with
  | none =>
      obtain ⟨x, hx⟩ := require_session_none hs
      rw [bind_error hx]
      exact h
  | some s =>
      rw [bind_ok (require_session_run hs)]
      by_cases hdup : BudgetEnforcer.is_duplicate_operation s op = true
      · rw [if_pos hdup]
        exact h
      · rw [if_neg hdup]
        generalize BudgetEnforcer.debited s amount op = s'
        have hset : Shows to_float ⟨p.state.put id s', Function.update p.probe id.text
            (some (to_float (BudgetEnforcer.remaining s')))⟩ := h.store (.remaining s')
        by_cases hbreach : s'.budget_limit_usd < s'.cost_usd
        · -- the alert is a second write to the session
          simp only [if_pos hbreach]
          exact hset.rewrite (BudgetEnforcer.put_self _ _ _) rfl rfl
        · simp only [if_neg hbreach]
          exact hset

theorem record_tokens_stays (id : Uuid) (tokens : ℤ) (c : ℚ) (op : Option String) :
    Stays to_float (record_tokens to_float id tokens c op) := by
  intro p h
  unfold record_tokens
  cases hs : p.state.sessions id with
  | none =>
      obtain ⟨x, hx⟩ := require_session_none hs
      rw [bind_error hx]
      exact h
  | some s =>
      rw [bind_ok (require_session_run hs)]
      by_cases hdup : BudgetEnforcer.is_duplicate_operation s op = true
      · rw [if_pos hdup]
        exact h
      · rw [if_neg hdup]
        have hcounted : Shows to_float
            ⟨p.state.put id { s with tokens_used := s.tokens_used + tokens }, p.probe⟩ :=
          h.rewrite hs rfl rfl
        by_cases hneg : tokens < 0
        · simp only [if_pos hneg]
          exact hcounted
        · simp only [if_neg hneg]
          exact record_spend_stays id (Decimal.mul tokens c) op _ hcounted

theorem replay_stays (id : Uuid) (history : List BudgetHistoryEntry) :
    Stays to_float (replay to_float id history) := by
  induction history with
  | nil => exact fun _ h => h
  | cons entry history ih => exact (record_tokens_stays _ _ _ _).bind fun _ => ih

theorem restore_from_history_stays (id : Uuid) (agent_type : String) (limit : ℚ)
    (history : List BudgetHistoryEntry) :
    Stays to_float (restore_from_history to_float id agent_type limit history) := by
  intro p h
  have hset : Shows to_float ⟨p.state.put id (BudgetEnforcer.blank id agent_type limit),
      Function.update p.probe id.text (some (to_float limit))⟩ := h.store (.uncharged rfl)
  exact ((replay_stays id history).bind fun _ => .plain (require_session_sessions id)) _ hset

/-- What one call does. -/
theorem invoke_stays (settings_limit : ℚ) (x : BudgetEnforcer.Method) :
    Stays to_float (invoke to_float settings_limit x) := by
  cases x with
  | create_session id agent_type limit =>
      refine Stays.map (fun p h => ?_) some
      exact h.store (.uncharged rfl)
  | call id c =>
      cases c with
      | record_spend amount op => exact (record_spend_stays id amount op).map some
      | record_tokens tokens c op => exact (record_tokens_stays id tokens c op).map some
      | check_budget => exact (Stays.plain (check_budget_sessions id)).bind fun _ _ h => h
  | restore_session snapshot =>
      refine Stays.map (fun p h => ?_) some
      exact h.store (.remaining (BudgetSession.deserialize snapshot))
  | restore_from_history id agent_type limit history =>
      exact (restore_from_history_stays id agent_type limit history).map some
  | get_session id => exact Stays.plain fun _ => rfl

/-- What a whole run does. -/
theorem final_shows (settings_limit : ℚ) (xs : List BudgetEnforcer.Method)
    (h : Shows to_float p) : Shows to_float (final (invoke to_float settings_limit) xs p) := by
  induction xs generalizing p with
  | nil => exact h
  | cons x xs ih => exact ih (invoke_stays settings_limit x p h)

/-- The value is positive as long as a request is let through. -/
theorem Shown.tells {e : BudgetEnforcer} {v : Option F} (hs : e.sessions id = some s)
    (h : Shown to_float (some s) v) :
    ∃ r, v = some (to_float r) ∧
      (r = BudgetEnforcer.remaining s ∨ s.cost_usd = 0 ∧ r = s.budget_limit_usd) ∧
      (r ≤ 0 ↔ ∃ msg e', BudgetEnforcer.check_budget id e =
        .error ⟨.BudgetExceededError, msg⟩ e') := by
  rw [BudgetEnforcer.check_budget_refuses_iff hs]
  cases h with
  | remaining => exact ⟨_, rfl, .inl rfl, BudgetEnforcer.remaining_nonpos_iff s⟩
  | uncharged hcost => exact ⟨_, rfl, .inr ⟨hcost, rfl⟩, by rw [hcost]⟩

/-- Before any call. -/
def fresh : Probed BudgetEnforcer (BudgetGauge F) := ⟨⟨fun _ => none, []⟩, fun _ => none⟩

/-- **The gauge tells what the next pre-call check will do.**  After any run of calls of any methods
on any sessions, exactly the registered sessions have a value.  It is the float of what the session
has left, or of its limit as long as it has not been charged; and the decimal that was converted is
positive exactly as long as `check_budget` lets the session's requests through.  The callers get
what they would get without a gauge. -/
theorem gauge_tells (to_float : ℚ → F) (settings_limit : ℚ) (xs : List BudgetEnforcer.Method) :
    outcomes (invoke to_float settings_limit) xs fresh =
      outcomes (BudgetEnforcer.invoke settings_limit) xs ⟨fun _ => none, []⟩ ∧
    (final (invoke to_float settings_limit) xs fresh).state =
      final (BudgetEnforcer.invoke settings_limit) xs ⟨fun _ => none, []⟩ ∧
    ∀ id : Uuid,
      ((final (invoke to_float settings_limit) xs fresh).state.sessions id = none ∧
        (final (invoke to_float settings_limit) xs fresh).probe id.text = none) ∨
      ∃ s r, (final (invoke to_float settings_limit) xs fresh).state.sessions id = some s ∧
        (final (invoke to_float settings_limit) xs fresh).probe id.text = some (to_float r) ∧
        (r = BudgetEnforcer.remaining s ∨ s.cost_usd = 0 ∧ r = s.budget_limit_usd) ∧
        (r ≤ 0 ↔ ∃ msg e', BudgetEnforcer.check_budget id
          (final (invoke to_float settings_limit) xs fresh).state =
            .error ⟨.BudgetExceededError, msg⟩ e') := by
  obtain ⟨houts, hfinal⟩ := Erases.run (erases_invoke to_float settings_limit) xs
    (fresh : Probed BudgetEnforcer (BudgetGauge F))
  refine ⟨houts, hfinal, ?_⟩
  intro id
  have hfresh : Shows to_float fresh := fun _ => .unregistered
  have hshown := final_shows settings_limit xs hfresh id
  cases hs : (final (invoke to_float settings_limit) xs fresh).state.sessions id with
  | none =>
      rw [hs] at hshown
      generalize (final (invoke to_float settings_limit) xs fresh).probe id.text = v at hshown
      cases hshown
      exact .inl ⟨rfl, rfl⟩
  | some s =>
      rw [hs] at hshown
      obtain ⟨r, hv, hr, hcheck⟩ := hshown.tells hs
      exact .inr ⟨s, r, rfl, hv, hr, hcheck⟩

end Gauged

end AegisOs
