/-
# `AegisOs.ControlPlane.MeteringRuns` — the totals of a run

A worker on which runs of `Orchestrator.run` are interleaved with executions of the
budget activities, with any inputs, and with sessions being created.  The completions
of a run are kept in a list; one that comes with an operation id is listed once,
however often it is delivered.

`Exact` compares the totals of the list with what the worker has counted.  A step
keeps it if it is `Clean`, which is a condition on the step's input and the state it
finds (`Clean.exact`), and if the ledgers handed to the activities hold nothing but
completions of the list (`Threaded`), then only if it is (`clean_of_exact`).
-/
import AegisOs.ControlPlane.TokenMetering

namespace AegisOs.Metered

open Lib Lib.EState

variable {Tok ι : Type}

/-! ## Completions -/

/-- A completion that is debited to a session. -/
structure Completion where
  session_id : Uuid
  agent_type : String
  tokens_used : ℤ
  operation_id : Option String
  deriving DecidableEq

/-- What happens on the worker. -/
inductive Event (Tok ι : Type) where
  | run (ev : Orchestrator.RunEvent Tok ι)
  | create_session (settings_limit : ℚ) (session_id : Uuid) (agent_type : String)
      (budget_limit_usd : Option ℚ)
  | budget_pre_check (inp : BudgetPreCheckInput)
  | budget_record_spend (info : ActivityInfo) (inp : BudgetRecordInput)
  | elsewhere

section
variable (O : Orchestrator Tok) (rq : ι → OrchestratorRequest Tok)

/-- What a run debits for an answer. -/
def answered (rq : OrchestratorRequest Tok) : (q : OrchCall Tok) → Except Exc q.Answer →
    Option Completion
  | .complete _, .ok resp => (Orchestrator.budget_session O rq).map fun id =>
      ⟨id, rq.agent_type, (resp : LLMResponse).tokens_used, none⟩
  | _, _ => none

/-- What an execution of `BudgetRecordSpend` debits. -/
def handed (info : ActivityInfo) (inp : BudgetRecordInput) : Option Completion :=
  inp.budget_session_id.val.map fun id =>
    ⟨id, inp.agent_type, inp.tokens_used, some (AegisActivities.operation_id info)⟩

/-- The completion an event comes with. -/
def completed : Event Tok ι → Option Completion
  | .run (.answer i q r) => answered O (rq i) q r
  | .budget_record_spend info inp => handed info inp
  | _ => none

end

/-- List a completion, unless it is listed and comes again. -/
def listed (cs : List Completion) : Option Completion → List Completion
  | none => cs
  | some c => if c.operation_id.isSome ∧ c ∈ cs then cs else c :: cs

/-- The tokens of the completions that are `P`. -/
def total (P : Completion → Prop) [DecidablePred P] (cs : List Completion) : ℤ :=
  ((cs.filter P).map (·.tokens_used)).sum

/-! ## Runs -/

/-- The worker: its state with the runs on it, and the counter. -/
structure Worker (Tok ι : Type) where
  pool : Orchestrator.RunPool Tok ι
  tokens_consumed : TokenCounter

namespace Worker

def probed (M : Worker Tok ι) : Probed (World Tok) TokenCounter := ⟨M.pool.shared, M.tokens_consumed⟩

def set (M : Worker Tok ι) (p : Probed (World Tok) TokenCounter) : Worker Tok ι :=
  ⟨{ M.pool with shared := p.state }, p.probe⟩

/-- What the session `id` has counted. -/
def tokens_used (M : Worker Tok ι) (id : Uuid) : ℤ := tokens_used_of M.pool.shared.budget_enforcer id

end Worker

variable [DecidableEq ι]

inductive Step : Worker Tok ι → Event Tok ι → Worker Tok ι → Prop
  | run {M : Worker Tok ι} {ev : Orchestrator.RunEvent Tok ι} {P : Orchestrator.RunPool Tok ι} :
      Co.Pool.Step M.pool ev P → Step M (.run ev) { M with pool := P }
  | create_session {M : Worker Tok ι} {settings_limit : ℚ} {id : Uuid} {agent_type : String}
      {limit : Option ℚ} :
      Step M (.create_session settings_limit id agent_type limit) (M.set (after (plain
        (AegisOs.on_budget (BudgetEnforcer.create_session settings_limit id agent_type limit))
          M.probed)))
  | budget_pre_check {M : Worker Tok ι} {inp : BudgetPreCheckInput} :
      Step M (.budget_pre_check inp) (M.set (after (budget_pre_check inp M.probed)))
  | budget_record_spend {M : Worker Tok ι} {info : ActivityInfo} {inp : BudgetRecordInput} :
      Step M (.budget_record_spend info inp) (M.set (after (budget_record_spend info inp M.probed)))
  /-- Whatever else the worker does. -/
  | elsewhere {M : Worker Tok ι} {w : World Tok} :
      Orchestrator.SameBudget M.pool.shared w → Step M .elsewhere (M.set ⟨w, M.tokens_consumed⟩)

/-- `Run O rq G M₀ cs M`: from `M₀` to `M` by steps that are all `G`, with the completions `cs`. -/
inductive Run (O : Orchestrator Tok) (rq : ι → OrchestratorRequest Tok)
    (G : Worker Tok ι → List Completion → Event Tok ι → Worker Tok ι → Prop) (M₀ : Worker Tok ι) :
    List Completion → Worker Tok ι → Prop
  | start : Run O rq G M₀ [] M₀
  | step {cs : List Completion} {M M' : Worker Tok ι} {ev : Event Tok ι} : Run O rq G M₀ cs M →
      Step M ev M' → G M cs ev M' → Run O rq G M₀ (listed cs (completed O rq ev)) M'

/-- The worker before any of the runs is started. -/
def start (O : Orchestrator Tok) (rq : ι → OrchestratorRequest Tok) (w : World Tok)
    (counter : TokenCounter) : Worker Tok ι :=
  ⟨Orchestrator.poolStart O rq w, counter⟩

omit [DecidableEq ι] in
/-- The totals are right: for each session, and for each agent type since the counter was
`counter`. -/
structure Exact (counter : TokenCounter) (cs : List Completion) (M : Worker Tok ι) : Prop where
  sessions : ∀ id, M.tokens_used id = total (fun c => c.session_id = id) cs
  counters : ∀ a, M.tokens_consumed a - counter a = total (fun c => c.agent_type = a) cs

/-- What a step may meet for the totals to stay right. -/
def Clean (O : Orchestrator Tok) (rq : ι → OrchestratorRequest Tok) (M : Worker Tok ι)
    (cs : List Completion) : Event Tok ι → Prop
  | .run ev => ∀ c, completed O rq (.run ev) = some c → c.tokens_used = 0
  | .create_session _ id _ _ => M.tokens_used id = 0
  | .budget_pre_check inp => ∀ id l,
      Restores inp.task_id inp.budget_session_id inp.budget_limit_usd id l →
        M.tokens_used id = 0 ∧ Silent l inp.history
  | .budget_record_spend info inp =>
      (∀ id l, Restores inp.task_id inp.budget_session_id inp.budget_limit_usd id l →
        M.tokens_used id = 0 ∧ Silent l inp.history) ∧
      ∀ c, handed info inp = some c → c ∉ cs → c.tokens_used = 0 ∨
        0 < c.tokens_used ∧ ∃ l, Restores inp.task_id inp.budget_session_id inp.budget_limit_usd
          c.session_id l ∧ Debits info inp l
  | .elsewhere => True

/-- The ledgers are what was recorded before. -/
def Threaded (cs : List Completion) : Event Tok ι → Prop
  | .budget_pre_check inp => ∀ id, inp.budget_session_id.val = some id → ∀ entry ∈ inp.history,
      ∃ a, ⟨id, a, entry.tokens_used, some entry.operation_id⟩ ∈ cs
  | .budget_record_spend _ inp => ∀ id, inp.budget_session_id.val = some id →
      ∀ entry ∈ inp.history, ∃ a, ⟨id, a, entry.tokens_used, some entry.operation_id⟩ ∈ cs
  | _ => True

/-! ## Totals -/

section
variable {P : Completion → Prop} [DecidablePred P] {cs : List Completion} {c : Completion}

theorem total_cons (P : Completion → Prop) [DecidablePred P] (c : Completion)
    (cs : List Completion) :
    total P (c :: cs) = (if P c then c.tokens_used else 0) + total P cs := by
  unfold total
  by_cases hc : P c
  · rw [List.filter_cons_of_pos (by simpa using hc), if_pos hc]
    rfl
  · rw [List.filter_cons_of_neg (by simpa using hc), if_neg hc, zero_add]

theorem total_nonneg (hn : ∀ c ∈ cs, 0 ≤ c.tokens_used) : 0 ≤ total P cs := by
  refine List.sum_nonneg fun x hx => ?_
  obtain ⟨c, hc, rfl⟩ := List.mem_map.mp hx
  exact hn c (List.mem_filter.mp hc).1

/-- Where a total of counts is 0, each of them is. -/
theorem zero_of_total (hn : ∀ c ∈ cs, 0 ≤ c.tokens_used) (h0 : total P cs = 0) :
    ∀ c ∈ cs, P c → c.tokens_used = 0 := by
  induction cs with
  | nil => exact fun c hc => absurd hc List.not_mem_nil
  | cons d cs ih =>
      have hd := hn d List.mem_cons_self
      have hcs : ∀ c ∈ cs, 0 ≤ c.tokens_used := fun c hc => hn c (List.mem_cons_of_mem _ hc)
      have hrest : 0 ≤ total P cs := total_nonneg hcs
      rw [total_cons] at h0
      have hhead : 0 ≤ if P d then d.tokens_used else 0 := by
        split
        · exact hd
        · exact le_rfl
      intro c hc hP
      rcases List.mem_cons.mp hc with rfl | hc
      · rw [if_pos hP] at h0 hhead
        omega
      · exact ih hcs (by omega) c hc hP

theorem listed_known (hop : c.operation_id.isSome = true) (hmem : c ∈ cs) :
    listed cs (some c) = cs := if_pos ⟨hop, hmem⟩

theorem listed_new (hmem : c ∉ cs) : listed cs (some c) = c :: cs := if_neg fun h => hmem h.2

theorem listed_again (hop : c.operation_id = none) : listed cs (some c) = c :: cs := by
  refine if_neg fun h => ?_
  rw [hop] at h
  exact absurd h.1 Bool.false_ne_true

/-- A completion of an activity counts when it is new. -/
theorem total_listed (hop : c.operation_id.isSome = true) (P : Completion → Prop) [DecidablePred P] :
    total P (listed cs (some c)) =
      total P cs + if P c then (if c ∈ cs then 0 else c.tokens_used) else 0 := by
  by_cases hmem : c ∈ cs
  · rw [listed_known hop hmem, if_pos hmem, ite_self, add_zero]
  · rw [listed_new hmem, if_neg hmem, total_cons, add_comm]

theorem total_listed_zero {oc : Option Completion}
    (h : ∀ c, oc = some c → c.tokens_used = 0) (P : Completion → Prop) [DecidablePred P] :
    total P (listed cs oc) = total P cs := by
  cases oc with
  | none => rfl
  | some c =>
      show total P (if c.operation_id.isSome = true ∧ c ∈ cs then cs else c :: cs) = _
      split
      · rfl
      · rw [total_cons, h c rfl, ite_self, zero_add]

theorem nonneg_listed {oc : Option Completion} (hn : ∀ c ∈ cs, 0 ≤ c.tokens_used)
    (h : ∀ c, oc = some c → c ∉ cs → 0 ≤ c.tokens_used) :
    ∀ c ∈ listed cs oc, 0 ≤ c.tokens_used := by
  cases oc with
  | none => exact hn
  | some c =>
      show ∀ d ∈ (if c.operation_id.isSome = true ∧ c ∈ cs then cs else c :: cs), 0 ≤ d.tokens_used
      split
      · exact hn
      · intro d hd
        rcases List.mem_cons.mp hd with rfl | hd
        · by_cases hmem : d ∈ cs
          · exact hn d hmem
          · exact h d rfl hmem
        · exact hn d hd

end

theorem handed_some {info : ActivityInfo} {inp : BudgetRecordInput} {c : Completion}
    (h : handed info inp = some c) :
    inp.budget_session_id.val = some c.session_id ∧ c.agent_type = inp.agent_type ∧
      c.tokens_used = inp.tokens_used ∧ c.operation_id.isSome = true := by
  obtain ⟨id, hid, rfl⟩ := Option.map_eq_some_iff.mp h
  exact ⟨hid, rfl, rfl, rfl⟩

omit [DecidableEq ι] in
/-- The runs of the orchestrator have no operation ids. -/
theorem run_operation_id {O : Orchestrator Tok} {rq : ι → OrchestratorRequest Tok}
    {ev : Orchestrator.RunEvent Tok ι} {c : Completion} (h : completed O rq (.run ev) = some c) :
    c.operation_id = none := by
  cases ev with
  | start i => cases h
  | answer i q r =>
      cases q with
      | evaluate _ _ => cases h
      | complete req =>
          cases r with
          | error e => cases h
          | ok resp =>
              obtain ⟨id, -, rfl⟩ := Option.map_eq_some_iff.mp h
              rfl

/-! ## One step -/

theorem Stands.tokens_used {id : Uuid} {a : String} {k n : ℤ}
    {p₀ p : Probed BudgetEnforcer TokenCounter} (h : Stands id a k n p₀ p) (id' : Uuid) :
    tokens_used_of p.state id' = if id' = id then k else tokens_used_of p₀.state id' := by
  unfold tokens_used_of
  rw [h.session]
  by_cases hid : id' = id
  · subst hid
    rw [Function.update_self, if_pos rfl]
    rfl
  · rw [Function.update_of_ne hid, if_neg hid]

theorem Restocked.counter {id : Uuid} {a : String} {m : ℤ}
    {p₀ p : Probed BudgetEnforcer TokenCounter} (h : Restocked id a m p₀ p) (a' : String) :
    p.probe a' = p₀.probe a' + if a' = a then m else 0 := by
  rw [Stands.counter h]
  by_cases ha : a' = a
  · subst ha
    rw [Function.update_self, if_pos rfl]
  · rw [Function.update_of_ne ha, if_neg ha, add_zero]

section
variable {counter : TokenCounter} {cs cs' : List Completion} {M M' : Worker Tok ι}

omit [DecidableEq ι] in
/-- From a session that has counted nothing, a restore and a debit count what the list gains. -/
theorem Exact.restocked {c : Completion} {m : ℤ} (h : Exact counter cs M)
    (h0 : M.tokens_used c.session_id = 0)
    (hm : Restocked c.session_id c.agent_type m (budget M.probed) (budget M'.probed))
    (htotal : ∀ (P : Completion → Prop) [DecidablePred P],
      total P cs' = total P cs + if P c then m else 0) : Exact counter cs' M' where
  sessions := by
    intro id
    rw [htotal, ← h.sessions]
    refine (Stands.tokens_used hm id).trans ?_
    by_cases hid : id = c.session_id
    · subst hid
      rw [if_pos rfl, if_pos rfl, h0, zero_add]
    · rw [if_neg hid, if_neg (Ne.symm hid), add_zero]
      rfl
  counters := by
    intro a
    rw [htotal, ← h.counters]
    have hcounter := hm.counter a
    by_cases ha : a = c.agent_type
    · subst ha
      rw [if_pos rfl] at hcounter ⊢
      show M'.probed.probe _ - _ = M.probed.probe _ - _ + m
      have hcounter' : M'.probed.probe c.agent_type = M.probed.probe c.agent_type + m := hcounter
      omega
    · rw [if_neg ha] at hcounter
      rw [if_neg (Ne.symm ha), add_zero]
      have hcounter' : M'.tokens_consumed a = M.tokens_consumed a + 0 := hcounter
      omega

omit [DecidableEq ι] in
theorem uncounted_tokens_used (M M' : Worker Tok ι) (hu : Uncounted M.probed M'.probed) (id : Uuid) :
    M'.tokens_used id = M.tokens_used id := by
  show tokens_used_of M'.probed.state.budget_enforcer id = tokens_used_of M.probed.state.budget_enforcer id
  unfold tokens_used_of
  rw [hu.1]

omit [DecidableEq ι] in
/-- Where nothing is counted, the list may not gain anything either. -/
theorem Exact.uncounted (h : Exact counter cs M) (hu : Uncounted M.probed M'.probed)
    (htotal : ∀ (P : Completion → Prop) [DecidablePred P], total P cs' = total P cs) :
    Exact counter cs' M' where
  sessions := fun id => by rw [uncounted_tokens_used M M' hu, htotal, h.sessions]
  counters := fun a => by
    rw [htotal, ← h.counters]
    exact congrArg (fun c : TokenCounter => c a - counter a) hu.2

/-! ### The runs of the orchestrator -/

/-- The stages of `Orchestrator.run` count no tokens. -/
theorem countsFrame : Orchestrator.Frame (@CountsNothing Tok) := by
  have hweak : ∀ {α : Type} {m : WM Tok α}, Keeps Orchestrator.SameBudget m → Keeps CountsNothing m :=
    fun h => h.mono fun _ _ => countsNothing_of_sameBudget
  have F := @Orchestrator.budgetFrame Tok
  exact
    { refl := fun _ => rfl
      trans := fun _ _ _ h₁ h₂ => h₂.trans h₁
      audit := fun w w' h => countsNothing_of_sameBudget (F.audit w w' h)
      validate_token := fun E token => hweak (F.validate_token E token)
      is_expired := fun claims => hweak (F.is_expired claims)
      issue_token := fun E a => hweak (F.issue_token E a)
      generate_dpop_key_pair := hweak F.generate_dpop_key_pair
      issue_dpop_proof := fun E pem jwk method url token nonce =>
        hweak (F.issue_dpop_proof E pem jwk method url token nonce)
      check_budget := fun id => hweak (F.check_budget id)
      loop := fun m => hweak (F.loop m) }

omit [DecidableEq ι] in
theorem start_framed (O : Orchestrator Tok) (rq : ι → OrchestratorRequest Tok) (w : World Tok)
    (counter : TokenCounter) : (start O rq w counter).pool.Framed CountsNothing := by
  refine Co.Pool.framed_fresh (F := CountsNothing) (fun _ => rfl) (fun i => countsFrame.run ?_ O (rq i)) w
  exact fun id amount => Keeps.zoom (record_spend_sameTokens id amount none) fun _ _ h => h

theorem Step.framed {ev : Event Tok ι} (h : Step M ev M') (hP : M.pool.Framed CountsNothing) :
    M'.pool.Framed CountsNothing := by
  cases h with
  | run hs => exact (hP.step hs).2
  | _ => exact hP.shared _

/-! ### What a step leaves -/

omit [DecidableEq ι] in
/-- A new session counts nothing. -/
theorem create_session_tokens_used (limit : ℚ) (id : Uuid) (a : String) (l : Option ℚ) (id' : Uuid) :
    (M.set (after (plain (AegisOs.on_budget (BudgetEnforcer.create_session limit id a l))
      M.probed))).tokens_used id' = if id' = id then 0 else M.tokens_used id' := by
  have hmeter : ∀ (e : BudgetEnforcer) (s : BudgetSession) (event : AuditEvent),
      meter ((e.put id s).log event) = meter (e.put id s) := fun _ _ _ => rfl
  show ((meter ((M.pool.shared.budget_enforcer.put id _).log _)) id').elim 0 Prod.snd = _
  rw [hmeter, meter_put]
  by_cases hid : id' = id
  · subst hid
    rw [Function.update_self, if_pos rfl]
    rfl
  · rw [Function.update_of_ne hid, if_neg hid]
    rfl

end

section
variable {O : Orchestrator Tok} {rq : ι → OrchestratorRequest Tok} {counter : TokenCounter}
  {cs : List Completion} {M M' : Worker Tok ι} {ev : Event Tok ι}

/-- Recording the completion `c` counts it, and no ledger with it. -/
structure RecordsOnce (M : Worker Tok ι) (cs : List Completion) (info : ActivityInfo)
    (inp : BudgetRecordInput) (c : Completion) : Prop where
  restores : ∀ l, Restores inp.task_id inp.budget_session_id inp.budget_limit_usd c.session_id l →
    M.tokens_used c.session_id = 0 ∧ Silent l inp.history
  debits : c ∉ cs → c.tokens_used = 0 ∨ 0 < c.tokens_used ∧ ∃ l, Restores inp.task_id
    inp.budget_session_id inp.budget_limit_usd c.session_id l ∧ Debits info inp l

section
variable {info : ActivityInfo} {inp : BudgetRecordInput} {c : Completion}

omit [DecidableEq ι] in
theorem Clean.recordsOnce (hc : Clean O rq M cs (.budget_record_spend info inp))
    (hcomp : handed info inp = some c) : RecordsOnce M cs info inp c :=
  ⟨hc.1 c.session_id, hc.2 c hcomp⟩

omit [DecidableEq ι] in
/-- An execution that cannot restore the session of its completion counts nothing. -/
theorem uncounted_of_unrestored (hcomp : handed info inp = some c)
    (hr : ¬∃ l, Restores inp.task_id inp.budget_session_id inp.budget_limit_usd c.session_id l) :
    Uncounted M.probed (after (budget_record_spend info inp M.probed)) := by
  refine budget_record_spend_unread info fun id l hread => hr ⟨l, ?_⟩
  have hid := hread.session.symm.trans (handed_some hcomp).1
  rw [Option.some.injEq] at hid
  rwa [← hid]

namespace RecordsOnce

omit [DecidableEq ι] in
theorem nonneg (h : RecordsOnce M cs info inp c) (hn : ∀ c ∈ cs, 0 ≤ c.tokens_used) :
    0 ≤ c.tokens_used := by
  by_cases hmem : c ∈ cs
  · exact hn c hmem
  · rcases h.debits hmem with hzero | ⟨hpos, -⟩
    · exact hzero.ge
    · exact hpos.le

omit [DecidableEq ι] in
/-- What is counted after a restore is what the list gains. -/
theorem count (h : RecordsOnce M cs info inp c) (hex : Exact counter cs M)
    (hn : ∀ c ∈ cs, 0 ≤ c.tokens_used) (ht : c.tokens_used = inp.tokens_used) {l : ℚ}
    (hr : Restores inp.task_id inp.budget_session_id inp.budget_limit_usd c.session_id l) :
    (if Debits info inp l then inp.tokens_used else 0) = if c ∈ cs then 0 else c.tokens_used := by
  rw [← ht]
  by_cases hmem : c ∈ cs
  · -- listed by a session that has counted nothing
    have hold : c.tokens_used = 0 :=
      zero_of_total hn ((hex.sessions _).symm.trans (h.restores l hr).1) c hmem rfl
    rw [if_pos hmem, hold, ite_self]
  · rw [if_neg hmem]
    rcases h.debits hmem with hzero | ⟨-, l', hr', hdebits⟩
    · rw [hzero, ite_self]
    · have hl := hr'.limit_usd.symm.trans hr.limit_usd
      rw [Option.some.injEq] at hl
      subst hl
      rw [if_pos hdebits]

omit [DecidableEq ι] in
theorem exact (h : RecordsOnce M cs info inp c) (hex : Exact counter cs M)
    (hn : ∀ c ∈ cs, 0 ≤ c.tokens_used) (hcomp : handed info inp = some c) :
    Exact counter (listed cs (some c))
      (M.set (after (budget_record_spend info inp M.probed))) := by
  obtain ⟨-, ha, ht, hop⟩ := handed_some hcomp
  by_cases hr : ∃ l, Restores inp.task_id inp.budget_session_id inp.budget_limit_usd c.session_id l
  · obtain ⟨l, hr⟩ := hr
    obtain ⟨h0, hsilent⟩ := h.restores l hr
    have ht0 : 0 ≤ inp.tokens_used := by
      rw [← ht]
      exact h.nonneg hn
    have hm := budget_record_spend_silent info hr hsilent ht0 (p := M.probed)
    rw [h.count hex hn ht hr, ← ha] at hm
    exact hex.restocked h0 hm fun P _ => total_listed hop P
  · have hzero : (if c ∈ cs then 0 else c.tokens_used) = 0 := by
      split
      · rfl
      · rename_i hmem
        rcases h.debits hmem with hzero | ⟨-, l, hread, -⟩
        · exact hzero
        · exact absurd ⟨l, hread⟩ hr
    refine hex.uncounted (uncounted_of_unrestored hcomp hr) fun P _ => ?_
    rw [total_listed hop, hzero, ite_self, add_zero]

end RecordsOnce

end

/-- **A clean step keeps the totals right.** -/
theorem Clean.exact (hP : M.pool.Framed CountsNothing) (h : Exact counter cs M)
    (hn : ∀ c ∈ cs, 0 ≤ c.tokens_used) (hc : Clean O rq M cs ev) (hs : Step M ev M') :
    Exact counter (listed cs (completed O rq ev)) M' := by
  cases hs with
  | @run ev P hstep =>
      have hframe := (hP.step hstep).1
      exact h.uncounted ⟨hframe, rfl⟩ fun P _ => total_listed_zero hc P
  | @create_session limit id a l =>
      refine ⟨fun id' => ?_, h.counters⟩
      rw [create_session_tokens_used]
      split
      · rename_i hid
        subst hid
        exact (show M.tokens_used id' = 0 from hc).symm.trans (h.sessions id')
      · exact h.sessions id'
  | @budget_pre_check inp =>
      by_cases hr : ∃ id l, Restores inp.task_id inp.budget_session_id inp.budget_limit_usd id l
      · obtain ⟨id, l, hr⟩ := hr
        obtain ⟨h0, hsilent⟩ := hc id l hr
        have hm := budget_pre_check_restocked hr
          (restore_from_history_silent_restocked id inp.agent_type hsilent (budget M.probed))
        refine h.restocked (c := ⟨id, inp.agent_type, 0, none⟩) h0 hm fun P _ => ?_
        rw [ite_self, add_zero]
        rfl
      · have hu : Uncounted M.probed (after (budget_pre_check inp M.probed)) :=
          budget_pre_check_unread fun id l hread => hr ⟨id, l, hread⟩
        exact h.uncounted hu fun _ _ => rfl
  | @budget_record_spend info inp =>
      show Exact counter (listed cs (handed info inp)) _
      cases hcomp : handed info inp with
      | none =>
          have hu : Uncounted M.probed (after (budget_record_spend info inp M.probed)) := by
            refine budget_record_spend_unread info fun id l hread => ?_
            rw [handed, hread.session] at hcomp
            cases hcomp
          exact h.uncounted hu fun _ _ => rfl
      | some c => exact (Clean.recordsOnce hc hcomp).exact h hn hcomp
  | @elsewhere w hw => exact h.uncounted ⟨countsNothing_of_sameBudget hw, rfl⟩ fun _ _ => rfl

omit [DecidableEq ι] in
theorem Clean.nonneg (hn : ∀ c ∈ cs, 0 ≤ c.tokens_used) (hc : Clean O rq M cs ev) :
    ∀ c ∈ listed cs (completed O rq ev), 0 ≤ c.tokens_used := by
  refine nonneg_listed hn fun c hcomp hmem => ?_
  cases ev with
  | run ev => exact (hc c hcomp).ge
  | budget_record_spend info inp => exact (Clean.recordsOnce hc hcomp).nonneg hn
  | _ => cases hcomp

/-! ### Only a clean one does -/

/-- Ledgers of recorded completions have no negative tokens, ... -/
theorem nonneg_of_threaded (hn : ∀ c ∈ cs, 0 ≤ c.tokens_used) {id : Uuid}
    {history : List BudgetHistoryEntry}
    (ht : ∀ entry ∈ history, ∃ a, ⟨id, a, entry.tokens_used, some entry.operation_id⟩ ∈ cs) :
    ∀ entry ∈ history, 0 ≤ entry.tokens_used := by
  intro entry hentry
  obtain ⟨a, hmem⟩ := ht entry hentry
  exact hn _ hmem

/-- ... and none at all where the session has used none. -/
theorem silent_of_threaded (hn : ∀ c ∈ cs, 0 ≤ c.tokens_used) {id : Uuid}
    (h0 : total (fun c => c.session_id = id) cs = 0) {l : ℚ} {history : List BudgetHistoryEntry}
    (ht : ∀ entry ∈ history, ∃ a, ⟨id, a, entry.tokens_used, some entry.operation_id⟩ ∈ cs) :
    Silent l history := by
  refine silent_of_zero fun entry hentry => ?_
  obtain ⟨a, hmem⟩ := ht entry hentry
  exact zero_of_total hn h0 _ hmem rfl

omit [DecidableEq ι] in
/-- The session had counted nothing if its two counts are right after a restore. -/
theorem untouched_of_restocked {c : Completion} {m : ℤ} (h : Exact counter cs M)
    {cs' : List Completion} {k : ℤ} (h' : Exact counter cs' M')
    (htotal : ∀ (P : Completion → Prop) [DecidablePred P],
      total P cs' = total P cs + if P c then k else 0)
    (hm : Restocked c.session_id c.agent_type m (budget M.probed) (budget M'.probed)) :
    m = k ∧ M.tokens_used c.session_id = 0 := by
  have hcounter : M'.tokens_consumed c.agent_type = M.tokens_consumed c.agent_type + m := by
    have := hm.counter c.agent_type
    rwa [if_pos rfl] at this
  have hsession : M'.tokens_used c.session_id = m := by
    have := Stands.tokens_used hm c.session_id
    rwa [if_pos rfl] at this
  have hgain := h'.counters c.agent_type
  have hold := h.counters c.agent_type
  rw [htotal, if_pos rfl, ← hold, hcounter] at hgain
  have hkm : m = k := by omega
  refine ⟨hkm, ?_⟩
  have htokens := h'.sessions c.session_id
  rw [htotal, if_pos rfl, ← h.sessions, hsession] at htokens
  omega

omit [DecidableEq ι] in
/-- A completion with a negative number of tokens makes the counter wrong. -/
theorem nonneg_of_exact {info : ActivityInfo} {inp : BudgetRecordInput} {c : Completion}
    (h : Exact counter cs M) (hn : ∀ c ∈ cs, 0 ≤ c.tokens_used)
    (h' : Exact counter (listed cs (some c))
      (M.set (after (budget_record_spend info inp M.probed)))) : 0 ≤ c.tokens_used := by
  by_cases hmem : c ∈ cs
  · exact hn c hmem
  · have hgrows := budget_record_spend_grows info inp M.probed c.agent_type
    have hold := h.counters c.agent_type
    have hgain := h'.counters c.agent_type
    rw [listed_new hmem, total_cons, if_pos rfl, ← hold] at hgain
    have hgrows' : M.tokens_consumed c.agent_type ≤
        (M.set (after (budget_record_spend info inp M.probed))).tokens_consumed c.agent_type := hgrows
    omega

omit [DecidableEq ι] in
/-- An execution of `BudgetRecordSpend` after which the totals are right was clean. -/
theorem record_clean_of_exact {info : ActivityInfo} {inp : BudgetRecordInput} {c : Completion}
    (h : Exact counter cs M) (hn : ∀ c ∈ cs, 0 ≤ c.tokens_used)
    (ht : Threaded cs (.budget_record_spend info inp : Event Tok ι))
    (hcomp : handed info inp = some c)
    (h' : Exact counter (listed cs (some c))
      (M.set (after (budget_record_spend info inp M.probed)))) :
    RecordsOnce M cs info inp c := by
  have hnonneg := nonneg_of_exact h hn h'
  obtain ⟨hid, ha, htokens, hop⟩ := handed_some hcomp
  have ht0 : 0 ≤ inp.tokens_used := by rwa [← htokens]
  have hthread := ht _ hid
  -- a restore finds a session without tokens
  have hrestores : ∀ l, Restores inp.task_id inp.budget_session_id inp.budget_limit_usd
      c.session_id l → M.tokens_used c.session_id = 0 ∧ Silent l inp.history := by
    intro l hr
    obtain ⟨m, hm⟩ := budget_record_spend_restocked info hr (nonneg_of_threaded hn hthread) ht0
      (p := M.probed)
    rw [← ha] at hm
    obtain ⟨-, h0⟩ := untouched_of_restocked h h' (fun P _ => total_listed hop P) hm
    exact ⟨h0, silent_of_threaded hn ((h.sessions _).symm.trans h0) hthread⟩
  refine ⟨hrestores, fun hmem => ?_⟩
  by_cases hzero : c.tokens_used = 0
  · exact .inl hzero
  refine .inr ⟨by omega, ?_⟩
  by_contra hdebits
  by_cases hr : ∃ l, Restores inp.task_id inp.budget_session_id inp.budget_limit_usd c.session_id l
  · -- the ledger has no tokens, so the execution has counted its own
    obtain ⟨l, hr⟩ := hr
    have hm := budget_record_spend_silent info hr (hrestores l hr).2 ht0 (p := M.probed)
    rw [if_neg fun hd => hdebits ⟨l, hr, hd⟩, ← ha] at hm
    obtain ⟨hcount, -⟩ := untouched_of_restocked h h' (fun P _ => total_listed hop P) hm
    rw [if_neg hmem] at hcount
    exact hzero hcount.symm
  · have hsame : (M.set (after (budget_record_spend info inp M.probed))).tokens_used c.session_id =
        M.tokens_used c.session_id :=
      uncounted_tokens_used M (M.set _) (uncounted_of_unrestored hcomp hr) _
    have hgain := h'.sessions c.session_id
    rw [hsame, listed_new hmem, total_cons, if_pos rfl, h.sessions] at hgain
    exact hzero (by omega)

/-- **With ledgers of recorded completions, only a clean step keeps the totals right.** -/
theorem clean_of_exact (hP : M.pool.Framed CountsNothing) (h : Exact counter cs M)
    (hn : ∀ c ∈ cs, 0 ≤ c.tokens_used) (ht : Threaded cs ev) (hs : Step M ev M')
    (h' : Exact counter (listed cs (completed O rq ev)) M') : Clean O rq M cs ev := by
  cases hs with
  | @run ev P hstep =>
      intro c hcomp
      have hop : c.operation_id = none := run_operation_id hcomp
      have hsame := uncounted_tokens_used M { M with pool := P } ⟨(hP.step hstep).1, rfl⟩ c.session_id
      have hgain := h'.sessions c.session_id
      rw [hcomp, listed_again hop, total_cons, if_pos rfl, hsame, h.sessions] at hgain
      omega
  | @create_session limit id a l =>
      have hgain := h'.sessions id
      rw [create_session_tokens_used, if_pos rfl] at hgain
      exact (h.sessions id).trans hgain.symm
  | @budget_pre_check inp =>
      intro id l hr
      have hthread := ht id hr.session
      obtain ⟨m, -, hm⟩ := restore_from_history_restocked id inp.agent_type l
        (nonneg_of_threaded hn hthread) (budget M.probed)
      obtain ⟨-, h0⟩ := untouched_of_restocked (c := ⟨id, inp.agent_type, 0, none⟩) (k := 0) h h'
        (fun P _ => by rw [ite_self, add_zero]; rfl) (budget_pre_check_restocked hr hm)
      exact ⟨h0, silent_of_threaded hn ((h.sessions id).symm.trans h0) hthread⟩
  | @budget_record_spend info inp =>
      have hclean : ∀ c, handed info inp = some c → RecordsOnce M cs info inp c := fun c hcomp =>
        record_clean_of_exact h hn ht hcomp (by rwa [← hcomp])
      refine ⟨fun id l hr => ?_, fun c hcomp => (hclean c hcomp).debits⟩
      have hcomp : handed info inp =
          some ⟨id, inp.agent_type, inp.tokens_used, some (AegisActivities.operation_id info)⟩ := by
        rw [handed, hr.session]
        rfl
      exact (hclean _ hcomp).restores l hr
  | elsewhere hw => trivial

end

/-! ## Whole runs -/

section
variable {O : Orchestrator Tok} {rq : ι → OrchestratorRequest Tok} {counter : TokenCounter}
  {w : World Tok} {cs : List Completion} {M : Worker Tok ι}

/-- What holds after clean steps. -/
structure Sound (counter : TokenCounter) (cs : List Completion) (M : Worker Tok ι) : Prop where
  framed : M.pool.Framed CountsNothing
  exact : Exact counter cs M
  nonneg : ∀ c ∈ cs, 0 ≤ c.tokens_used

omit [DecidableEq ι] in
theorem sound_start (O : Orchestrator Tok) (rq : ι → OrchestratorRequest Tok)
    (counter : TokenCounter) (h0 : ∀ id, tokens_used_of w.budget_enforcer id = 0) :
    Sound counter [] (start O rq w counter) where
  framed := start_framed O rq w counter
  exact := ⟨h0, fun a => sub_self (counter a)⟩
  nonneg := fun _ hc => absurd hc List.not_mem_nil

theorem Sound.step {M' : Worker Tok ι} {ev : Event Tok ι} (h : Sound counter cs M)
    (hc : Clean O rq M cs ev) (hs : Step M ev M') :
    Sound counter (listed cs (completed O rq ev)) M' where
  framed := hs.framed h.framed
  exact := Clean.exact h.framed h.exact h.nonneg hc hs
  nonneg := Clean.nonneg h.nonneg hc

theorem sound_of_run (h0 : ∀ id, tokens_used_of w.budget_enforcer id = 0)
    (hrun : Run O rq (fun M cs ev _ => Clean O rq M cs ev) (start O rq w counter) cs M) :
    Sound counter cs M := by
  induction hrun with
  | start => exact sound_start O rq counter h0
  | step _ hs hc ih => exact ih.step hc hs

/-- **Metering.**  From sessions that have counted nothing, a run of clean steps counts the tokens of
its completions, for each session and for each agent type.  A run on ledgers of recorded
completions that is right after each step is one of clean steps. -/
theorem metering_exact (O : Orchestrator Tok) (rq : ι → OrchestratorRequest Tok)
    (counter : TokenCounter) (h0 : ∀ id, tokens_used_of w.budget_enforcer id = 0) :
    (∀ cs M, Run O rq (fun M cs ev _ => Clean O rq M cs ev) (start O rq w counter) cs M →
      Exact counter cs M) ∧
    ∀ cs M, Run O rq (fun _ cs ev M' => Threaded cs ev ∧
        Exact counter (listed cs (completed O rq ev)) M') (start O rq w counter) cs M →
      Run O rq (fun M cs ev _ => Clean O rq M cs ev) (start O rq w counter) cs M := by
  refine ⟨fun cs M hrun => (sound_of_run h0 hrun).exact, fun cs M hrun => ?_⟩
  induction hrun with
  | start => exact .start
  | step _ hs hg ih =>
      obtain ⟨ht, hexact⟩ := hg
      have hsound := sound_of_run h0 ih
      exact ih.step hs (clean_of_exact hsound.framed hsound.exact hsound.nonneg ht hs hexact)

/-- A run of the pool, with nothing else on the worker. -/
theorem Run.of_pool {P P' : Orchestrator.RunPool Tok ι} {evs : List (Orchestrator.RunEvent Tok ι)}
    (h : Co.Pool.Run P evs P') (counter : TokenCounter) :
    Run O rq (fun _ _ _ _ => True) ⟨P, counter⟩
      (evs.foldl (fun cs ev => listed cs (completed O rq (.run ev))) []) ⟨P', counter⟩ := by
  induction h with
  | refl => exact .start
  | snoc _ hs ih =>
      rw [List.foldl_append]
      exact ih.step (.run hs) trivial

end

/-! ### Ten tokens -/

/-- A fresh worker, with one run that has not been started. -/
def meteredStart : Worker SymToken Unit :=
  start Orchestrator.plainOrchestrator (fun _ => Orchestrator.plainRequest) Orchestrator.plainWorld
    fun _ => 0

theorem plainWorld_tokens_used (id : Uuid) :
    tokens_used_of Orchestrator.plainWorld.budget_enforcer id = 0 := rfl

/-- The check before the call of the adapter, with the ledger it is handed. -/
def checkedBefore (history : List BudgetHistoryEntry) : BudgetPreCheckInput where
  task_id := "task-0"
  agent_type := "general"
  budget_session_id := ⟨"budget-0", some ⟨"budget-0"⟩⟩
  budget_limit_usd := ⟨"1.00", some 1⟩
  history := history

def firstDelivery : ActivityInfo := ⟨some "wf-0", "7", 1⟩

/-- Ten tokens, checked and recorded: the step to come is clean. -/
theorem first_spend_clean {M : Worker SymToken Unit} (h0 : ∀ id, M.tokens_used id = 0) :
    Clean Orchestrator.plainOrchestrator (fun _ => Orchestrator.plainRequest) M []
        (.budget_pre_check (checkedBefore [])) ∧
      Clean Orchestrator.plainOrchestrator (fun _ => Orchestrator.plainRequest) M []
        (.budget_record_spend firstDelivery AegisActivities.firstSpend.inp) := by
  have hsilent : ∀ l, Silent l [] := fun l => silent_of_zero fun e he => absurd he List.not_mem_nil
  refine ⟨fun id l _ => ⟨h0 id, hsilent l⟩, fun id l _ => ⟨h0 id, hsilent l⟩, ?_⟩
  intro c hc _
  obtain rfl : (⟨⟨"budget-0"⟩, "general", 10, some "wf-0:7"⟩ : Completion) = c := Option.some.inj hc
  exact .inr ⟨by decide, 1, ⟨by decide, rfl, rfl⟩, ⟨.inl rfl, rfl, by decide⟩⟩

/-- Ten tokens are counted as ten. -/
theorem first_spend_exact : ∃ M, ∃ c : Completion, c.tokens_used = 10 ∧
    Run Orchestrator.plainOrchestrator (fun _ => Orchestrator.plainRequest)
      (fun M cs ev _ => Clean Orchestrator.plainOrchestrator
        (fun _ => Orchestrator.plainRequest) M cs ev) meteredStart [c] M ∧
    Exact (fun _ => 0) [c] M := by
  have hmetered := (metering_exact Orchestrator.plainOrchestrator
    (fun _ : Unit => Orchestrator.plainRequest) (fun _ => 0) plainWorld_tokens_used).1
  have hstart : ∀ id, meteredStart.tokens_used id = 0 := plainWorld_tokens_used
  have hchecked : Run Orchestrator.plainOrchestrator (fun _ => Orchestrator.plainRequest)
      (fun M cs ev _ => Clean Orchestrator.plainOrchestrator
        (fun _ => Orchestrator.plainRequest) M cs ev) meteredStart []
      (meteredStart.set (after (budget_pre_check (checkedBefore []) meteredStart.probed))) :=
    .step .start .budget_pre_check (first_spend_clean hstart).1
  have h0 := (hmetered _ _ hchecked).sessions
  have hrecorded := hchecked.step .budget_record_spend (first_spend_clean h0).2
  exact ⟨_, _, rfl, hrecorded, hmetered _ _ hrecorded⟩

/-- A run of the orchestrator that uses seven tokens. -/
def sevenTokens : List (Orchestrator.RunEvent SymToken Unit) × Orchestrator.RunPool SymToken Unit :=
  (Orchestrator.poolStart Orchestrator.plainOrchestrator (fun _ => Orchestrator.plainRequest)
    Orchestrator.plainWorld).turns Orchestrator.plainAnswers [(), (), ()]

/-- The ten tokens recorded, and the ledger that is returned handed to the next check. -/
def checkedAgain : Worker SymToken Unit :=
  let recorded := meteredStart.set
    (after (budget_record_spend firstDelivery AegisActivities.firstSpend.inp meteredStart.probed))
  recorded.set
    (after (budget_pre_check (checkedBefore AegisActivities.firstResult.history) recorded.probed))

/-- Seven tokens of a run are not counted, and ten of an activity are counted twice. -/
theorem tokens_miscounted :
    (∃ cs, ∃ M : Worker SymToken Unit,
      Run Orchestrator.plainOrchestrator (fun _ => Orchestrator.plainRequest)
        (fun _ _ _ _ => True) meteredStart cs M ∧
      total (fun c => c.session_id = ⟨"budget-0"⟩) cs = 7 ∧ M.tokens_used ⟨"budget-0"⟩ = 0 ∧
      ¬Exact (fun _ => 0) cs M) ∧
    ∃ cs, ∃ M : Worker SymToken Unit,
      Run Orchestrator.plainOrchestrator (fun _ => Orchestrator.plainRequest)
        (fun _ _ _ _ => True) meteredStart cs M ∧
      total (fun c => c.agent_type = "general") cs = 10 ∧ M.tokens_consumed "general" = 20 ∧
      ¬Exact (fun _ => 0) cs M := by
  constructor
  · have hrun : Co.Pool.Run meteredStart.pool ([] ++ sevenTokens.1) sevenTokens.2 :=
      Co.Pool.Run.turns _ (.refl _)
    have htotal : total (fun c => c.session_id = ⟨"budget-0"⟩)
        (([] ++ sevenTokens.1).foldl (fun cs ev => listed cs (completed
          Orchestrator.plainOrchestrator (fun _ => Orchestrator.plainRequest) (.run ev))) []) = 7 := by
      decide +kernel
    have hused : Worker.tokens_used ⟨sevenTokens.2, fun _ => 0⟩ ⟨"budget-0"⟩ = 0 := by
      decide +kernel
    refine ⟨_, _, Run.of_pool hrun _, htotal, hused, fun h => ?_⟩
    have heq := h.sessions ⟨"budget-0"⟩
    rw [htotal, hused] at heq
    exact absurd heq (by decide)
  · have htotal : total (fun c => c.agent_type = "general")
        (listed (listed [] (handed firstDelivery AegisActivities.firstSpend.inp)) none) = 10 := by
      decide +kernel
    have hcounted : checkedAgain.tokens_consumed "general" = 20 := by decide +kernel
    refine ⟨_, checkedAgain, .step (.step .start .budget_record_spend trivial) .budget_pre_check
      trivial, htotal, hcounted, fun h => ?_⟩
    have heq := h.counters "general"
    rw [hcounted] at heq
    exact absurd (heq.trans htotal) (by decide)

end AegisOs.Metered
