/-
# `AegisOs.ControlPlane.TokenLife` — the token a durable run presents

`JITTokenIssue` issues a run's token under the rotation key of its task, before
the approval gate.  The first attempt of `LLMInvoke` presents that token; a
retry presents one it has issued itself, and so does a protected execution.
Nobody looks at the token again before the adapter is called.

The invariant of a run has three phases, each kept by what the others do as
long as they do not issue under the task's key (`Others`):

    `Idle`     up to `JITTokenIssue`: the identifiers to come are new
    `Waiting`  from there to the first attempt: the task's key holds the token
    `Retried`  from there on: the task's key holds some token

So at the adapter call the token is never a revoked one, and whether it is
accepted is a matter of the clock alone: of how long ago it was issued
(`presented_token_accepted_iff`).
-/
import AegisOs.ControlPlane.TokenIssue
import AegisOs.ControlPlane.DurableCap

namespace AegisOs.Durable

open Lib Lib.EState AgentTaskWorkflow

variable {Tok ι : Type}

/-! ## The phases of a run -/

/-- The rotation key of a task's token. -/
def llm_key (inp : WorkflowInput) : String := "llm:" ++ inp.task_id

/-- What may happen on the worker while the run is suspended: anything, except that tokens are issued
under keys other than the task's, and none is revoked by name. -/
def Others (inp : WorkflowInput) (s s' : Worker Tok ι) : Prop :=
  MgrEvolves { k | k ≠ llm_key inp } s.world s'.world

/-- Any answer, a failure included, at any time. -/
def anyAnswer (q : DurableCall Tok) (_ : Except Exc q.Answer) (_ : Worker Tok ι) : Prop := True

/-- An execution of `JITTokenIssue` has reported the token. -/
def Reported (h : Log Tok) (token : Tok) : Prop :=
  ∃ jin n, ∃ r : JITTokenResult Tok, r.token = token ∧
    (⟨.report (.JITTokenIssue jin) n (.ok r), .ok ()⟩ : Σ q : DurableCall Tok, Except Exc q.Answer) ∈ h

/-- Whether the execution that follows these calls is a retry. -/
def isRetry (h : Log Tok) : Bool :=
  match h.getLast? with
  | some ⟨.backoff _ _, _⟩ => true
  | _ => false

theorem isRetry_backoff (h : Log Tok) (q : WorkflowCall Tok) (n : ℕ) (r : Except Exc Unit) :
    isRetry (h ++ [⟨.backoff q n, r⟩]) = true := by
  simp [isRetry]

theorem isRetry_schedule (h : Log Tok) (q : WorkflowCall Tok) (r : Except Exc String) :
    isRetry (h ++ [⟨.schedule q, r⟩]) = false := by
  simp [isRetry]

/-- A condition on the log and the manager that is not lost while the run is suspended. -/
structure Stable (inp : WorkflowInput) (I : Log Tok → SessionManager Tok → Prop) : Prop where
  log : ∀ {h m} x, I h m → I (h ++ [x]) m
  others : ∀ {h m m'}, Evolves { k | k ≠ llm_key inp } m m' → I h m → I h m'

/-- Up to `JITTokenIssue`. -/
def Idle (_ : Log Tok) (m : SessionManager Tok) : Prop := FreshIds m

/-- The run has its token. -/
def Waiting (E : Env Tok) (inp : WorkflowInput) (token : Tok) (h : Log Tok)
    (m : SessionManager Tok) : Prop :=
  FreshIds m ∧ (∃ jti t, TokenOf E token jti t ∧ Held (llm_key inp) jti m) ∧ Reported h token

/-- `LLMInvoke` has been attempted, or is about to be. -/
def Retried (inp : WorkflowInput) (_ : Log Tok) (m : SessionManager Tok) : Prop :=
  FreshIds m ∧ ∃ jti, m.rotation_index (llm_key inp) = some jti

section
variable {E : Env Tok} {inp : WorkflowInput} {token : Tok}

theorem stable_true : Stable inp (fun (_ : Log Tok) _ => True) := ⟨fun _ h => h, fun _ h => h⟩

theorem stable_idle : Stable inp (@Idle Tok) where
  log := fun _ h => h
  others := fun he hf => FreshIds.evolves hf he

theorem stable_waiting : Stable inp (Waiting E inp token) where
  log := by
    rintro h m x ⟨hf, hheld, jin, n, r, hr, hmem⟩
    exact ⟨hf, hheld, jin, n, r, hr, List.mem_append_left _ hmem⟩
  others := by
    rintro h m m' he ⟨hf, ⟨jti, t, htoken, hheld⟩, hreported⟩
    exact ⟨hf.evolves he, ⟨jti, t, htoken, hheld.evolves hf he fun hne => hne rfl⟩, hreported⟩

theorem stable_retried : Stable inp (@Retried Tok inp) where
  log := fun _ h => h
  others := by
    rintro h m m' he ⟨hf, jti, hj⟩
    exact ⟨hf.evolves he, he.indexed hj⟩

theorem Waiting.retried {h : Log Tok} {m : SessionManager Tok} (hw : Waiting E inp token h m) :
    Retried inp h m := by
  obtain ⟨hf, ⟨jti, t, _, hheld⟩, _⟩ := hw
  exact ⟨hf, jti, hheld.current⟩

theorem others_of_reflTransGen {s s' : Worker Tok ι}
    (h : Relation.ReflTransGen (Others inp) s s') : Others inp s s' := by
  induction h with
  | refl => exact Evolves.refl _
  | tail _ hs ih => exact Evolves.trans ih hs

/-- One await: the condition holds of the longer log. -/
theorem Stable.await {I : Log Tok → SessionManager Tok → Prop} (S : Stable inp I)
    {h : Log Tok} {s s' : Worker Tok ι} {q : DurableCall Tok} {r : Except Exc q.Answer}
    (hi : I h s.world.session_mgr) (he : Co.awaitEnv (Others inp) anyAnswer q s r s') :
    I (h ++ [⟨q, r⟩]) s'.world.session_mgr :=
  S.log _ (S.others (others_of_reflTransGen he.1) hi)

end

/-! ## The assertions -/

section
variable (E : Env Tok) (inp : WorkflowInput)

/-- What is presented to the adapter: a token that is held, and either issued in this segment or the
one that was reported. -/
def Presents (h : Log Tok) (s₀ : Worker Tok ι) (req : LLMRequest Tok) (s : Worker Tok ι) : Prop :=
  ∃ key jti t, TokenOf E req.aegis_token jti t ∧ Held key jti s.world.session_mgr ∧
    match own_issue inp.protect_outbound_request (isRetry h) with
    | some k => t = s₀.world.session_mgr.reading k
    | none => Reported h req.aegis_token

/-- The assertion at an await. -/
def LifeAwait (h : Log Tok) (s₀ : Worker Tok ι) (q : DurableCall Tok) (s : Worker Tok ι) : Prop :=
  match q with
  | .io (.complete req) => Presents E inp h s₀ req s
  | .report (.JITTokenIssue _) _ (.ok r) =>
      ∃ jti, TokenOf E (r : JITTokenResult Tok).token jti (s₀.world.session_mgr.reading 0)
  | _ => True

/-- A program of the system, started in a segment that began in `s₀`. -/
abbrev LifeSafe {α : Type} (D : Log Tok → Worker Tok ι → α → Worker Tok ι → Prop)
    (X : Log Tok → Worker Tok ι → Exc → Worker Tok ι → Prop) (h : Log Tok) (s₀ : Worker Tok ι)
    (p : Durable Tok ι α) (s : Worker Tok ι) : Prop :=
  Co.Safe (Co.awaitEnv (Others inp) anyAnswer) (LifeAwait E inp) D X h s₀ p s

end

/-! ## The activities -/

section
variable {A : AegisActivities Tok} {inp : WorkflowInput} {workflow_id : Option String} {h : Log Tok}
  {s₀ s : Worker Tok ι}

/-- Executions of the activity keep every stable condition, and never call the adapter. -/
def Plain (A : AegisActivities Tok) (inp : WorkflowInput) (ι : Type) (q : WorkflowCall Tok) : Prop :=
  ∀ info (I : Log Tok → SessionManager Tok → Prop), Stable inp I →
    ∀ h (s₀ s : Worker Tok ι), I h s.world.session_mgr →
      LifeSafe A.env inp (fun h _ _ s => I h s.world.session_mgr)
        (fun h _ _ s => I h s.world.session_mgr) h s₀ (on_world (perform A info q)) s

/-- Code of an activity that leaves the manager alone. -/
theorem lift_same {α : Type} {m : WM Tok α} (hm : Keeps SameMgr m)
    {I : Log Tok → SessionManager Tok → Prop}
    {D : Log Tok → Worker Tok ι → α → Worker Tok ι → Prop}
    {X : Log Tok → Worker Tok ι → Exc → Worker Tok ι → Prop} (hi : I h s.world.session_mgr)
    (hD : ∀ a s', I h s'.world.session_mgr → D h s₀ a s')
    (hX : ∀ e s', I h s'.world.session_mgr → X h s₀ e s') :
    LifeSafe A.env inp D X h s₀ (on_world (Co.lift m)) s := by
  refine Co.Safe.handle_lift ?_ ?_
  · intro a w hrun
    refine hD a _ ?_
    show I h w.session_mgr
    rw [hm.ok hrun]
    exact hi
  · intro e w hrun
    refine hX e _ ?_
    show I h w.session_mgr
    rw [hm.error hrun]
    exact hi

/-- Code of an activity that awaits. -/
theorem on_world_io {q : OrchCall Tok} {D : Log Tok → Worker Tok ι → q.Answer → Worker Tok ι → Prop}
    {X : Log Tok → Worker Tok ι → Exc → Worker Tok ι → Prop}
    (hc : LifeAwait A.env inp h s₀ (.io q) s)
    (hok : ∀ a s', Co.awaitEnv (Others inp) anyAnswer (.io q) s (.ok a) s' →
      D (h ++ [⟨.io q, .ok a⟩]) s' a s')
    (herr : ∀ e s', Co.awaitEnv (Others inp) anyAnswer (.io q) s (.error e) s' →
      X (h ++ [⟨.io q, .error e⟩]) s' e s') :
    LifeSafe A.env inp D X h s₀ (on_world (Co.call q)) s :=
  Co.Safe.handle_call (Co.Safe.call (q := DurableCall.io q) hc hok herr)

theorem plain_lift {q : WorkflowCall Tok} {m : ActivityInfo → WM Tok q.Answer}
    (hq : ∀ info, perform A info q = Co.lift (m info)) (hm : ∀ info, Keeps SameMgr (m info)) :
    Plain A inp ι q := by
  intro info I S h s₀ s hi
  rw [hq info]
  exact lift_same (hm info) hi (fun _ _ hi' => hi') fun _ _ hi' => hi'

theorem plain_policy_eval (pin : PolicyEvalInput) : Plain A inp ι (.PolicyEval pin) := by
  have B := (@sameMgr_bystander Tok).onlooker
  intro info I S h s₀ s hi
  refine Co.Safe.handle_bind (lift_same (B.require_task_id _ _ _) hi ?_ fun _ _ hi' => hi')
  intro task_id s₁ hi₁
  refine Co.Safe.handle_bind (Co.Safe.handle_tryCatch
    (on_world_io (q := .evaluate _ _) trivial ?_ ?_))
  · intro result s₂ hs₂
    exact lift_same (B.policy_decision A pin task_id result) (S.await hi₁ hs₂)
      (fun _ _ hi' => hi') fun _ _ hi' => hi'
  · intro e s₂ hs₂
    refine lift_same (B.opa_unavailable task_id pin.agent_type e) (S.await hi₁ hs₂) ?_
      fun _ _ hi' => hi'
    intro result s₃ hi₃
    exact lift_same (B.policy_decision A pin task_id result) hi₃ (fun _ _ hi' => hi') fun _ _ hi' => hi'

/-- An activity of the first kind, with its attempts. -/
theorem execute_activity_plain {q : WorkflowCall Tok} (hq : Plain A inp ι q)
    (hreport : ∀ (h : Log Tok) (s₀ s : Worker Tok ι) n r, LifeAwait A.env inp h s₀ (.report q n r) s)
    {I : Log Tok → SessionManager Tok → Prop} (S : Stable inp I)
    {D : Log Tok → Worker Tok ι → q.Answer → Worker Tok ι → Prop}
    {X : Log Tok → Worker Tok ι → Exc → Worker Tok ι → Prop} (hi : I h s.world.session_mgr)
    (hD : ∀ h s₀ a s, I h s.world.session_mgr → D h s₀ a s)
    (hX : ∀ h s₀ e s, I h s.world.session_mgr → X h s₀ e s) :
    LifeSafe A.env inp D X h s₀ (execute_activity A workflow_id q) s := by
  have L : Loop (Co.awaitEnv (Others inp) anyAnswer) (LifeAwait A.env inp) D X
      (fun _ h s => I h s.world.session_mgr) (fun _ h s => I h s.world.session_mgr)
      (fun _ h _ s => I h s.world.session_mgr) :=
    { failed := fun _ _ => hreport _ _ _ _ _
      failed_next := fun hi hs => S.await hi hs
      returned := fun _ => hreport _ _ _ _ _
      returned_next := fun hi hs => hD _ _ _ _ (S.await hi hs)
      lost := fun hi hs => hX _ _ _ _ (S.await hi hs)
      backoff := fun _ => trivial
      backoff_next := fun hi hs => S.await hi hs
      backoff_lost := fun hi hs => hX _ _ _ _ (S.await hi hs)
      raised := fun _ hi => hX _ _ _ _ hi }
  refine execute_activity_safe L ?_ trivial ?_ ?_
  · exact fun activity_id n h s hi => hq _ I S h s s hi
  · exact fun activity_id s' hs => S.await hi hs
  · exact fun e s' hs => hX _ _ _ _ (S.await hi hs)

/-- `JITTokenIssue`: when it returns, the run has its token. -/
theorem execute_jit_token_issue (hJ : A.env.jose.Encodes) {jin : JITTokenInput}
    (hkey : jin.rotation_key = some (llm_key inp))
    {D : Log Tok → Worker Tok ι → JITTokenResult Tok → Worker Tok ι → Prop}
    {X : Log Tok → Worker Tok ι → Exc → Worker Tok ι → Prop} (hi : Idle h s.world.session_mgr)
    (hD : ∀ h s₀ r s, Waiting A.env inp r.token h s.world.session_mgr → D h s₀ r s)
    (hX : ∀ h s₀ e s, X h s₀ e s) :
    LifeSafe A.env inp D X h s₀ (execute_activity A workflow_id (.JITTokenIssue jin)) s := by
  have S : Stable inp (@Idle Tok) := stable_idle
  have L : Loop (q := .JITTokenIssue jin) (Co.awaitEnv (Others inp) anyAnswer) (LifeAwait A.env inp)
      D X (fun _ h s => Idle h s.world.session_mgr) (fun _ h s => Idle h s.world.session_mgr)
      (fun r _ s₀ s => FreshIds s.world.session_mgr ∧
        ∃ jti, TokenOf A.env (r : JITTokenResult Tok).token jti (s₀.world.session_mgr.reading 0) ∧
          Held (llm_key inp) jti s.world.session_mgr) :=
    { failed := fun _ _ => trivial
      failed_next := fun hi hs => S.await hi hs
      returned := by
        rintro h s₀ s n r ⟨_, jti, htoken, _⟩
        exact ⟨jti, htoken⟩
      returned_next := by
        rintro h s₀ s n r s' ⟨hf, jti, htoken, hheld⟩ hs
        have he : Evolves { k | k ≠ llm_key inp } s.world.session_mgr s'.world.session_mgr :=
          others_of_reflTransGen hs.1
        refine hD _ _ _ _ ⟨hf.evolves he, ⟨jti, _, htoken, hheld.evolves hf he fun hne => hne rfl⟩, ?_⟩
        exact ⟨jin, n, r, rfl, List.mem_append_right _ (List.mem_singleton_self _)⟩
      lost := fun _ _ => hX _ _ _ _
      backoff := fun _ => trivial
      backoff_next := fun hi hs => S.await hi hs
      backoff_lost := fun _ _ => hX _ _ _ _
      raised := fun _ _ => hX _ _ _ _ }
  refine execute_activity_safe L ?_ trivial ?_ ?_
  · intro activity_id n h s hi
    refine Co.Safe.handle_lift ?_ ?_
    · exact fun r w hrun => jit_token_issue_ok hJ hkey hi hrun
    · exact fun e w hrun => FreshIds.evolves hi ((mgrEvolves_issuing.jit_token_issue jin).error hrun)
  · exact fun activity_id s' hs => S.await hi hs
  · exact fun e s' _ => hX _ _ _ _

/-- One execution of `LLMInvoke`: what it presents, and what a failure leaves. -/
theorem llm_invoke_life (hJ : A.env.jose.Encodes) {li : LLMInvokeInput Tok} {info : ActivityInfo}
    (hkey : li.rotation_key = some (llm_key inp))
    (hprotect : li.protect_outbound_request = inp.protect_outbound_request)
    (hretry : isRetry h = decide (1 < info.attempt)) (hi : Retried inp h s.world.session_mgr)
    (hfirst : ¬1 < info.attempt → Waiting A.env inp li.token h s.world.session_mgr) :
    LifeSafe A.env inp (fun _ _ _ _ => True) (fun h _ _ s => Retried inp h s.world.session_mgr) h s
      (on_world (perform A info (.LLMInvoke li))) s := by
  have S : Stable inp (@Retried Tok inp) := stable_retried
  have B := (@sameMgr_bystander Tok).onlooker
  -- the manager is still the one the segment began with when the credentials are made
  refine Co.Safe.handle_bind (lift_same (I := fun _ m => m = s.world.session_mgr)
    (B.require_task_id _ _ _) rfl ?_ ?_)
  · intro task_id s₁ hs₁
    refine Co.Safe.handle_bind (Co.Safe.handle_lift ?_ ?_)
    · rintro ⟨token, proof⟩ w hrun
      have he : MgrEvolves Set.univ s₁.world w := (mgrEvolves_issuing.llm_credentials info li task_id).ok hrun
      have hi₁ : Retried inp h s₁.world.session_mgr := by
        rw [hs₁]
        exact hi
      have hi₂ : Retried inp h w.session_mgr := ⟨hi₁.1.evolves he, he.indexed hi₁.2.choose_spec⟩
      have hpresents : Presents A.env inp h s (AegisActivities.llm_request li token proof)
          { s₁ with world := w } := by
        have hcred := llm_credentials_ok hJ hkey hi₁.1 hi₁.2.choose_spec hrun
        unfold Presents
        rw [hretry, ← hprotect]
        cases hown : own_issue li.protect_outbound_request (decide (1 < info.attempt)) with
        | some k =>
            rw [hown] at hcred
            obtain ⟨key, jti, htoken, hheld⟩ := hcred
            rw [hs₁] at htoken
            exact ⟨key, jti, _, htoken, hheld, rfl⟩
        | none =>
            rw [hown] at hcred
            obtain ⟨htok, hmgr⟩ := hcred
            -- only an unprotected first attempt issues nothing
            have hfirst' : ¬1 < info.attempt := by
              intro hlt
              rw [decide_eq_true hlt] at hown
              cases hp : li.protect_outbound_request <;> rw [hp] at hown <;> cases hown
            obtain ⟨_, ⟨jti, t, htoken, hheld⟩, hreported⟩ := hfirst hfirst'
            refine ⟨llm_key inp, jti, t, htok ▸ htoken, ?_, htok ▸ hreported⟩
            show Held _ jti w.session_mgr
            rw [hmgr, hs₁]
            exact hheld
      refine Co.Safe.handle_bind (on_world_io (q := .complete _) hpresents ?_ ?_)
      · intro response s₂ hs₂
        exact Co.Safe.handle_bind (lift_same (I := Retried inp) (B.log _ rfl) (S.await hi₂ hs₂)
          (fun _ _ _ => trivial) fun _ _ hi' => hi')
      · exact fun e s₂ hs₂ => S.await hi₂ hs₂
    · intro e w hrun
      have he : MgrEvolves Set.univ s₁.world w := (mgrEvolves_issuing.llm_credentials info li task_id).error hrun
      have hi₁ : Retried inp h s₁.world.session_mgr := by
        rw [hs₁]
        exact hi
      exact ⟨hi₁.1.evolves he, he.indexed hi₁.2.choose_spec⟩
  · intro e s₁ hs₁
    show Retried inp h s₁.world.session_mgr
    rw [hs₁]
    exact hi

/-- `LLMInvoke`: the first attempt has the token that was reported, the others issue their own. -/
theorem execute_llm_invoke (hJ : A.env.jose.Encodes) {li : LLMInvokeInput Tok}
    (hkey : li.rotation_key = some (llm_key inp))
    (hprotect : li.protect_outbound_request = inp.protect_outbound_request)
    {D : Log Tok → Worker Tok ι → LLMInvokeResult → Worker Tok ι → Prop}
    {X : Log Tok → Worker Tok ι → Exc → Worker Tok ι → Prop}
    (hi : Waiting A.env inp li.token h s.world.session_mgr) (hD : ∀ h s₀ a s, D h s₀ a s)
    (hX : ∀ h s₀ e s, X h s₀ e s) :
    LifeSafe A.env inp D X h s₀ (execute_activity A workflow_id (.LLMInvoke li)) s := by
  have S : Stable inp (@Retried Tok inp) := stable_retried
  have L : Loop (q := .LLMInvoke li) (Co.awaitEnv (Others inp) anyAnswer) (LifeAwait A.env inp) D X
      (fun n h s => 1 ≤ n ∧ isRetry h = decide (1 < n) ∧ Retried inp h s.world.session_mgr ∧
        (¬1 < n → Waiting A.env inp li.token h s.world.session_mgr))
      (fun n h s => 1 ≤ n ∧ Retried inp h s.world.session_mgr) (fun _ _ _ _ => True) :=
    { failed := fun _ _ => trivial
      failed_next := fun hi hs => ⟨hi.1, S.await hi.2 hs⟩
      returned := fun _ => trivial
      returned_next := fun _ _ => hD _ _ _ _
      lost := fun _ _ => hX _ _ _ _
      backoff := fun _ => trivial
      backoff_next := by
        rintro h s n s' ⟨hn, hi⟩ hs
        have hlt : 1 < n + 1 := by omega
        exact ⟨Nat.le_of_lt hlt, (isRetry_backoff _ _ _ _).trans (decide_eq_true hlt).symm, S.await hi hs,
          fun hnot => absurd hlt hnot⟩
      backoff_lost := fun _ _ => hX _ _ _ _
      raised := fun _ _ => hX _ _ _ _ }
  refine execute_activity_safe L ?_ trivial ?_ ?_
  · rintro activity_id n h s ⟨hn, hretry, hi, hfirst⟩
    exact (llm_invoke_life hJ hkey hprotect hretry hi hfirst).mono (fun _ _ _ _ hc => hc)
      (fun _ _ _ _ _ => trivial) fun _ _ _ _ hi' => ⟨hn, hi'⟩
  · intro activity_id s' hs
    have hw := stable_waiting.await hi hs
    exact ⟨le_rfl, isRetry_schedule _ _ _, hw.retried, fun _ => hw⟩
  · exact fun e s' _ => hX _ _ _ _

/-! ## One run -/

variable [DecidableEq ι] {i : ι}

/-- A program of the workflow; nothing is asserted where it raises. -/
abbrev FlowLife (A : AegisActivities Tok) (workflow_id : Option String) (inp : WorkflowInput) (i : ι)
    {α : Type} (D : Log Tok → Worker Tok ι → α → Worker Tok ι → Prop) (h : Log Tok)
    (s₀ : Worker Tok ι) (p : Flow Tok α) (s : Worker Tok ι) : Prop :=
  LifeSafe A.env inp D (fun _ _ _ _ => True) h s₀ (on_flow A workflow_id i p) s

variable {I : Log Tok → SessionManager Tok → Prop}

theorem set_life {D : Log Tok → Worker Tok ι → Unit → Worker Tok ι → Prop}
    (f : AgentTaskWorkflow → AgentTaskWorkflow) (hi : I h s.world.session_mgr)
    (hD : ∀ s', I h s'.world.session_mgr → D h s₀ () s') :
    FlowLife A workflow_id inp i D h s₀ (set f) s := by
  refine Co.Safe.handle_lift ?_ ?_
  · exact fun _ _ _ => hD _ hi
  · intro e t hrun
    cases hrun

theorem self_life {D : Log Tok → Worker Tok ι → AgentTaskWorkflow → Worker Tok ι → Prop}
    (hi : I h s.world.session_mgr) (hD : ∀ w s', I h s'.world.session_mgr → D h s₀ w s') :
    FlowLife A workflow_id inp i D h s₀ self s := by
  refine Co.Safe.handle_lift ?_ ?_
  · exact fun _ _ _ => hD _ _ hi
  · intro e t hrun
    cases hrun

/-- An activity of the first kind, awaited by the workflow. -/
theorem execute_life {q : WorkflowCall Tok} (S : Stable inp I) (hq : Plain A inp ι q)
    (hact : (carry_out A workflow_id q : Durable Tok ι q.Answer) = execute_activity A workflow_id q)
    (hreport : ∀ (h : Log Tok) (s₀ s : Worker Tok ι) n r, LifeAwait A.env inp h s₀ (.report q n r) s)
    {D : Log Tok → Worker Tok ι → q.Answer → Worker Tok ι → Prop} (hi : I h s.world.session_mgr)
    (hD : ∀ h s₀ a s, I h s.world.session_mgr → D h s₀ a s) :
    FlowLife A workflow_id inp i D h s₀ (execute q) s := by
  refine execute_safe ?_
  rw [hact]
  exact execute_activity_plain hq hreport S hi hD fun _ _ _ _ _ => trivial

theorem audit_life (S : Stable inp I) {D : Log Tok → Worker Tok ι → Unit → Worker Tok ι → Prop}
    (audit : WorkflowAuditInput) (hi : I h s.world.session_mgr)
    (hD : ∀ h s₀ a s, I h s.world.session_mgr → D h s₀ a s) :
    FlowLife A workflow_id inp i D h s₀ (execute (.WorkflowAudit audit)) s :=
  execute_life (q := .WorkflowAudit audit) S
    (plain_lift (fun _ => rfl) fun _ => sameMgr_bystander.record_event audit) rfl
    (fun _ _ _ _ _ => trivial) hi hD

theorem before_gate_life (hJ : A.env.jose.Encodes) (hi : Idle h s.world.session_mgr)
    {D : Log Tok → Worker Tok ι → PrePIIScrubResult × PolicyEvalResult × JITTokenResult Tok →
      Worker Tok ι → Prop}
    (hD : ∀ h s₀ scrub policy r s, Waiting A.env inp r.token h s.world.session_mgr →
      D h s₀ (scrub, policy, r) s) :
    FlowLife A workflow_id inp i D h s₀ (before_gate inp) s := by
  have S : Stable inp (@Idle Tok) := stable_idle
  refine Co.Safe.handle_bind (set_life (I := Idle) _ hi fun s₁ hi₁ => ?_)
  refine Co.Safe.handle_bind (execute_life (q := .PrePIIScrub inp) S
    (plain_lift (fun _ => rfl) fun _ => sameMgr_bystander.pre_pii_scrub A inp) rfl
    (fun _ _ _ _ _ => trivial) hi₁ ?_)
  intro h₂ s₂ scrub s₃ hi₂
  refine Co.Safe.handle_bind (execute_life (q := .PolicyEval _) S (plain_policy_eval _) rfl
    (fun _ _ _ _ _ => trivial) hi₂ ?_)
  intro h₃ s₄ policy s₅ hi₃
  refine Co.Safe.handle_bind (execute_safe (q := WorkflowCall.JITTokenIssue _)
    (execute_jit_token_issue hJ rfl hi₃ ?_ fun _ _ _ _ => trivial))
  exact fun h₄ s₆ r s₇ hw => hD h₄ s₆ scrub policy r s₇ hw

theorem wait_for_signal_life (S : Stable inp I)
    {D : Log Tok → Worker Tok ι → Bool → Worker Tok ι → Prop} (hi : I h s.world.session_mgr)
    (hD : ∀ h s₀ a s, I h s.world.session_mgr → D h s₀ a s) :
    FlowLife A workflow_id inp i D h s₀ (wait_for_signal inp) s := by
  refine Co.Safe.handle_tryCatch (Co.Safe.handle_bind (execute_safe
    (q := WorkflowCall.wait_condition inp.approval_timeout_seconds)
    (Co.Safe.call (q := DurableCall.wait_condition inp.approval_timeout_seconds) trivial ?_ ?_)))
  · exact fun _ s' hs => hD _ _ false _ (S.await hi hs)
  · intro e s' hs
    by_cases he : e.kind = .TimeoutError
    · rw [if_pos he]
      exact hD _ _ true _ (S.await hi hs)
    · rw [if_neg he]
      exact Co.Safe.throw trivial

theorem await_pending_approval_life (S : Stable inp I)
    {D : Log Tok → Worker Tok ι → ApprovalSignalPayload → Worker Tok ι → Prop}
    (hi : I h s.world.session_mgr) (hD : ∀ h s₀ a s, I h s.world.session_mgr → D h s₀ a s) :
    FlowLife A workflow_id inp i D h s₀ (await_pending_approval inp) s := by
  refine Co.Safe.handle_bind (set_life _ hi fun s₁ hi₁ => ?_)
  refine Co.Safe.handle_bind (audit_life S _ hi₁ ?_)
  intro h₂ _ _ _ hi₂
  refine Co.Safe.handle_bind (wait_for_signal_life S hi₂ ?_)
  intro h₃ _ timed_out _ hi₃
  cases timed_out with
  | true =>
      refine Co.Safe.handle_bind (set_life _ hi₃ fun s₄ hi₄ => ?_)
      refine Co.Safe.handle_bind (audit_life S _ hi₄ ?_)
      exact fun h₅ _ _ _ hi₅ => hD h₅ _ _ _ hi₅
  | false =>
      refine Co.Safe.handle_bind (self_life hi₃ fun w s₄ hi₄ => ?_)
      cases w.approval_signal with
      | none => trivial
      | some signal =>
          refine Co.Safe.handle_bind (set_life _ hi₄ fun s₅ hi₅ => ?_)
          refine Co.Safe.handle_bind (audit_life S _ hi₅ ?_)
          exact fun h₆ _ _ _ hi₆ => hD h₆ _ _ _ hi₆

theorem pre_check_life (S : Stable inp I) (hi : I h s.world.session_mgr)
    {D : Log Tok → Worker Tok ι → Option ℚ → Worker Tok ι → Prop}
    (hD : ∀ h s₀ a s, I h s.world.session_mgr → D h s₀ a s) :
    FlowLife A workflow_id inp i D h s₀ (pre_check inp []) s := by
  unfold pre_check
  split
  · refine Co.Safe.handle_bind (execute_life (q := .BudgetPreCheck _) S
      (plain_lift (fun _ => rfl) fun _ => sameMgr_bystander.onlooker.budget_pre_check _) rfl
      (fun _ _ _ _ _ => trivial) hi ?_)
    exact fun h₁ s₁ r s₂ hi₁ => hD h₁ s₁ _ s₂ hi₁
  · exact hD _ _ _ _ hi

/-- The handler of a failed `LLMInvoke` calls no adapter. -/
theorem llm_failed_life (e : Exc) {D : Log Tok → Worker Tok ι → LLMInvokeResult → Worker Tok ι → Prop} :
    FlowLife A workflow_id inp i D h s₀ (llm_failed inp e) s := by
  obtain ⟨status, audit, e', heq⟩ | heq := llm_failed_cases Tok inp e
  · rw [heq]
    refine Co.Safe.handle_bind (set_life (I := fun _ _ => True) _ trivial fun s₁ hi₁ => ?_)
    exact Co.Safe.handle_bind (audit_life stable_true _ hi₁ fun _ _ _ _ _ => trivial)
  · rw [heq]
    trivial

theorem record_budget_life (S : Stable inp I) (tokens_used : ℤ) (spent : Option ℚ)
    (hi : I h s.world.session_mgr) {D : Log Tok → Worker Tok ι → Option ℚ → Worker Tok ι → Prop}
    (hD : ∀ h s₀ a s, I h s.world.session_mgr → D h s₀ a s) :
    FlowLife A workflow_id inp i D h s₀ (record_budget inp [] tokens_used spent) s := by
  unfold record_budget
  split
  · refine Co.Safe.handle_bind (execute_life (q := .BudgetRecordSpend _) S
      (plain_lift (fun _ => rfl) fun _ => sameMgr_bystander.onlooker.budget_record_spend _ _) rfl
      (fun _ _ _ _ _ => trivial) hi ?_)
    exact fun h₁ s₁ r s₂ hi₁ => hD h₁ s₁ _ s₂ hi₁
  · exact hD _ _ _ _ hi

theorem after_gate_life (hJ : A.env.jose.Encodes) (scrub : PrePIIScrubResult)
    (policy : PolicyEvalResult) (r : JITTokenResult Tok)
    (hi : Waiting A.env inp r.token h s.world.session_mgr) :
    FlowLife A workflow_id inp i (fun _ _ _ _ => True) h s₀ (after_gate inp scrub policy r) s := by
  refine Co.Safe.handle_bind (pre_check_life stable_waiting hi ?_)
  intro h₁ s₁ spent s₂ hi₁
  refine Co.Safe.handle_bind (Co.Safe.handle_tryCatch (execute_safe
    (q := WorkflowCall.LLMInvoke (llm_input inp policy.sanitized_prompt r))
    (execute_llm_invoke hJ rfl rfl hi₁ ?_ ?_)))
  · -- behind the adapter nothing is asserted any more
    intro h₂ s₃ llm s₄
    have S : Stable inp (fun (_ : Log Tok) _ => True) := stable_true
    refine Co.Safe.handle_bind (record_budget_life S _ _ trivial ?_)
    intro h₃ s₅ spent' s₆ _
    refine Co.Safe.handle_bind (execute_life (q := .PostSanitize _) S
      (plain_lift (fun _ => rfl) fun _ => sameMgr_bystander.post_sanitize A _) rfl
      (fun _ _ _ _ _ => trivial) trivial ?_)
    intro h₄ s₇ post s₈ _
    refine Co.Safe.handle_bind (set_life (I := fun _ _ => True) _ trivial fun s₉ _ => ?_)
    exact Co.Safe.handle_bind (self_life (I := fun _ _ => True) trivial fun _ _ _ => trivial)
  · intro h₂ s₃ e s₄
    exact llm_failed_life e

/-- One run, whatever it is answered and whatever the others do. -/
theorem run_life_safe (hJ : A.env.jose.Encodes) (hi : FreshIds s.world.session_mgr) :
    LifeSafe A.env inp (fun _ _ _ _ => True) (fun _ _ _ _ => True) [] s (run A workflow_id i inp) s := by
  refine Co.Safe.handle_bind (before_gate_life hJ hi ?_)
  intro h₁ s₁ scrub policy r s₂ hi₁
  refine Co.Safe.handle_bind (Co.Safe.handle_lift ?_ fun _ _ _ => trivial)
  intro gated t hrun
  cases gated with
  | false => exact after_gate_life hJ scrub policy r hi₁
  | true =>
      refine Co.Safe.handle_bind (await_pending_approval_life stable_waiting
        (s := { s₂ with flows := Function.update s₂.flows i t }) hi₁ ?_)
      intro h₂ s₃ decision s₄ hi₂
      by_cases happ : decision.approved
      · rw [if_pos happ]
        exact after_gate_life hJ scrub policy r hi₂
      · rw [if_neg happ]
        exact Co.Safe.handle_bind (self_life (I := fun _ _ => True) trivial fun _ _ _ => trivial)

end

/-! ## Every adapter call of every run -/

abbrev RunConf (Tok ι : Type) : Type :=
  Co.Conf (Worker Tok ι) Exc (DurableCall Tok) DurableCall.Answer WorkflowOutput

/-- When the token presented at `c`, after the configurations `cs`, was issued: by the execution of
`JITTokenIssue` that reported it, at the first reading of the segment it ran in; or by the execution
that presents it, at a reading of its own segment. -/
inductive IssuedAt (inp : WorkflowInput) (cs : List (RunConf Tok ι)) (c : RunConf Tok ι)
    (token : Tok) : ℚ → Prop
  | reported {c₁ : RunConf Tok ι} {jin : JITTokenInput} {n : ℕ} {r : JITTokenResult Tok} :
      own_issue inp.protect_outbound_request (isRetry c.hist) = none → c₁ ∈ cs →
      c₁.point.awaited = some (.report (.JITTokenIssue jin) n (.ok r)) → r.token = token →
      IssuedAt inp cs c token (c₁.seg.world.session_mgr.reading 0)
  | own {k : ℕ} : own_issue inp.protect_outbound_request (isRetry c.hist) = some k →
      IssuedAt inp cs c token (c.seg.world.session_mgr.reading k)

theorem tokenOf_unique {E : Env Tok} {token : Tok} {jti jti' : String} {t t' : ℚ}
    (h : TokenOf E token jti t) (h' : TokenOf E token jti' t') : t = t' := by
  obtain ⟨a, cnf, _, _, hs⟩ := h
  obtain ⟨a', cnf', _, _, hs'⟩ := h'
  have hiat : some t = some t' := congrArg Payload.iat (hs.unique hs')
  cases hiat
  rfl

/-- **The token at the adapter.**  In every run of the workflow, whatever its activities and signals
do and whenever, and whatever others do on the worker: where `adapter.complete` is called, the
manager accepts the token presented exactly when the clock, in whole seconds, has not passed the
token's lifetime since it was issued. -/
theorem presented_token_accepted_iff [DecidableEq ι] (A : AegisActivities Tok)
    (workflow_id : Option String) (i : ι) (inp : WorkflowInput) {s : Worker Tok ι}
    (hJ : A.env.jose.Encodes) (hids : FreshIds s.world.session_mgr) {cs : List (RunConf Tok ι)}
    {c : RunConf Tok ι}
    (hv : Co.Conf.Visits (Others inp) anyAnswer (run A workflow_id i inp) s cs c)
    {req : LLMRequest Tok} (hw : c.point.awaited = some (.io (.complete req))) :
    ∃ t, IssuedAt inp cs c req.aegis_token t ∧
      (Accepts A.env req.aegis_token c.stop.world.session_mgr ↔
        pyInt (c.stop.world.session_mgr.reading 0) ≤
          pyInt (t + A.env.settings.token_expiry_seconds)) := by
  have hsafe : LifeSafe A.env inp (fun _ _ _ _ => True) (fun _ _ _ _ => True) [] s
      (run A workflow_id i inp) s := run_life_safe hJ hids
  obtain ⟨key, jti, t, htoken, hheld, hissue⟩ : Presents A.env inp c.hist c.seg req c.stop :=
    Co.Conf.asserted_of_reachable hsafe hv.reachable hw
  cases hown : own_issue inp.protect_outbound_request (isRetry c.hist) with
  | some k =>
      rw [hown] at hissue
      subst hissue
      exact ⟨_, .own hown, htoken.accepts_iff hheld.live⟩
  | none =>
      rw [hown] at hissue
      obtain ⟨jin, n, r, hr, hmem⟩ := hissue
      obtain ⟨c₁, hc₁, hasked⟩ := hv.asked _ hmem
      obtain ⟨jti', htoken'⟩ : ∃ jti', TokenOf A.env r.token jti' (c₁.seg.world.session_mgr.reading 0) :=
        Co.Conf.asserted_of_reachable hsafe (hv.reachable_of_mem hc₁) hasked
      rw [hr] at htoken'
      rw [tokenOf_unique htoken htoken'] at htoken
      exact ⟨_, .reported hown hc₁ hasked hr, htoken.accepts_iff hheld.live⟩

/-! ### An approval after a quarter of an hour -/

/-- A task that needs an approval. -/
def lateInput : WorkflowInput where
  task_id := "task-0"
  prompt := "hello"
  agent_type := "general"
  requester_id := "client"
  projected_spend_usd := ⟨"100", some (.fin 100)⟩

/-- `JITTokenIssue` takes the readings 0 to 3; the next is taken after a thousand seconds. -/
def lateClock : Clock where
  reading := fun n => if n < 4 then 0 else 1000
  mono := by
    intro m n h
    dsimp only
    split <;> split <;> first | omega | norm_num
  tick := 0

def lateIds (n : ℕ) : String := String.ofList (List.replicate n 'a')

theorem lateIds_injective : Function.Injective lateIds := by
  intro m n h
  have := congrArg (fun s => s.toList.length) h
  simpa [lateIds] using this

def lateWorker : Worker SymToken Unit where
  world := World.fresh {} lateClock lateIds
  flows := fun _ => {}

def lateRun : Durable SymToken Unit WorkflowOutput := run plainActivities (some "task-0") () lateInput

/-- The run waits for a decision, ... -/
def lateWaiting : RunConf SymToken Unit :=
  (Co.Conf.respond dollarAnswers)^[9] (Co.Conf.start lateRun lateWorker)

/-- ... gets one, ... -/
def lateSignalled : RunConf SymToken Unit :=
  { lateWaiting with
    state := { lateWaiting.state with
      flows := fun _ => (lateWaiting.state.flows ()).approve ⟨"approver", "late", true⟩ } }

/-- ... and calls the adapter. -/
def lateConf : RunConf SymToken Unit := (Co.Conf.respond dollarAnswers)^[4] lateSignalled

def awaitedRequest (c : RunConf Tok ι) : Option (LLMRequest Tok) :=
  match c.point.awaited with
  | some (.io (.complete req)) => some req
  | _ => none

theorem awaited_of_awaitedRequest {c : RunConf Tok ι} {req : LLMRequest Tok}
    (h : awaitedRequest c = some req) : c.point.awaited = some (.io (.complete req)) := by
  unfold awaitedRequest at h
  split at h
  · rename_i hw
    cases h
    exact hw
  · cases h

theorem lateConf_reached :
    Co.Conf.Reachable (Others lateInput) anyAnswer lateRun lateWorker lateConf := by
  have hwaiting : Co.Conf.Reachable (Others lateInput) anyAnswer lateRun lateWorker lateWaiting :=
    Co.Conf.Reachable.responds .refl dollarAnswers (fun _ _ => trivial) 9
  have hsignalled : Co.Conf.Reachable (Others lateInput) anyAnswer lateRun lateWorker lateSignalled :=
    hwaiting.tail (.interfere (Evolves.refl _))
  exact hsignalled.responds dollarAnswers (fun _ _ => trivial) 4

theorem lateWorker_freshIds : FreshIds lateWorker.world.session_mgr :=
  FreshIds.fresh _ _ lateIds_injective

/-- Whether the manager accepts the token of a request. -/
def accepted (E : Env Tok) (req : LLMRequest Tok) (m : SessionManager Tok) : Bool :=
  match validate_token E req.aegis_token m with
  | .ok _ _ => true
  | .error _ _ => false

theorem not_accepts_of_accepted {E : Env Tok} {req : LLMRequest Tok} {m : SessionManager Tok}
    (h : accepted E req m = false) : ¬Accepts E req.aegis_token m := by
  rintro ⟨c, m', hv⟩
  unfold accepted at h
  rw [hv] at h
  cases h

theorem lateConf_requests : ∃ req, awaitedRequest lateConf = some req ∧
    accepted plainActivities.env req lateConf.stop.world.session_mgr = false := by
  have hnot : (awaitedRequest lateConf).elim true
      (fun req => accepted plainActivities.env req lateConf.stop.world.session_mgr) = false := by
    decide +kernel
  cases hreq : awaitedRequest lateConf with
  | none =>
      rw [hreq] at hnot
      cases hnot
  | some req =>
      rw [hreq] at hnot
      exact ⟨req, rfl, hnot⟩

/-- Approved a thousand seconds after `JITTokenIssue`, the run calls the adapter with a token that
has expired. -/
theorem expired_token_presented :
    Co.Conf.Reachable (Others lateInput) anyAnswer lateRun lateWorker lateConf ∧
      ∃ req, lateConf.point.awaited = some (.io (.complete req)) ∧
        ¬Accepts plainActivities.env req.aegis_token lateConf.stop.world.session_mgr := by
  obtain ⟨req, hreq, hnot⟩ := lateConf_requests
  exact ⟨lateConf_reached, req, awaited_of_awaitedRequest hreq, not_accepts_of_accepted hnot⟩

theorem lateConf_accepted_iff : ∃ cs, ∃ req : LLMRequest SymToken, ∃ t,
    IssuedAt lateInput cs lateConf req.aegis_token t ∧
    (Accepts plainActivities.env req.aegis_token lateConf.stop.world.session_mgr ↔
      pyInt (lateConf.stop.world.session_mgr.reading 0) ≤
        pyInt (t + plainActivities.env.settings.token_expiry_seconds)) := by
  obtain ⟨cs, hv⟩ := lateConf_reached.visits
  obtain ⟨req, hreq, _⟩ := lateConf_requests
  obtain ⟨t, ht⟩ := presented_token_accepted_iff plainActivities (some "task-0") () lateInput
    symbolicJose_encodes lateWorker_freshIds hv (awaited_of_awaitedRequest hreq)
  exact ⟨cs, req, t, ht⟩

end AegisOs.Durable
