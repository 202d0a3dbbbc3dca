/-
# `AegisOs.ControlPlane.Refusal` — the refusal records of a run

A stage that refuses a request records the refusal and raises an exception of
a class in `_CONTROLLED_EXC`; for every other class `_span_stage` adds a
`stage.error` event.  Whether a refused request has one record therefore hangs
on the class of the exception that leaves the stage body, after the body's own
`except` clauses: `Ends` states how synchronous code ends in these terms, with
one rule per construct.

`Misrecorded` says when a run that raises has no record, or two.  It speaks of
the request, the answers, and the components as they are when the run's last
segment begins.
-/
import AegisOs.ControlPlane.Pipeline
import AegisOs.Watchdog.LoopRuns

namespace AegisOs.Orchestrator

open Lib Lib.EState

variable {Tok : Type} {α β : Type}

/-! ## The events of a run -/

/-- A stage event with the outcome `deny` or `error`. -/
def is_refusal : AuditEvent → Bool
  | .stage_event _ .deny _ _ _ _ => true
  | .stage_event _ .error _ _ _ _ => true
  | _ => false

/-- Exactly one of the events is a refusal, and it is the last of them. -/
def OneRefusal (evs : List AuditEvent) : Prop :=
  evs.countP is_refusal = 1 ∧ evs.getLast?.any is_refusal = true

/-- None of the events is a refusal, and the last is the one of Stage 5. -/
def NoRefusal (evs : List AuditEvent) : Prop :=
  evs.countP is_refusal = 0 ∧ ∃ outcome stage task agent extra,
    evs.getLast? = some (.stage_event "guardrails.post_sanitize" outcome stage task agent extra)

/-- What a segment has handed to the audit logger. -/
def written (seg : World Tok × World Tok) : List AuditEvent :=
  seg.2.audit.drop seg.1.audit.length

/-- What a run has handed to the audit logger, in all its segments. -/
def emitted (segs : List (World Tok × World Tok)) : List AuditEvent := segs.flatMap written

abbrev RunConf (Tok : Type) : Type :=
  Co.Conf (World Tok) Exc (OrchCall Tok) OrchCall.Answer (OrchestratorResult Tok)

/-- A run that raised has one refusal record, its last event; one that returned has none, and ends
with Stage 5. -/
def RefusalRecord (segs : List (World Tok × World Tok)) (c : RunConf Tok) : Prop :=
  match c.point with
  | .failed _ => OneRefusal (emitted segs)
  | .done _ => NoRefusal (emitted segs)
  | .waiting _ _ => True

/-! ## How synchronous code ends -/

/-- Between the two worlds these events were written. -/
def Wrote (evs : List AuditEvent) (w w' : World Tok) : Prop := w'.audit = w.audit ++ evs

theorem Wrote.written {evs : List AuditEvent} {w w' : World Tok} (h : Wrote evs w w') :
    written (w, w') = evs := by
  unfold Orchestrator.written
  rw [h, List.drop_left]

theorem Wrote.trans {evs evs' : List AuditEvent} {w₁ w₂ w₃ : World Tok} (h : Wrote evs w₁ w₂)
    (h' : Wrote evs' w₂ w₃) : Wrote (evs ++ evs') w₁ w₃ := by
  unfold Wrote at *
  rw [h', h, List.append_assoc]

/-- Between the two worlds no refusal was written. -/
def Clean (w w' : World Tok) : Prop := ∃ evs, Wrote evs w w' ∧ evs.countP is_refusal = 0

/-- Between the two worlds one refusal was written, last. -/
def Refused (w w' : World Tok) : Prop := ∃ evs, Wrote evs w w' ∧ OneRefusal evs

theorem Clean.refl (w : World Tok) : Clean w w := ⟨[], by simp [Wrote], rfl⟩

theorem Clean.of_eq {w w' : World Tok} (h : w'.audit = w.audit) : Clean w w' :=
  ⟨[], by simp [Wrote, h], rfl⟩

theorem Clean.trans {w₁ w₂ w₃ : World Tok} (h : Clean w₁ w₂) (h' : Clean w₂ w₃) : Clean w₁ w₃ := by
  obtain ⟨evs, hw, hc⟩ := h
  obtain ⟨evs', hw', hc'⟩ := h'
  exact ⟨evs ++ evs', hw.trans hw', by rw [List.countP_append, hc, hc']⟩

/-- What comes before, without a refusal, does not change whether there is one. -/
theorem oneRefusal_append_iff {evs evs' : List AuditEvent} (h : evs.countP is_refusal = 0) :
    OneRefusal (evs ++ evs') ↔ OneRefusal evs' := by
  unfold OneRefusal
  rw [List.countP_append, h, Nat.zero_add]
  refine and_congr_right ?_
  intro hone
  have hne : evs' ≠ [] := by
    rintro rfl
    cases hone
  rw [List.getLast?_append_of_ne_nil _ hne]

theorem NoRefusal.append {evs evs' : List AuditEvent} (h : evs.countP is_refusal = 0)
    (h' : NoRefusal evs') : NoRefusal (evs ++ evs') := by
  obtain ⟨hnone, outcome, stage, task, agent, extra, hlast⟩ := h'
  refine ⟨by rw [List.countP_append, h, hnone], outcome, stage, task, agent, extra, ?_⟩
  rw [List.getLast?_append, hlast]
  rfl

theorem oneRefusal_singleton {ev : AuditEvent} (h : is_refusal ev = true) : OneRefusal [ev] := by
  simp [OneRefusal, h]

theorem Clean.refused {w₁ w₂ w₃ : World Tok} (h : Clean w₁ w₂) (h' : Refused w₂ w₃) :
    Refused w₁ w₃ := by
  obtain ⟨evs, hw, hc⟩ := h
  obtain ⟨evs', hw', ho⟩ := h'
  exact ⟨evs ++ evs', hw.trans hw', (oneRefusal_append_iff hc).mpr ho⟩

/-- Code that, run in `w`, returns without a refusal, and where it raises keeps `X bad`; when it
returns, `bad` is false. -/
structure Ends (X : Prop → Exc → World Tok → World Tok → Prop) (bad : Prop) (m : WM Tok α)
    (w : World Tok) : Prop where
  ok : ∀ {a w'}, m w = .ok a w' → Clean w w' ∧ ¬bad
  error : ∀ {e w'}, m w = .error e w' → X bad e w w'

/-- How a stage body raises: before it has recorded anything, or after one refusal.  It is bad for
the body to raise a controlled class in the first case, and to raise any other in the second. -/
def BodyRaises (bad : Prop) (e : Exc) (w w' : World Tok) : Prop :=
  (Clean w w' ∧ (bad ↔ controlled_exc e.kind = true)) ∨
  (Refused w w' ∧ (bad ↔ controlled_exc e.kind = false))

/-- How a stage raises: with one refusal record, unless it is bad. -/
def StageRaises (bad : Prop) (_ : Exc) (w w' : World Tok) : Prop :=
  ∃ evs, Wrote evs w w' ∧ (OneRefusal evs ↔ ¬bad)

abbrev Body (bad : Prop) (m : WM Tok α) (w : World Tok) : Prop := Ends BodyRaises bad m w

abbrev Stage (bad : Prop) (m : WM Tok α) (w : World Tok) : Prop := Ends StageRaises bad m w

/-- `X` looks at the first refusal only, and at `bad` only up to equivalence. -/
structure Prefixed (X : Prop → Exc → World Tok → World Tok → Prop) : Prop where
  clean : ∀ {bad e w₁ w₂ w₃}, Clean w₁ w₂ → X bad e w₂ w₃ → X bad e w₁ w₃
  congr : ∀ {bad bad' e w w'}, (bad ↔ bad') → X bad e w w' → X bad' e w w'

theorem prefixed_body : Prefixed (@BodyRaises Tok) where
  clean := by
    rintro bad e w₁ w₂ w₃ h (⟨hc, hb⟩ | ⟨hr, hb⟩)
    · exact .inl ⟨h.trans hc, hb⟩
    · exact .inr ⟨h.refused hr, hb⟩
  congr := by
    rintro bad bad' e w w' hb h
    rwa [← propext hb]

theorem prefixed_stage : Prefixed (@StageRaises Tok) where
  clean := by
    rintro bad e w₁ w₂ w₃ ⟨evs, hw, hc⟩ ⟨evs', hw', ho⟩
    exact ⟨evs ++ evs', hw.trans hw', (oneRefusal_append_iff hc).trans ho⟩
  congr := by
    rintro bad bad' e w w' hb h
    rwa [← propext hb]

section Rules
variable {X : Prop → Exc → World Tok → World Tok → Prop} {bad : Prop} {m : WM Tok α} {w : World Tok}

theorem Ends.congr (P : Prefixed X) {bad' : Prop} (h : Ends X bad m w) (hb : bad ↔ bad') :
    Ends X bad' m w :=
  ⟨fun hm => ⟨(h.ok hm).1, fun hbad => (h.ok hm).2 (hb.mpr hbad)⟩, fun hm => P.congr hb (h.error hm)⟩

/-- A sequence is bad where its first part is, or where that returns and the rest is bad. -/
theorem Ends.bind (P : Prefixed X) {f : α → WM Tok β} {C : α → World Tok → Prop}
    (hm : Ends X bad m w) (hf : ∀ a w', m w = .ok a w' → Ends X (C a w') (f a) w') :
    Ends X (bad ∨ ∃ a w', m w = .ok a w' ∧ C a w') (m >>= f) w := by
  constructor
  · intro b w'' h
    obtain ⟨a, w', hok, hrest⟩ := bind_eq_ok.mp h
    obtain ⟨hc, hb⟩ := hm.ok hok
    obtain ⟨hc', hb'⟩ := (hf a w' hok).ok hrest
    refine ⟨hc.trans hc', ?_⟩
    rintro (hbad | ⟨a', w₁, hok', hbad⟩)
    · exact hb hbad
    · rw [hok] at hok'
      cases hok'
      exact hb' hbad
  · intro e w'' h
    rcases bind_eq_error.mp h with herr | ⟨a, w', hok, hrest⟩
    · refine P.congr ?_ (hm.error herr)
      simp [herr]
    · refine P.clean (hm.ok hok).1 (P.congr ?_ ((hf a w' hok).error hrest))
      have hb := (hm.ok hok).2
      constructor
      · intro hbad
        exact .inr ⟨a, w', hok, hbad⟩
      · rintro (hbad | ⟨a', w₁, hok', hbad⟩)
        · exact absurd hbad hb
        · rw [hok] at hok'
          cases hok'
          exact hbad

theorem Ends.pure (a : α) : Ends X False (Pure.pure a : WM Tok α) w := by
  constructor
  · intro b w' h
    cases h
    exact ⟨Clean.refl w, fun hf => hf⟩
  · intro e w' h
    cases h

theorem Ends.ite {c : Prop} [Decidable c] {n : WM Tok α} (hm : Ends X bad m w)
    (hn : Ends X bad n w) : Ends X bad (if c then m else n) w := by
  split
  · exact hm
  · exact hn

end Rules

/-! ## The bodies of the stages -/

/-- A component call raised an exception of a class that `_span_stage` takes for recorded. -/
def Slips (x : Except Exc α) : Prop := ∃ e, x = .error e ∧ controlled_exc e.kind = true

@[simp] theorem slips_ok (a : α) : ¬Slips (.ok a) := by
  rintro ⟨e, he, -⟩
  cases he

@[simp] theorem slips_error (e : Exc) :
    Slips (.error e : Except Exc α) ↔ controlled_exc e.kind = true := by
  constructor
  · rintro ⟨e', he, hc⟩
    cases he
    exact hc
  · exact fun hc => ⟨e, rfl, hc⟩

theorem slips_bind (x : Except Exc α) (f : α → Except Exc β) :
    Slips (x >>= f) ↔ Slips x ∨ ∃ a, x = .ok a ∧ Slips (f a) := by
  cases x with
  | ok a =>
      show Slips (f a) ↔ _
      simp
  | error e =>
      show Slips (.error e : Except Exc β) ↔ _
      simp

theorem slips_map (x : Except Exc α) (f : α → β) : Slips (x.map f) ↔ Slips x := by
  cases x with
  | ok a => exact iff_of_false (slips_ok _) (slips_ok _)
  | error e => exact (slips_error e).trans (slips_error e).symm

/-- Code that writes nothing to the audit log. -/
abbrev Silent (m : WM Tok α) : Prop := Keeps (fun w w' => w'.audit = w.audit) m

section
variable {m : WM Tok α} {w : World Tok}

theorem silent_guard (x : Except Exc α) : Silent (guard x : WM Tok α) :=
  Keeps.ofExcept (P := fun w w' : World Tok => w'.audit = w.audit) (fun _ => rfl) x

theorem silent_on_session_mgr (m : SM Tok α) : Silent (on_session_mgr m) := by
  intro w
  show (after (on_session_mgr m w)).audit = _
  rw [on_session_mgr, after_zoom]

theorem silent_on_budget (m : BE α) : Silent (on_budget m : WM Tok α) := by
  intro w
  show (after (on_budget m w)).audit = _
  rw [on_budget, after_zoom]

theorem silent_on_loop (m : LD α) : Silent (on_loop m : WM Tok α) := by
  intro w
  show (after (on_loop m w)).audit = _
  rw [on_loop, after_zoom]

theorem Silent.body (hm : Silent m) : Body (Slips (result (m w))) m w := by
  constructor
  · intro a w' h
    rw [h]
    exact ⟨Clean.of_eq (hm.ok h), slips_ok a⟩
  · intro e w' h
    rw [h]
    exact .inl ⟨Clean.of_eq (hm.error h), slips_error e⟩

theorem body_log {event : AuditEvent} (h : is_refusal event = false) :
    Body False (log event : WM Tok Unit) w := by
  constructor
  · intro a w' hlog
    cases hlog
    exact ⟨⟨[event], rfl, by simp [h]⟩, fun hf => hf⟩
  · intro e w' hlog
    cases hlog

theorem body_throw {e : Exc} : Body (controlled_exc e.kind = true) (throw e : WM Tok α) w := by
  constructor
  · intro a w' h
    cases h
  · intro e' w' h
    cases h
    exact .inl ⟨Clean.refl w, Iff.rfl⟩

/-- A refusal that the stage records itself. -/
theorem body_of_refused {event : AuditEvent} {e : Exc} (h : is_refusal event = true)
    (hrun : m w = .error e { w with audit := w.audit ++ [event] }) :
    Body (controlled_exc e.kind = false) m w := by
  constructor
  · intro a w' hok
    rw [hrun] at hok
    cases hok
  · intro e' w' herr
    rw [hrun] at herr
    cases herr
    exact .inr ⟨⟨[event], rfl, oneRefusal_singleton h⟩, Iff.rfl⟩

theorem body_refused {event : AuditEvent} {e : Exc} (h : is_refusal event = true) :
    Body (controlled_exc e.kind = false) (do log event; throw e : WM Tok α) w :=
  body_of_refused h rfl

/-- A component call under an `except` clause that records a refusal and raises in its turn. -/
theorem Silent.catching (hm : Silent m) {f : Exc → Option (WM Tok α)} {B : Exc → Prop}
    (hnone : ∀ e, f e = none → (B e ↔ controlled_exc e.kind = true))
    (hsome : ∀ e g, f e = some g → ∀ w', Body (B e) g w' ∧ ∀ a w'', g w' ≠ .ok a w'') :
    Body (∃ e, result (m w) = .error e ∧ B e) (Lib.catching m f) w := by
  cases h : m w with
  | ok a w' =>
      constructor
      · intro b w'' hrun
        rw [catching_ok h] at hrun
        cases hrun
        refine ⟨Clean.of_eq (hm.ok h), ?_⟩
        rintro ⟨e, he, -⟩
        cases he
      · intro e w'' hrun
        rw [catching_ok h] at hrun
        cases hrun
  | error e w' =>
      have hclean : Clean w w' := Clean.of_eq (hm.error h)
      have hbad : B e ↔ ∃ e', result (EStateM.Result.error e w' : EStateM.Result Exc _ α) =
          .error e' ∧ B e' := by
        constructor
        · exact fun hb => ⟨e, rfl, hb⟩
        · rintro ⟨e', he, hb⟩
          cases he
          exact hb
      refine (show Body (B e) _ w from ?_).congr prefixed_body hbad
      cases hf : f e with
      | none =>
          constructor
          · intro b w'' hrun
            rw [catching_none h hf] at hrun
            cases hrun
          · intro e' w'' hrun
            rw [catching_none h hf] at hrun
            cases hrun
            exact .inl ⟨hclean, hnone e hf⟩
      | some g =>
          obtain ⟨hbody, hne⟩ := hsome e g hf w'
          constructor
          · intro b w'' hrun
            rw [catching_some h hf] at hrun
            exact absurd hrun (hne b w'')
          · intro e' w'' hrun
            rw [catching_some h hf] at hrun
            exact prefixed_body.clean hclean (hbody.error hrun)

/-- What follows and cannot fail does not change how the code ends. -/
theorem Ends.andThen {X : Prop → Exc → World Tok → World Tok → Prop} (P : Prefixed X) {bad : Prop}
    {f : α → WM Tok β} (hm : Ends X bad m w) (hf : ∀ a w', Ends X False (f a) w') :
    Ends X bad (m >>= f) w := by
  refine (hm.bind P fun a w' _ => hf a w').congr P ?_
  simp

/-- What the `except` clause of `_span_stage` leaves of a body's end. -/
theorem BodyRaises.stage_error {bad : Prop} {span task agent : String} {e e' : Exc}
    {w₁ w' : World Tok} (h : BodyRaises bad e w w₁)
    (hrun : stage_error (α := α) span task agent e w₁ = .error e' w') : StageRaises bad e' w w' := by
  unfold Orchestrator.stage_error at hrun
  cases hc : controlled_exc e.kind with
  | true =>
      rw [if_neg (by simp [hc])] at hrun
      cases hrun
      rcases h with ⟨⟨evs, hw, hnone⟩, hb⟩ | ⟨⟨evs, hw, hone⟩, hb⟩
      · refine ⟨evs, hw, ?_⟩
        simp [OneRefusal, hnone, hb, hc]
      · refine ⟨evs, hw, ?_⟩
        simp [hone, hb, hc]
  | false =>
      rw [if_pos (by simp [hc])] at hrun
      cases hrun
      rcases h with ⟨⟨evs, hw, hnone⟩, hb⟩ | ⟨⟨evs, hw, hone⟩, hb⟩
      · refine ⟨evs ++ [_], Wrote.trans hw rfl, ?_⟩
        rw [oneRefusal_append_iff hnone]
        simp [OneRefusal, is_refusal, hb, hc]
      · -- the refusal the body recorded, and `stage.error` on top of it
        refine ⟨evs ++ [_], Wrote.trans hw rfl, ?_⟩
        simp [OneRefusal, List.countP_append, hone.1, is_refusal, hb, hc]

/-- A stage is bad where its body is. -/
theorem Body.stage {bad : Prop} {span task agent : String} (hm : Body bad m w) :
    Stage bad (span_stage span task agent m) w := by
  constructor
  · intro a w' h
    exact hm.ok (span_stage_eq_ok.mp h)
  · intro e w' h
    rcases catching_eq_error h with ⟨e₁, w₁, g, herr, hg, hrun⟩ | ⟨_, hg⟩
    · cases hg
      exact (hm.error herr).stage_error hrun
    · cases hg

theorem result_guard (x : Except Exc α) (w : World Tok) : result (guard x w) = x := by
  cases x <;> rfl

/-- A call of the session manager that raises nothing controlled, and what follows it. -/
theorem body_on_session_mgr {m : SM Tok α} {f : α → WM Tok β}
    {B : α → SessionManager Tok → Prop} (hm : ¬Slips (result (m w.session_mgr)))
    (hf : ∀ a s, Body (B a s) (f a) { w with session_mgr := s }) :
    Body (∃ a s, m w.session_mgr = .ok a s ∧ B a s) (on_session_mgr m >>= f) w := by
  have hcall : Body False (on_session_mgr m) w := by
    refine (silent_on_session_mgr m).body.congr prefixed_body ?_
    rw [on_session_mgr, result_zoom]
    exact iff_false_intro hm
  refine (hcall.bind (C := fun a w' => B a w'.session_mgr) prefixed_body ?_).congr
    prefixed_body ?_
  · intro a w' hrun
    obtain ⟨s, -, rfl⟩ := on_session_mgr_eq_ok.mp hrun
    exact hf a s
  · constructor
    · rintro (hfalse | ⟨a, w', hrun, hb⟩)
      · exact hfalse.elim
      · obtain ⟨s, hs, rfl⟩ := on_session_mgr_eq_ok.mp hrun
        exact ⟨a, s, hs, hb⟩
    · rintro ⟨a, s, hs, hb⟩
      exact .inr ⟨a, _, on_session_mgr_eq_ok.mpr ⟨s, hs, rfl⟩, hb⟩

end

/-! ## The stages -/

section
variable (O : Orchestrator Tok) (rq : OrchestratorRequest Tok) (task_id : Uuid)

/-- A masking call and its event. -/
theorem body_masked (x : Except Exc MaskResult) (event stage task agent : String)
    (extra : MaskResult → List (String × Field)) (w : World Tok) :
    Body (Slips x) (do
      let m ← guard x
      log (.stage_event event (mask_outcome m.found_types) stage task agent (extra m))
      return m : WM Tok MaskResult) w := by
  have hmask := (silent_guard x).body (w := w)
  rw [result_guard] at hmask
  refine hmask.andThen prefixed_body fun m w₂ => ?_
  refine (body_log ?_).andThen prefixed_body fun _ w₃ => Ends.pure m
  unfold mask_outcome
  split <;> rfl

/-- Stage 1's calls of the guardrails. -/
def scrub_prompt : Except Exc MaskResult := do
  O.guardrails.check_prompt_injection rq.prompt
  O.guardrails.mask_pii rq.prompt

theorem stage_pre_sanitize (w : World Tok) :
    Stage (Slips (scrub_prompt O rq)) (pre_sanitize O rq task_id) w := by
  refine Body.stage ?_
  refine ((silent_guard _).body.bind prefixed_body (C := fun _ _ =>
    Slips (O.guardrails.mask_pii rq.prompt)) fun _ w₁ _ => ?_).congr prefixed_body ?_
  · exact body_masked _ _ _ _ _ _ w₁
  · unfold scrub_prompt
    rw [result_guard, slips_bind]
    refine or_congr_right ?_
    constructor
    · rintro ⟨u, w₁, hrun, hslip⟩
      exact ⟨u, (guard_eq_ok.mp hrun).1, hslip⟩
    · rintro ⟨u, hcheck, hslip⟩
      exact ⟨u, w, guard_eq_ok.mpr ⟨hcheck, rfl⟩, hslip⟩

theorem silent_mask_fields (g : Guardrails) (fields : List String) :
    ∀ m, Silent (mask_fields g fields m : WM Tok MaskResult) := by
  induction fields with
  | nil => exact fun m _ => rfl
  | cons field fields ih =>
      intro m
      unfold mask_fields
      refine Keeps.ite ?_ (ih m)
      exact Keeps.bind (fun _ _ _ h h' => h'.trans h) (silent_guard _) fun _ => ih _

/-- The fields scrub the prompt as often as it is named among them. -/
theorem result_mask_fields (g : Guardrails) (fields : List String) (w : World Tok) :
    ∀ m, (result (mask_fields g fields m w)).map MaskResult.text =
      rescrub g (fields.count "prompt") m.text := by
  induction fields with
  | nil => exact fun m => rfl
  | cons field fields ih =>
      intro m
      unfold mask_fields
      by_cases hf : field = "prompt"
      · rw [if_pos hf, hf, List.count_cons_self]
        unfold rescrub
        rw [result_bind, result_guard]
        cases hs : g.scrub m.text with
        | error e => rfl
        | ok m₁ => exact ih ⟨m₁.text, _⟩
      · rw [if_neg hf, List.count_cons_of_ne hf]
        exact ih m

/-- Stage 2b. -/
theorem stage_policy_mask (pr : PolicyResult) (m : MaskResult) (w : World Tok) :
    Stage (Slips (rescrub O.guardrails (rescrubs pr) m.text)) (policy_mask O rq task_id pr m) w := by
  unfold policy_mask rescrubs
  by_cases hmask : pr.action = "mask"
  · rw [if_pos hmask, if_pos hmask, ← result_mask_fields O.guardrails pr.fields w m, slips_map]
    refine Body.stage ((silent_mask_fields _ _ m).body.andThen prefixed_body fun m' w₁ => ?_)
    exact (body_log rfl).andThen prefixed_body fun _ w₂ => Ends.pure m'
  · rw [if_neg hmask, if_neg hmask]
    exact (Ends.pure m).congr prefixed_stage (iff_of_false not_false (slips_ok _))

end

/-! ### Stage 3 -/

/-- `validate_token` finds the token expired or revoked. -/
def Lapsed (E : Env Tok) (token : Tok) (s : SessionManager Tok) : Prop :=
  Expired E token s ∨ Revoked E token s

/-- What `validate_token` raises otherwise is not controlled. -/
theorem uncontrolled_of_mem {e : Exc}
    (h : e.kind ∈ [.ValueError, .JWTError, .KeyError, .ValidationError]) :
    controlled_exc e.kind = false := by
  simp only [List.mem_cons, List.not_mem_nil, or_false] at h
  rcases h with h | h | h | h <;> rw [h] <;> rfl

theorem slips_validate_token (E : Env Tok) (token : Tok) (s : SessionManager Tok) :
    Slips (result (validate_token E token s)) ↔ Lapsed E token s := by
  constructor
  · rintro ⟨e, he, hc⟩
    rcases validate_token_error (eq_error he) with ⟨_, h⟩ | ⟨_, h⟩ | hk
    · exact .inl h
    · exact .inr h
    · rw [uncontrolled_of_mem hk] at hc
      cases hc
  · rintro (h | h)
    · obtain ⟨e, s', he, hk⟩ := validate_token_expired h
      rw [he]
      exact ⟨e, rfl, by rw [hk]; rfl⟩
    · obtain ⟨e, s', he, hk⟩ := validate_token_revoked h
      rw [he]
      exact ⟨e, rfl, by rw [hk]; rfl⟩

@[simp] theorem slips_item (jwk : Jwk) (name : String) : ¬Slips (jwk.item name) := by
  unfold Jwk.item
  split <;> simp [controlled_exc]

@[simp] theorem slips_thumbprint (cr : Crypto) (jwk : Jwk) : ¬Slips (public_jwk_thumbprint cr jwk) := by
  unfold public_jwk_thumbprint required_jwk_fields
  rw [slips_bind]
  split
  · simp [slips_bind, Pure.pure, Except.pure]
  · split
    · simp [slips_bind, Pure.pure, Except.pure]
    · simp [unsupported_key_type, controlled_exc]

theorem slips_encode_access_token (E : Env Tok) (a : IssueArgs) (jti : String) (now : ℚ) :
    ¬Slips (encode_access_token E a jti now) := by
  unfold encode_access_token
  rw [slips_bind]
  rintro (hcnf | ⟨cnf, _, hrest⟩)
  · unfold confirmation at hcnf
    cases hjwk : a.confirmation_jwk with
    | none => simp [hjwk] at hcnf
    | some jwk =>
        rw [hjwk] at hcnf
        exact slips_thumbprint _ _ ((slips_map _ _).mp hcnf)
  · rw [slips_bind] at hrest
    rcases hrest with hkey | ⟨key, _, hrest⟩
    · unfold signing_key at hkey
      split at hkey
      · exact slips_ok _ hkey
      · split at hkey
        · exact slips_ok _ hkey
        · simp [controlled_exc] at hkey
    · split at hrest
      · exact slips_ok _ hrest
      · simp [controlled_exc] at hrest

/-- Issuing a token raises no controlled class. -/
theorem slips_issue_token (E : Env Tok) (a : IssueArgs) (s : SessionManager Tok) :
    ¬Slips (result (issue_token E a s)) := by
  by_cases hn : a.agent_type = "" ∨ a.requester_id = ""
  · rw [issue_token_empty hn]
    simp [result, controlled_exc]
  · rw [issue_token_run hn]
    have henc := slips_encode_access_token E a (s.uuid4 s.uuids_drawn) (s.reading 0)
    cases hx : encode_access_token E a (s.uuid4 s.uuids_drawn) (s.reading 0) with
    | ok token => simp [result]
    | error e =>
        rw [hx] at henc
        exact fun hslip => henc ((slips_error e).mpr ((slips_error e).mp hslip))

theorem slips_issue_dpop_proof (E : Env Tok) (pem : String) (jwk : Jwk) (method url : String)
    (token : Option Tok) (nonce : Option String) (s : SessionManager Tok) :
    ¬Slips (result (issue_dpop_proof E pem jwk method url token nonce s)) := by
  rintro ⟨e, he, hc⟩
  obtain ⟨_, rfl, _⟩ := orRaise_eq_error.mp (eq_error he)
  cases hc

section
variable (O : Orchestrator Tok) (rq : OrchestratorRequest Tok) (task_id : Uuid)

/-- A supplied token is bad when it is revoked: the refusal is recorded, and the `PermissionError` it
is turned into is not a controlled class. -/
theorem body_use_session_token (token : Tok) (w : World Tok) :
    Body (Revoked O.env token w.session_mgr) (use_session_token O rq task_id token) w := by
  have hrefused : ∀ {γ : Type} {event : String} {e : Exc} {w₁ : World Tok},
      controlled_exc e.kind = true → Body False (token_refused rq task_id event e : WM Tok γ) w₁ := by
    intro γ event e w₁ hc
    exact (body_refused rfl).congr prefixed_body (by simp [hc])
  have hend : ∀ {w₁ : World Tok}, Body False (do
      log (.stage_event "token.validated" .allow "jit-token-issue" task_id.text rq.agent_type [])
      return token : WM Tok Tok) w₁ :=
    (body_log rfl).andThen prefixed_body fun _ _ => Ends.pure token
  unfold use_session_token
  refine Ends.andThen prefixed_body ?_ fun claims w₁ => ?_
  · refine ((silent_on_session_mgr _).catching (B := fun e =>
      e.kind ≠ .TokenExpiredError ∧ controlled_exc e.kind = true) ?_ ?_).congr prefixed_body ?_
    · intro e he
      split at he
      · cases he
      · rename_i hexp
        simp [hexp]
    · intro e g hg w₁
      split at hg
      · rename_i hexp
        cases hg
        exact ⟨(hrefused rfl).congr prefixed_body (by simp [hexp]), fun _ _ => token_refused_ne_ok⟩
      · rename_i hexp
        split at hg
        · rename_i hrev
          cases hg
          refine ⟨(body_refused rfl).congr prefixed_body ?_, fun _ _ => token_refused_ne_ok⟩
          simp [hrev, controlled_exc]
        · cases hg
    · rw [on_session_mgr, result_zoom]
      constructor
      · rintro ⟨e, he, hexp, hc⟩
        rcases validate_token_error (eq_error he) with ⟨hk, _⟩ | ⟨_, h⟩ | hk
        · exact absurd hk hexp
        · exact h
        · rw [uncontrolled_of_mem hk] at hc
          cases hc
      · intro h
        obtain ⟨e, s', he, hk⟩ := validate_token_revoked h
        rw [he]
        exact ⟨e, rfl, by simp [hk], by simp [hk, controlled_exc]⟩
  · have hexpired : Body False (on_session_mgr (is_expired claims)) w₁ := by
      refine (silent_on_session_mgr _).body.congr prefixed_body ?_
      rw [on_session_mgr, result_zoom]
      exact iff_false_intro (slips_ok _)
    refine hexpired.andThen prefixed_body fun b w₂ => ?_
    have hscope : ∀ {w₃ : World Tok}, Body False (do
        if claims.agent_type ≠ rq.agent_type then
          token_refused rq task_id "token.scope_violation" ⟨.TokenScopeError,
            [.lit "Token is scoped to agent_type=", .repr claims.agent_type,
              .lit " but request declares agent_type=", .repr rq.agent_type]⟩
        log (.stage_event "token.validated" .allow "jit-token-issue" task_id.text rq.agent_type [])
        return token : WM Tok Tok) w₃ := by
      intro w₃
      exact Ends.ite ((hrefused rfl).andThen prefixed_body fun _ _ => hend) hend
    exact Ends.ite ((hrefused rfl).andThen prefixed_body fun _ _ => hscope) hscope

/-- A token that was just issued is checked, outside any `except` clause. -/
theorem body_validate_issued (E : Env Tok) (token : Tok) {f : TokenClaims → WM Tok α}
    {w : World Tok} (hf : ∀ claims w', Body False (f claims) w') :
    Body (Lapsed E token w.session_mgr) (on_session_mgr (validate_token E token) >>= f) w := by
  refine Ends.andThen prefixed_body ?_ hf
  refine (silent_on_session_mgr _).body.congr prefixed_body ?_
  rw [on_session_mgr, result_zoom]
  exact slips_validate_token E token w.session_mgr

theorem body_issue_session_token (w : World Tok) :
    Body (∃ token s, issue_token O.env (fresh_token_args rq task_id) w.session_mgr = .ok token s ∧
      Lapsed O.env token s) (issue_session_token O rq task_id) w := by
  unfold issue_session_token
  have hissue := slips_issue_token O.env (fresh_token_args rq task_id) w.session_mgr
  refine body_on_session_mgr (B := fun token s => Lapsed O.env token s) hissue ?_
  intro token s
  refine body_validate_issued O.env token (w := { w with session_mgr := s }) ?_
  intro claims w'
  exact (body_log rfl).andThen prefixed_body fun _ _ => Ends.pure token

/-- What the protected part of Stage 3 asks the manager for. -/
def adapter_token_args : IssueArgs where
  agent_type := rq.agent_type
  requester_id := rq.requester_id
  metadata := rq.metadata
  task_id := some task_id.text
  allowed_actions := ["llm.invoke"]
  rotation_key := some ("adapter:" ++ task_id.text)

/-- The token for the adapter is issued, a proof for it too, and it has lapsed by the time it is
checked. -/
def AdapterTokenLapses (prompt : String) (token : Tok) (s : SessionManager Tok) : Prop :=
  ∃ binding, O.adapter.outbound_request_binding (llm_request rq prompt token none) = some binding ∧
    ∃ key_pair s₁, generate_dpop_key_pair s = .ok key_pair s₁ ∧
    ∃ adapter_token s₂, issue_sender_constrained_token O.env key_pair.2
      (adapter_token_args rq task_id) s₁ = .ok adapter_token s₂ ∧
    ∃ proof s₃, issue_dpop_proof O.env key_pair.1 key_pair.2 binding.1 binding.2
      (some adapter_token) none s₂ = .ok proof s₃ ∧ Lapsed O.env adapter_token s₃

theorem body_protect_outbound (prompt : String) (token : Tok) (w : World Tok) :
    Body (AdapterTokenLapses O rq task_id prompt token w.session_mgr)
      (protect_outbound O rq task_id prompt token) w := by
  unfold protect_outbound AdapterTokenLapses
  cases O.adapter.outbound_request_binding (llm_request rq prompt token none) with
  | none => exact body_throw.congr prefixed_body (by simp [controlled_exc])
  | some binding =>
      simp only [Option.some.injEq, exists_eq_left']
      refine body_on_session_mgr (m := generate_dpop_key_pair) (slips_ok _) ?_
      intro key_pair s₁
      refine body_on_session_mgr (w := { w with session_mgr := s₁ }) (slips_issue_token O.env
        { adapter_token_args rq task_id with confirmation_jwk := some key_pair.2 } s₁) ?_
      intro adapter_token s₂
      refine body_on_session_mgr (w := { w with session_mgr := s₂ })
        (slips_issue_dpop_proof O.env key_pair.1 key_pair.2 binding.1 binding.2
          (some adapter_token) none s₂) ?_
      intro proof s₃
      refine body_validate_issued O.env adapter_token (w := { w with session_mgr := s₃ }) ?_
      intro claims w'
      exact (body_log rfl).andThen prefixed_body fun _ _ => Ends.pure _

/-- The session token of Stage 3, and the manager that has it checked. -/
inductive SessionToken (s : SessionManager Tok) : Tok → SessionManager Tok → Prop
  | supplied {token : Tok} : supplied_token O rq = some token →
      SessionTokenOk O.env token rq.agent_type s → SessionToken s token (checked s)
  | issued {token : Tok} {claims : TokenClaims} {s₁ s₂ : SessionManager Tok} :
      supplied_token O rq = none →
      issue_token O.env (fresh_token_args rq task_id) s = .ok token s₁ →
      validate_token O.env token s₁ = .ok claims s₂ → SessionToken s token s₂

theorem session_token_ok {token : Tok} {w w' : World Tok}
    (h : session_token O rq task_id w = .ok token w') :
    SessionToken O rq task_id w.session_mgr token w'.session_mgr := by
  unfold session_token at h
  cases hsup : supplied_token O rq with
  | some t =>
      simp only [hsup] at h
      obtain ⟨rfl, hok⟩ := use_session_token_ok h
      obtain ⟨w₁, hrun, hs⟩ := use_session_token_run hok
      rw [h] at hrun
      cases hrun
      rw [hs]
      exact .supplied hsup hok
  | none =>
      simp only [hsup] at h
      unfold issue_session_token at h
      obtain ⟨t, w₁, hissue, h₁⟩ := bind_eq_ok.mp h
      obtain ⟨s₁, hs₁, rfl⟩ := on_session_mgr_eq_ok.mp hissue
      obtain ⟨c, w₂, hvalid, h₂⟩ := bind_eq_ok.mp h₁
      obtain ⟨s₂, hs₂, rfl⟩ := on_session_mgr_eq_ok.mp hvalid
      cases h₂
      exact .issued hsup hs₁ hs₂

theorem SessionToken.run {token : Tok} {s : SessionManager Tok} {w : World Tok}
    (h : SessionToken O rq task_id w.session_mgr token s) :
    ∃ w', session_token O rq task_id w = .ok token w' ∧ w'.session_mgr = s := by
  unfold session_token
  cases h with
  | supplied hsup hok =>
      simp only [hsup]
      exact use_session_token_run hok
  | issued hsup hissue hvalid =>
      simp only [hsup]
      unfold fresh_token_args at hissue
      unfold issue_session_token
      rw [bind_ok (on_session_mgr_eq_ok.mpr ⟨_, hissue, rfl⟩),
        bind_ok (on_session_mgr_eq_ok.mpr ⟨s, hvalid, rfl⟩)]
      exact ⟨_, rfl, rfl⟩

/-- When Stage 3 raises without a record of it, or with two: a supplied token is revoked, or a token
that was just issued has lapsed by the time it is checked. -/
def TokenSlips (prompt : String) (s : SessionManager Tok) : Prop :=
  (∃ token, supplied_token O rq = some token ∧ Revoked O.env token s) ∨
  (supplied_token O rq = none ∧ ∃ token s₁,
    issue_token O.env (fresh_token_args rq task_id) s = .ok token s₁ ∧ Lapsed O.env token s₁) ∨
  (rq.protect_outbound_request = true ∧ ∃ token s₁, SessionToken O rq task_id s token s₁ ∧
    AdapterTokenLapses O rq task_id prompt token s₁)

theorem body_session_token (w : World Tok) :
    Body ((∃ token, supplied_token O rq = some token ∧ Revoked O.env token w.session_mgr) ∨
      (supplied_token O rq = none ∧ ∃ token s₁,
        issue_token O.env (fresh_token_args rq task_id) w.session_mgr = .ok token s₁ ∧
          Lapsed O.env token s₁)) (session_token O rq task_id) w := by
  unfold session_token
  cases supplied_token O rq with
  | some token =>
      exact (body_use_session_token O rq task_id token w).congr prefixed_body (by simp)
  | none => exact (body_issue_session_token O rq task_id w).congr prefixed_body (by simp)

theorem body_adapter_credentials (prompt : String) (token : Tok) (w : World Tok) :
    Body (rq.protect_outbound_request = true ∧
      AdapterTokenLapses O rq task_id prompt token w.session_mgr)
      (adapter_credentials O rq task_id prompt token) w := by
  unfold adapter_credentials
  cases hprot : rq.protect_outbound_request with
  | true =>
      refine ((body_protect_outbound O rq task_id prompt token w).andThen prefixed_body ?_).congr
        prefixed_body (by simp)
      exact fun _ _ => Ends.pure _
  | false => exact (Ends.pure _).congr prefixed_body (by simp)

theorem stage_jit_token_issue (prompt : String) (w : World Tok) :
    Stage (TokenSlips O rq task_id prompt w.session_mgr) (jit_token_issue O rq task_id prompt) w := by
  rw [jit_token_issue_steps]
  refine Body.stage (((body_session_token O rq task_id w).bind prefixed_body
    (fun token w' _ => body_adapter_credentials O rq task_id prompt token w')).congr prefixed_body ?_)
  unfold TokenSlips
  rw [or_assoc]
  refine or_congr_right (or_congr_right ?_)
  constructor
  · rintro ⟨token, w', hrun, hprot, hlapse⟩
    exact ⟨hprot, token, _, session_token_ok O rq task_id hrun, hlapse⟩
  · rintro ⟨hprot, token, s₁, htoken, hlapse⟩
    obtain ⟨w', hrun, rfl⟩ := htoken.run
    exact ⟨token, w', hrun, hprot, hlapse⟩

/-! ### The watchdogs and Stage 5 -/

theorem slips_check_budget (id : Uuid) (b : BudgetEnforcer) :
    ¬Slips (result (BudgetEnforcer.check_budget id b)) := by
  cases hs : b.sessions id with
  | none =>
      obtain ⟨x, hx, hk⟩ := BudgetEnforcer.require_session_none hs
      have hrun : BudgetEnforcer.check_budget id b = .error x b := bind_error hx
      rw [hrun]
      simp [result, hk, controlled_exc]
  | some session =>
      obtain ⟨hlt, hge⟩ := BudgetEnforcer.check_budget_run hs
      rcases lt_or_ge session.cost_usd session.budget_limit_usd with h | h
      · rw [hlt h]
        exact slips_ok _
      · obtain ⟨msg, hm⟩ := hge h
        rw [hm]
        simp [result, controlled_exc]

theorem slips_record_spend (id : Uuid) (amount : ℚ) (op : Option String) (b : BudgetEnforcer) :
    ¬Slips (result (BudgetEnforcer.record_spend id amount op b)) := by
  cases hs : b.sessions id with
  | none =>
      obtain ⟨x, hx, hk⟩ := BudgetEnforcer.require_session_none hs
      have hrun : BudgetEnforcer.record_spend id amount op b = .error x b := bind_error hx
      rw [hrun]
      simp [result, hk, controlled_exc]
  | some session =>
      rw [BudgetEnforcer.record_spend_run hs]
      split
      · exact slips_ok _
      · split
        · simp [result, controlled_exc]
        · exact slips_ok _

theorem slips_record_step (id : Uuid) (delta : ℤ) (signal : LoopSignal) (description : String)
    (d : LoopDetector) :
    ¬Slips (result (LoopDetector.record_step id delta signal description d)) := by
  cases hs : d.contexts id with
  | none =>
      obtain ⟨x, hx, hk⟩ := LoopDetector.require_context_none hs
      have hrun : LoopDetector.record_step id delta signal description d = .error x d :=
        bind_error hx
      rw [hrun]
      simp [result, hk, controlled_exc]
  | some ctx =>
      have hrun := (LoopDetector.record_run hs ⟨delta, signal, description⟩ rfl).1
      unfold LoopDetector.record at hrun
      rw [hrun]
      unfold LoopDetector.tripped
      split
      · simp [controlled_exc]
      · split
        · simp [controlled_exc]
        · split
          · simp [controlled_exc]
          · exact slips_ok _

/-- Clauses that record a refusal and raise a controlled class, for classes that are not. -/
def Records (f : Exc → Option (WM Tok α)) : Prop :=
  ∀ e g, f e = some g → controlled_exc e.kind = false ∧ ∃ event e',
    g = (do log event; throw e') ∧ is_refusal event = true ∧ controlled_exc e'.kind = true

theorem records_budget {event : Exc → AuditEvent} (h : ∀ e, is_refusal (event e) = true) :
    Records (fun e => if e.kind = .BudgetExceededError then
      some (do log (event e); throw ⟨.BudgetLimitError, e.str⟩ : WM Tok α) else none) := by
  intro e g hg
  beta_reduce at hg
  split at hg
  · rename_i hk
    cases hg
    exact ⟨by rw [hk]; rfl, _, _, rfl, h e, rfl⟩
  · cases hg

theorem records_loop {event : String → Exc → AuditEvent}
    (h : ∀ name e, is_refusal (event name e) = true) :
    Records (fun e => match loop_trip e.kind with
      | some (name, kind) => some (do log (event name e); throw ⟨kind, e.str⟩ : WM Tok α)
      | none => none) := by
  intro e g hg
  beta_reduce at hg
  split at hg
  · rename_i name kind htrip
    cases hg
    have hc : controlled_exc e.kind = false ∧ controlled_exc kind = true := by
      unfold loop_trip at htrip
      split at htrip <;> cases htrip <;> exact ⟨by simp [*, controlled_exc], rfl⟩
    exact ⟨hc.1, _, _, rfl, h name e, hc.2⟩
  · cases hg

section
variable {m : WM Tok α} {f : Exc → Option (WM Tok α)} {span task agent : String}
  {event : AuditEvent} {w : World Tok}

/-- A watchdog's trip is recorded and raised as a controlled class. -/
theorem stage_watchdog (hm : Silent m) (hslip : ¬Slips (result (m w))) (hf : Records f)
    (hevent : is_refusal event = false) :
    Stage False (span_stage span task agent (do let _ ← catching m f; log event)) w := by
  refine Body.stage (Ends.andThen prefixed_body ?_ fun _ _ => body_log hevent)
  refine (hm.catching (B := fun e => controlled_exc e.kind = true) (fun _ _ => Iff.rfl) ?_).congr
    prefixed_body (iff_false_intro hslip)
  intro e g hg w'
  obtain ⟨hc, event, e', rfl, hevent, hc'⟩ := hf e g hg
  refine ⟨(body_refused hevent).congr prefixed_body (by simp [hc, hc']), ?_⟩
  intro a w'' hrun
  cases hrun

/-- A watchdog lets pass what its component does. -/
theorem watchdog_ok_iff (hf : Records f) {u : Unit} {w' : World Tok} :
    span_stage span task agent (do let _ ← catching m f; log event) w = .ok u w' ↔
      ∃ a w₁, m w = .ok a w₁ ∧ w' = { w₁ with audit := w₁.audit ++ [event] } := by
  rw [span_stage_eq_ok]
  constructor
  · intro h
    obtain ⟨a, w₁, hrun, hlog⟩ := bind_eq_ok.mp h
    cases hlog
    refine ⟨a, w₁, (catching_eq_ok_iff_body fun e g hg => ?_).mp hrun, rfl⟩
    obtain ⟨_, _, _, rfl, _⟩ := hf e g hg
    exact log_throw_neverReturns
  · rintro ⟨a, w₁, hm, rfl⟩
    exact bind_ok (catching_ok hm)

end

theorem stage_watchdog_pre_llm (w : World Tok) : Stage False (watchdog_pre_llm O rq task_id) w := by
  unfold watchdog_pre_llm
  split
  · exact Ends.pure ()
  · refine stage_watchdog (silent_on_budget _) ?_ (records_budget fun _ => rfl) rfl
    rw [on_budget, result_zoom]
    exact slips_check_budget _ _

theorem stage_watchdog_record_spend (resp : LLMResponse) (w : World Tok) :
    Stage False (watchdog_record_spend O rq task_id resp) w := by
  unfold watchdog_record_spend
  split
  · exact Ends.pure ()
  · refine stage_watchdog (silent_on_budget _) ?_ (records_budget fun _ => rfl) rfl
    rw [on_budget, result_zoom]
    exact slips_record_spend _ _ _ _

theorem stage_watchdog_loop_detect (resp : LLMResponse) (w : World Tok) :
    Stage False (watchdog_loop_detect O rq task_id resp) w := by
  unfold watchdog_loop_detect
  split
  · exact Ends.pure ()
  · refine stage_watchdog (silent_on_loop _) ?_ (records_loop fun _ _ => rfl) rfl
    rw [on_loop, result_zoom]
    exact slips_record_step _ _ _ _ _

theorem stage_post_sanitize (resp : LLMResponse) (w : World Tok) :
    Stage (Slips (O.guardrails.mask_pii resp.content)) (post_sanitize O rq task_id resp) w :=
  Body.stage (body_masked _ _ _ _ _ _ w)

end

end AegisOs.Orchestrator
