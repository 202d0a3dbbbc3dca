/-
# `AegisOs.ControlPlane.ApprovalAgreement` — when the approval protocol agrees

Nothing makes the query and the signal of a service call one step, and the gate
keeps whatever signal came last, so two calls can return different decisions
and the first approver's answer can be overturned (`approved_and_denied`).

The runs that agree are exactly the careful ones (`decisions_agree_iff`).
`Inv` is the invariant of careful runs: every signal on its way or pending
belongs to a call that has returned, all of these returned the same, and the
gate is still open or has ended in that decision.  A careless step breaks the
agreement at once (`Inv.careless`).
-/
import AegisOs.ControlPlane.Approval
import Mathlib.Data.Fintype.Basic

namespace AegisOs

open Lib TaskApprovalService

namespace Protocol

variable {Tok ι : Type}

/-! ## The calls -/

/-- The calls keep to their program. -/
structure CallsOk (S : Protocol Tok ι) : Prop where
  good : ∀ i, (S.calls i).Good (fun h _ q _ => AtAwait h q) (fun h _ r _ => Returned h r)
    (fun h _ _ _ => Unsent h)
  done : ∀ i h r, S.calls i = .stopped h (.done r) → Returned h r
  await : ∀ {i h q k}, S.calls i = .stopped h (.waiting q k) → AtAwait h q

theorem returned_waiting {S : Protocol Tok ι} {i : ι} {h : Log} {q : TemporalCall}
    {k : Except Exc q.Answer → Service ApprovalDecisionResult}
    (hi : S.calls i = .stopped h (.waiting q k)) : S.returned i = none := by
  unfold returned
  rw [hi]

section
variable [DecidableEq ι] {S S' : Protocol Tok ι} {i : ι} {h : Log}
  {p : Service ApprovalDecisionResult}

/-- A call that runs on keeps to its program. -/
theorem CallsOk.advance (hc : CallsOk S) (hp : ServiceSafe h p)
    (hS : S'.calls = S.advance i h p) : CallsOk S' := by
  have hstop := hp.resume
  refine ⟨?_, ?_, ?_⟩
  · intro j
    rw [hS, Protocol.advance]
    by_cases hj : j = i
    · subst hj
      rw [Function.update_self]
      exact Co.Thread.good_of_stopOk hstop
    · rw [Function.update_of_ne hj]
      exact hc.good j
  · intro j h' r hj'
    rw [hS, Protocol.advance] at hj'
    by_cases hj : j = i
    · subst hj
      rw [Function.update_self] at hj'
      obtain ⟨rfl, hpt⟩ := Co.Thread.stopped.inj hj'
      rw [hpt] at hstop
      exact hstop
    · rw [Function.update_of_ne hj] at hj'
      exact hc.done j h' r hj'
  · intro j h' q k hj'
    rw [hS, Protocol.advance] at hj'
    by_cases hj : j = i
    · subst hj
      rw [Function.update_self] at hj'
      obtain ⟨rfl, hpt⟩ := Co.Thread.stopped.inj hj'
      rw [hpt] at hstop
      exact hstop.1
    · rw [Function.update_of_ne hj] at hj'
      exact hc.await hj'

/-- A call that has not just sent its signal has not returned. -/
theorem returned_advance_unsent (hp : ServiceSafe h p) (hu : Unsent h)
    (hi : S.returned i = none) (hS : S'.calls = S.advance i h p) : S'.returned = S.returned := by
  funext j
  by_cases hj : j = i
  · subst hj
    rw [hi]
    unfold returned
    rw [hS, Protocol.advance, Function.update_self]
    have hstop := hp.resume
    cases hpt : (p.resume ()).1 with
    | done r =>
        rw [hpt] at hstop
        obtain ⟨h₀, id, name, d, rfl, _⟩ := hstop
        exact absurd (by simp) (hu id name d)
    | failed e => rfl
    | waiting q k => rfl
  · unfold returned
    rw [hS, Protocol.advance, Function.update_of_ne hj]

/-- A call that has just sent its signal has returned. -/
theorem returned_advance_sent {id : String} {name : SignalName} {d : ApprovalSignalPayload}
    (hp : ServiceSafe (h ++ [⟨.signal id name d, .ok ()⟩]) p)
    (hS : S'.calls = S.advance i (h ++ [⟨.signal id name d, .ok ()⟩]) p) :
    ∃ r, S'.returned i = some r ∧ r.status = (decisionOf d).value ∧
      ∀ j, j ≠ i → S'.returned j = S.returned j := by
  have hstop := hp.resume
  have hcalls : S'.calls i =
      .stopped (h ++ [⟨.signal id name d, .ok ()⟩]) (p.resume ()).1 := by
    rw [hS, Protocol.advance, Function.update_self]
  have hothers : ∀ j, j ≠ i → S'.returned j = S.returned j := by
    intro j hj
    unfold returned
    rw [hS, Protocol.advance, Function.update_of_ne hj]
  cases hpt : (p.resume ()).1 with
  | done r =>
      rw [hpt] at hstop hcalls
      obtain ⟨h₀, id', name', d', he, hr⟩ := hstop
      obtain ⟨_, hlast⟩ := List.append_inj' he rfl
      cases hlast
      exact ⟨r, by unfold returned; rw [hcalls], hr, hothers⟩
  | failed e =>
      rw [hpt] at hstop
      exact absurd (by simp) (hstop id name d)
  | waiting q k =>
      rw [hpt] at hstop
      exact absurd (by simp) (hstop.1.1 id name d)

/-- Nobody is about to signal a workflow that has not entered its gate. -/
def Asked (S : Protocol Tok ι) : Prop :=
  ∀ i h id name d k, S.calls i = .stopped h (.waiting (.signal id name d) k) →
    S.flow.state.approval_state ≠ .NOT_REQUIRED

omit [DecidableEq ι] in
theorem Asked.flow (ha : Asked S) (hcalls : S'.calls = S.calls)
    (hn : AgentTaskWorkflow.Next S.flow.state.approval_state S'.flow.state.approval_state) :
    Asked S' := by
  intro i h id name d k hi
  rw [hcalls] at hi
  have hne := ha i h id name d k hi
  intro hst
  rw [hst] at hn
  generalize S.flow.state.approval_state = a at hn hne
  cases hn
  exact hne rfl

theorem Asked.advance (ha : Asked S) (hp : ServiceSafe h p) (hS : S'.calls = S.advance i h p)
    (hflow : S'.flow = S.flow)
    (hlast : ∀ (h₀ : Log) id (snapshot : ApprovalStatusSnapshot),
      h = h₀ ++ [⟨.query id, .ok snapshot⟩] →
      snapshot.approval_state = PendingApprovalState.AWAITING_APPROVAL.value →
      S.flow.state.approval_state ≠ .NOT_REQUIRED) : Asked S' := by
  intro j h' id name d k hj'
  rw [hS, Protocol.advance] at hj'
  rw [hflow]
  by_cases hj : j = i
  · subst hj
    rw [Function.update_self] at hj'
    obtain ⟨rfl, hpt⟩ := Co.Thread.stopped.inj hj'
    have hstop := hp.resume
    rw [hpt] at hstop
    obtain ⟨h₀, id', snapshot, hh, hst⟩ := hstop.1.2 id name d rfl
    exact hlast h₀ id' snapshot hh hst
  · rw [Function.update_of_ne hj] at hj'
    exact ha j h' id name d k hj'

end

/-! ## The invariant -/

/-- The invariant of careful runs. -/
structure Inv (inp : WorkflowInput) (S : Protocol Tok ι) : Prop where
  flow : AgentTaskWorkflow.Reaches inp S.flow
  calls : CallsOk S
  asked : Asked S
  /-- Every signal belongs to a call that has returned. -/
  sent : ∀ d, (∃ name, (name, d) ∈ S.queue) ∨ S.flow.state.approval_signal = some d →
    ∃ i r, S.returned i = some r ∧ r.status = (decisionOf d).value
  same : ∀ i j r r', S.returned i = some r → S.returned j = some r' → r.status = r'.status
  agree : ∀ i r, S.returned i = some r →
    (S.flow.state.approval_state = .AWAITING_APPROVAL ∧ Running S.flow) ∨
      S.flow.state.approval_state.value = r.status

theorem Inv.agreement {inp : WorkflowInput} {S : Protocol Tok ι} (h : Inv inp S) :
    Agreement S := by
  refine ⟨h.same, ?_⟩
  intro i r hr hend
  rcases h.agree i r hr with ⟨haw, hrun⟩ | hst
  · rcases hend with hf | hn
    · exact absurd haw hf.ne_awaiting
    · exact absurd hrun hn
  · exact hst

section
variable {inp : WorkflowInput} {S S' : Protocol Tok ι}

theorem Initial.inv (h : Initial inp S) : Inv inp S := by
  have hret : ∀ i, S.returned i = none := by
    intro i
    unfold returned
    obtain ⟨t, a, r, hc | hc⟩ := h.calls i <;> rw [hc]
  have hsig : S.flow.state.approval_signal = none := by
    rw [h.flow]
    rfl
  refine ⟨⟨{}, .refl, h.flow ▸ .refl⟩, ⟨?_, ?_, ?_⟩, ?_, ?_, ?_, ?_⟩
  · intro i
    obtain ⟨t, a, r, hc | hc⟩ := h.calls i
    · rw [hc]
      exact fun _ => signal_decision_safe rfl t a r
    · rw [hc]
      exact fun _ => signal_decision_safe rfl t a r
  · intro i hist r hc
    obtain ⟨t, a, reason, hf | hf⟩ := h.calls i <;> rw [hf] at hc <;> cases hc
  · intro i hist q k hc
    obtain ⟨t, a, reason, hf | hf⟩ := h.calls i <;> rw [hf] at hc <;> cases hc
  · intro i hist id name d k hc
    obtain ⟨t, a, reason, hf | hf⟩ := h.calls i <;> rw [hf] at hc <;> cases hc
  · rintro d (⟨name, hm⟩ | hs)
    · rw [h.queue] at hm
      cases hm
    · rw [hsig] at hs
      cases hs
  · intro i j r r' hr
    rw [hret i] at hr
    cases hr
  · intro i r hr
    rw [hret i] at hr
    cases hr

/-- A step of a call that sends nothing. -/
theorem Inv.call_step (hI : Inv inp S) (hflow : S'.flow = S.flow) (hqueue : S'.queue = S.queue)
    (hret : S'.returned = S.returned) (hcalls : CallsOk S') (hasked : Asked S') : Inv inp S' := by
  refine ⟨hflow ▸ hI.flow, hcalls, hasked, ?_, ?_, ?_⟩
  · rw [hflow, hqueue, hret]
    exact hI.sent
  · rw [hret]
    exact hI.same
  · rw [hflow, hret]
    exact hI.agree

/-- What happens to a suspended workflow. -/
theorem Inv.drift (hI : Inv inp S) {w : AgentTaskWorkflow}
    {queue : List (SignalName × ApprovalSignalPayload)}
    (hs : AgentTaskWorkflow.Signalled S.flow.state w) (hS : S'.flow = { S.flow with state := w })
    (hcalls : S'.calls = S.calls) (hqueue : S'.queue = queue) (hsub : ∀ m ∈ queue, m ∈ S.queue)
    (hsig : ∀ d, w.approval_signal = some d →
      (∃ name, (name, d) ∈ S.queue) ∨ S.flow.state.approval_signal = some d) : Inv inp S' := by
  have hret : S'.returned = S.returned := by
    funext i
    unfold returned
    rw [hcalls]
  have hst := hs.drifted.state
  refine ⟨?_, ⟨hcalls ▸ hI.calls.good, hcalls ▸ hI.calls.done, hcalls ▸ hI.calls.await⟩, ?_, ?_, ?_,
    ?_⟩
  · rw [hS]
    exact hI.flow.step (.interfere hs)
  · refine hI.asked.flow hcalls ?_
    rw [hS, show ({ S.flow with state := w } : AgentTaskWorkflow.Config Tok).state.approval_state =
      S.flow.state.approval_state from hst]
    exact .stay _
  · rw [hS, hret, hqueue]
    rintro d (⟨name, hm⟩ | hd)
    · exact hI.sent d (.inl ⟨name, hsub _ hm⟩)
    · exact hI.sent d (hsig d hd)
  · rw [hret]
    exact hI.same
  · rw [hret, hS]
    intro i r hr
    rw [show w.approval_state = S.flow.state.approval_state from hst]
    exact hI.agree i r hr

/-- A workflow that has been answered and is still awaiting approval is still running. -/
theorem running_of_awaiting {c : AgentTaskWorkflow.Config Tok} {h : AgentTaskWorkflow.Calls Tok}
    {q : WorkflowCall Tok} {a : q.Answer} (hg : AgentTaskWorkflow.Good inp c)
    (hst : c.state.approval_state = .AWAITING_APPROVAL) (hh : c.hist = h ++ [⟨q, .ok a⟩]) :
    Running c := by
  have hstop : c.stop.approval_state = .AWAITING_APPROVAL := by
    rw [← (AgentTaskWorkflow.good_now hg).state]
    exact hst
  have hok := hg.stopOk
  unfold Running AgentTaskWorkflow.waitingFor
  cases hp : c.point with
  | done out =>
      rw [hp] at hok
      exact absurd hstop hok.2.1
  | failed e =>
      rw [hp] at hok
      obtain ⟨h₀, q', e', he⟩ := hok.2 hstop
      rw [hh] at he
      obtain ⟨_, hlast⟩ := List.append_inj' he rfl
      cases hlast
  | waiting q' k => rfl

/-- What a call returned is one of the two decisions. -/
theorem CallsOk.status (hc : CallsOk S) {i : ι} {r : ApprovalDecisionResult}
    (hr : S.returned i = some r) : ∃ d, r.status = (decisionOf d).value := by
  unfold returned at hr
  split at hr
  · rename_i h r' hcall
    cases hr
    obtain ⟨_, _, _, d, _, hd⟩ := hc.done i h _ hcall
    exact ⟨d, hd⟩
  · cases hr

theorem decisionOf_cases (d : ApprovalSignalPayload) :
    decisionOf d = .APPROVED ∨ decisionOf d = .DENIED := by
  unfold decisionOf
  split
  · exact .inl rfl
  · exact .inr rfl

theorem decisionOf_final (d : ApprovalSignalPayload) : AgentTaskWorkflow.Final (decisionOf d) := by
  rcases decisionOf_cases d with h | h
  · exact .inl h
  · exact .inr (.inl h)

/-- The workflow is resumed. -/
theorem Inv.resume (hI : Inv inp S) {q : WorkflowCall Tok} {r : Except Exc q.Answer}
    {c' : AgentTaskWorkflow.Config Tok} (hs : AgentTaskWorkflow.Steps S.flow c')
    (hh : c'.hist = S.flow.hist ++ [⟨q, r⟩]) (hcareful : Careful S (.resume q r)) :
    Inv inp { S with flow := c' } := by
  have hgood := hI.flow.good
  have hreach' := hI.flow.step hs
  have hsignal : c'.state.approval_signal = S.flow.state.approval_signal := by
    rcases AgentTaskWorkflow.step_move hgood hs with ⟨hsame, _⟩ | ⟨_, _, _, _, hsig, _⟩
    · rw [hsame] at hh
      exact absurd hh (by simp)
    · exact hsig
  refine ⟨hreach', ⟨hI.calls.good, hI.calls.done, hI.calls.await⟩,
    hI.asked.flow rfl (AgentTaskWorkflow.step_next hgood hs), ?_, hI.same, ?_⟩
  · intro d hd
    rw [show ({ S with flow := c' } : Protocol Tok ι).flow.state.approval_signal =
      S.flow.state.approval_signal from hsignal] at hd
    exact hI.sent d hd
  · intro i res hres
    rcases hI.agree i res hres with ⟨haw, _⟩ | hst
    · cases r with
      | error e => exact absurd (hcareful haw i) (by rw [show S.returned i = some res from hres]; simp)
      | ok a =>
          by_cases hne : c'.state.approval_state = S.flow.state.approval_state
          · have haw' := hne.trans haw
            exact .inl ⟨haw', running_of_awaiting hreach'.good haw' hh⟩
          · refine .inr ?_
            obtain ⟨d, hsig, hst'⟩ := AgentTaskWorkflow.step_leaves hgood hs haw hne hh
            obtain ⟨j, r', hj, hr'⟩ := hI.sent d (.inr hsig)
            show c'.state.approval_state.value = res.status
            rw [hI.same i j res r' hres hj, hr', hst']
            rfl
    · -- a returned decision that the gate has taken is final
      obtain ⟨d, hd⟩ := hI.calls.status hres
      have heq : S.flow.state.approval_state = decisionOf d :=
        PendingApprovalState.value_injective (hst.trans hd)
      refine .inr ?_
      show c'.state.approval_state.value = res.status
      rw [(AgentTaskWorkflow.step_final hgood (heq ▸ decisionOf_final d) hs).1]
      exact hst

/-- A call sends its signal and returns. -/
theorem Inv.send [DecidableEq ι] (hI : Inv inp S) {i : ι} {h : Log} {id : String}
    {name : SignalName} {d : ApprovalSignalPayload}
    {k : Except Exc Unit → Service ApprovalDecisionResult}
    (hi : S.calls i = .stopped h (.waiting (.signal id name d) k)) (hrun : Running S.flow)
    (hcareful : Careful S (.send i d)) (hflow : S'.flow = S.flow)
    (hqueue : S'.queue = S.queue ++ [(name, d)])
    (hcalls : S'.calls = S.advance i (h ++ [⟨.signal id name d, .ok ()⟩]) (k (.ok ()))) :
    Inv inp S' := by
  have hsafe := hI.calls.good i
  rw [hi] at hsafe
  have hsafe' := hsafe (.ok ()) ()
  obtain ⟨r, hri, hrs, hothers⟩ := returned_advance_sent hsafe' hcalls
  have hkept : ∀ j r', S.returned j = some r' → S'.returned j = some r' := by
    intro j r' hj
    by_cases hji : j = i
    · subst hji
      rw [returned_waiting hi] at hj
      cases hj
    · rw [hothers j hji, hj]
  -- whoever has returned now has returned this decision
  have hall : ∀ j r', S'.returned j = some r' → r'.status = (decisionOf d).value := by
    intro j r' hj
    by_cases hji : j = i
    · subst hji
      rw [hri] at hj
      cases hj
      exact hrs
    · rw [hothers j hji] at hj
      exact hcareful.1 j r' hj
  refine ⟨hflow ▸ hI.flow, hI.calls.advance hsafe' hcalls,
    hI.asked.advance hsafe' hcalls hflow ?_, ?_, ?_, ?_⟩
  · intro h₀ id' snapshot he
    obtain ⟨_, hlast⟩ := List.append_inj' he rfl
    cases hlast
  · rw [hflow, hqueue]
    rintro d' (⟨name', hm⟩ | hd')
    · rcases List.mem_append.mp hm with hm | hm
      · obtain ⟨j, r', hj, hr'⟩ := hI.sent d' (.inl ⟨name', hm⟩)
        exact ⟨j, r', hkept j r' hj, hr'⟩
      · cases List.mem_singleton.mp hm
        exact ⟨i, r, hri, hrs⟩
    · obtain ⟨j, r', hj, hr'⟩ := hI.sent d' (.inr hd')
      exact ⟨j, r', hkept j r' hj, hr'⟩
  · intro j j' r₁ r₂ h₁ h₂
    rw [hall j r₁ h₁, hall j' r₂ h₂]
  · intro j r' hj
    rw [hflow, hall j r' hj]
    rcases hcareful.2 with haw | hst
    · exact .inl ⟨haw, hrun⟩
    · exact .inr (by rw [hst])

theorem Inv.step [DecidableEq ι] {ev : Event Tok ι} (hI : Inv inp S) (hs : Step S ev S')
    (hc : Careful S ev) : Inv inp S' := by
  cases hs with
  | @resume h s₀ s₁ s q k r hflow hmay =>
      refine hI.resume ?_ ?_ hc
      · rw [hflow]
        exact .answer hmay
      · rw [hflow]
        rfl
  | @deliver m rest hq =>
      obtain ⟨name, d⟩ := m
      have hsig : AgentTaskWorkflow.Signalled S.flow.state (handle (name, d) S.flow.state) := by
        cases name with
        | approve => exact .approve d _
        | deny => exact .deny d _
      refine hI.drift hsig rfl rfl rfl (fun m hm => by rw [hq]; exact List.mem_cons_of_mem _ hm) ?_
      intro d' hd'
      have hcase : (handle (name, d) S.flow.state).approval_signal = some d ∨
          handle (name, d) S.flow.state = S.flow.state := by
        cases name <;>
        · show (AgentTaskWorkflow.on_signal d S.flow.state).approval_signal = some d ∨
            AgentTaskWorkflow.on_signal d S.flow.state = S.flow.state
          unfold AgentTaskWorkflow.on_signal
          split
          · exact .inl rfl
          · exact .inr rfl
      rcases hcase with hcase | hcase
      · rw [hcase] at hd'
        cases hd'
        exact .inl ⟨name, by rw [hq]; exact List.mem_cons_self⟩
      · rw [hcase] at hd'
        exact .inr hd'
  | time t =>
      exact hI.drift (.time t _) rfl rfl rfl (fun _ hm => hm) fun d hd => .inr hd
  | @begin i p hi =>
      have hsafe := hI.calls.good i
      rw [hi] at hsafe
      have hnone : S.returned i = none := by
        unfold returned
        rw [hi]
      exact hI.call_step rfl rfl (returned_advance_unsent (hsafe ()) Unsent.nil hnone rfl)
        (hI.calls.advance (hsafe ()) rfl)
        (hI.asked.advance (hsafe ()) rfl rfl fun h₀ _ _ he => absurd he (by simp))
  | @query i h id k hi =>
      have hsafe := hI.calls.good i
      rw [hi] at hsafe
      exact hI.call_step rfl rfl
        (returned_advance_unsent (hsafe _ ()) ((hI.calls.await hi).1.query id _)
          (returned_waiting hi) rfl)
        (hI.calls.advance (hsafe _ ()) rfl)
        (hI.asked.advance (hsafe _ ()) rfl rfl fun h₀ id' snapshot he hst => by
          obtain ⟨_, hlast⟩ := List.append_inj' he rfl
          cases hlast
          rw [PendingApprovalState.value_injective hst]
          simp)
  | @send i h id name d k hi hrun => exact hI.send hi hrun hc rfl rfl rfl
  | @refuse i h q k e hi =>
      have hsafe := hI.calls.good i
      rw [hi] at hsafe
      exact hI.call_step rfl rfl
        (returned_advance_unsent (hsafe _ ()) ((hI.calls.await hi).1.error q e)
          (returned_waiting hi) rfl)
        (hI.calls.advance (hsafe _ ()) rfl)
        (hI.asked.advance (hsafe _ ()) rfl rfl fun h₀ id' snapshot he => by
          obtain ⟨_, hlast⟩ := List.append_inj' he rfl
          cases hlast)

/-- A call that sends while another has sent the other decision, or to a gate that has ended
otherwise, and a gate abandoned after a call has returned: each breaks the agreement. -/
theorem Inv.careless [DecidableEq ι] {ev : Event Tok ι} (hI : Inv inp S) (hs : Step S ev S')
    (hn : ¬Careful S ev) : ¬Agreement S' := by
  rintro ⟨hsame, hend⟩
  cases hs with
  | @resume h s₀ s₁ s q k r hflow hmay =>
      cases r with
      | ok a => exact hn trivial
      | error e =>
          have hcase : S.flow.state.approval_state = .AWAITING_APPROVAL ∧
              ∃ j r, S.returned j = some r := by
            by_contra hno
            refine hn fun haw j => ?_
            cases hj : S.returned j with
            | none => rfl
            | some r => exact absurd ⟨haw, j, r, hj⟩ hno
          obtain ⟨haw, j, r, hj⟩ := hcase
          obtain ⟨d, hd⟩ := hI.calls.status hj
          have hstep : AgentTaskWorkflow.Steps S.flow (Co.Conf.answer h q k (.error e) s) := by
            rw [hflow]
            exact .answer hmay
          have hhist : (Co.Conf.answer h q k (.error e) s).hist =
              S.flow.hist ++ [⟨q, .error e⟩] := by
            rw [hflow]
            rfl
          -- the gate has ended in a state that is no decision
          have hne : ∀ a, a ≠ PendingApprovalState.APPROVED → a ≠ .DENIED →
              a.value ≠ r.status := by
            intro a h₁ h₂ he
            rw [hd] at he
            rw [PendingApprovalState.value_injective he] at h₁ h₂
            rcases decisionOf_cases d with hf | hf
            · exact h₁ hf
            · exact h₂ hf
          rcases AgentTaskWorkflow.step_fails hI.flow.good hstep haw hhist with hto | ⟨haw', hdead⟩
          · exact hne _ (by rw [hto]; simp) (by rw [hto]; simp)
              (hend j r hj (.inl (.inr (.inr hto))))
          · refine hne _ (by rw [haw']; simp) (by rw [haw']; simp) (hend j r hj (.inr ?_))
            unfold Running
            rw [hdead]
            simp
  | @send i h id name d k hi hrun =>
      have hsafe := hI.calls.good i
      rw [hi] at hsafe
      let S' : Protocol Tok ι :=
        { S with
          queue := S.queue ++ [(name, d)]
          calls := S.advance i (h ++ [⟨.signal id name d, .ok ()⟩]) (k (.ok ())) }
      have hS' : S'.calls = S.advance i (h ++ [⟨.signal id name d, .ok ()⟩]) (k (.ok ())) := rfl
      obtain ⟨r, hri, hrs, hothers⟩ := returned_advance_sent (hsafe (.ok ()) ()) hS'
      refine hn ⟨?_, ?_⟩
      · intro j r' hj
        have hji : j ≠ i := by
          rintro rfl
          rw [returned_waiting hi] at hj
          cases hj
        rw [← hrs]
        exact hsame j i r' r ((hothers j hji).trans hj) hri
      · by_contra hst
        rw [not_or] at hst
        have hasked := hI.asked i h id name d k hi
        have hfinal : AgentTaskWorkflow.Final S.flow.state.approval_state := by
          unfold AgentTaskWorkflow.Final
          cases ha : S.flow.state.approval_state with
          | NOT_REQUIRED => exact absurd ha hasked
          | AWAITING_APPROVAL => exact absurd ha hst.1
          | APPROVED => exact .inl rfl
          | DENIED => exact .inr (.inl rfl)
          | TIMED_OUT => exact .inr (.inr rfl)
        exact hst.2 (PendingApprovalState.value_injective ((hend i r hri (.inl hfinal)).trans hrs))
  | deliver _ | time _ | begin _ | query _ | refuse _ _ => exact hn trivial

/-- **The service's answers agree with the workflow exactly in careful runs.** -/
theorem decisions_agree_iff [DecidableEq ι] {S₀ S : Protocol Tok ι}
    {tr : List (Protocol Tok ι × Event Tok ι)} (h₀ : Initial inp S₀) (htr : Trace S₀ tr S) :
    ((∀ p ∈ tr, Agreement p.1) ∧ Agreement S) ↔ ∀ p ∈ tr, Careful p.1 p.2 := by
  have hinv : ∀ {tr S}, Trace S₀ tr S → (∀ p ∈ tr, Careful p.1 p.2) → Inv inp S := by
    intro tr S htr hc
    induction htr with
    | start => exact h₀.inv
    | snoc _ hs ih =>
        exact (ih fun p hp => hc p (List.mem_append_left _ hp)).step hs
          (hc (_, _) (List.mem_append_right _ (List.mem_singleton_self _)))
  constructor
  · rintro ⟨hall, hlast⟩
    induction htr with
    | start =>
        intro p hp
        cases hp
    | snoc htr hs ih =>
        have hprev := ih (fun p hp => hall p (List.mem_append_left _ hp))
          (hall (_, _) (List.mem_append_right _ (List.mem_singleton_self _)))
        intro p hp
        rcases List.mem_append.mp hp with hp | hp
        · exact hprev p hp
        · cases List.mem_singleton.mp hp
          by_contra hn
          exact (hinv htr hprev).careless hs hn hlast
  · intro hc
    refine ⟨?_, (hinv htr hc).agreement⟩
    induction htr with
    | start =>
        intro p hp
        cases hp
    | snoc htr hs ih =>
        have hprev := fun p hp => hc p (List.mem_append_left _ hp)
        intro p hp
        rcases List.mem_append.mp hp with hp | hp
        · exact ih hprev p hp
        · cases List.mem_singleton.mp hp
          exact (hinv htr hprev).agreement

end

/-! ## Playing a schedule -/

/-- Whose turn it is. -/
inductive Turn (ι : Type) where
  | flow
  | deliver
  | call (i : ι)

/-- One turn: the event and the state after it, if the turn can be taken.  The workflow's calls are
answered as `f` does. -/
def turn [DecidableEq ι] (f : (q : WorkflowCall Tok) → Except Exc q.Answer) (S : Protocol Tok ι) :
    Turn ι → Option (Event Tok ι × Protocol Tok ι)
  | .flow =>
      match S.flow.point with
      | .waiting q k =>
          if AgentTaskWorkflow.MayAnswer q (f q) S.flow.state then some (.resume q (f q),
            { S with flow := Co.Conf.answer S.flow.hist q k (f q) S.flow.state })
          else none
      | _ => none
  | .deliver =>
      match S.queue with
      | m :: rest => some (.deliver,
          { S with flow := { S.flow with state := handle m S.flow.state }, queue := rest })
      | [] => none
  | .call i =>
      match S.calls i with
      | .fresh p => some (.begin i, { S with calls := S.advance i [] p })
      | .stopped h (.waiting (.query id) k) => some (.query i,
          { S with
            calls := S.advance i (h ++ [⟨.query id, .ok S.flow.state.approval_status⟩])
              (k (.ok S.flow.state.approval_status)) })
      | .stopped h (.waiting (.signal id name d) k) =>
          if (AgentTaskWorkflow.waitingFor S.flow).isSome then some (.send i d,
            { S with
              queue := S.queue ++ [(name, d)]
              calls := S.advance i (h ++ [⟨.signal id name d, .ok ()⟩]) (k (.ok ())) })
          else none
      | _ => none

theorem turn_step [DecidableEq ι] {f : (q : WorkflowCall Tok) → Except Exc q.Answer}
    {S S' : Protocol Tok ι} {t : Turn ι} {ev : Event Tok ι} (h : S.turn f t = some (ev, S')) :
    Step S ev S' := by
  cases t with
  | flow =>
      simp only [turn] at h
      split at h
      · rename_i q k hp
        split at h
        · rename_i hmay
          cases h
          exact .resume (by rw [← hp]) hmay
        · cases h
      · cases h
  | deliver =>
      simp only [turn] at h
      split at h
      · rename_i hq
        cases h
        exact .deliver hq
      · cases h
  | call i =>
      simp only [turn] at h
      split at h
      · rename_i hi
        cases h
        exact .begin hi
      · rename_i hi
        cases h
        exact .query hi
      · rename_i hi
        split at h
        · rename_i hrun
          cases h
          exact .send hi hrun
        · cases h
      · cases h

/-- A schedule, with the trace it leaves. -/
def play [DecidableEq ι] (f : (q : WorkflowCall Tok) → Except Exc q.Answer) :
    Protocol Tok ι → List (Turn ι) → Option (List (Protocol Tok ι × Event Tok ι) × Protocol Tok ι)
  | S, [] => some ([], S)
  | S, t :: ts =>
      match S.turn f t with
      | some (ev, S') => (S'.play f ts).map fun (tr, S'') => ((S, ev) :: tr, S'')
      | none => none

theorem Trace.play [DecidableEq ι] {f : (q : WorkflowCall Tok) → Except Exc q.Answer}
    {S₀ : Protocol Tok ι} (ts : List (Turn ι)) :
    ∀ {S S' : Protocol Tok ι} {tr₀ tr : List (Protocol Tok ι × Event Tok ι)},
      Trace S₀ tr₀ S → S.play f ts = some (tr, S') → Trace S₀ (tr₀ ++ tr) S' := by
  induction ts with
  | nil =>
      intro S S' tr₀ tr h hp
      cases hp
      simpa using h
  | cons t ts ih =>
      intro S S' tr₀ tr h hp
      simp only [Protocol.play] at hp
      split at hp
      · rename_i ev S₁ ht
        obtain ⟨⟨tr₁, S₂⟩, hp₁, he⟩ := Option.map_eq_some_iff.mp hp
        cases he
        simpa using ih (h.snoc (turn_step ht)) hp₁
      · cases hp

instance decCareful [Fintype ι] (S : Protocol Tok ι) : (ev : Event Tok ι) → Decidable (Careful S ev)
  | .send _ d => inferInstanceAs (Decidable
      ((∀ j, ∀ r ∈ S.returned j, r.status = (decisionOf d).value) ∧
        (S.flow.state.approval_state = .AWAITING_APPROVAL ∨
          S.flow.state.approval_state = decisionOf d)))
  | .resume _ (.error _) => inferInstanceAs (Decidable
      (S.flow.state.approval_state = .AWAITING_APPROVAL → ∀ j, S.returned j = none))
  | .resume _ (.ok _) | .deliver | .time | .begin _ | .query _ | .refuse _ => isTrue trivial

/-! ### Two approvers -/

open AgentTaskWorkflow in
/-- The workflow of `gatedInput`, one call that approves and one that denies. -/
def twoApprovers : Protocol Unit Bool where
  flow := Co.Conf.start (run gatedInput) {}
  queue := []
  calls
    | true => .fresh (TaskApprovalService.approve ⟨"task-0"⟩ "alice" "fine")
    | false => .fresh (TaskApprovalService.deny ⟨"task-0"⟩ "bob" "too much")

theorem twoApprovers_initial : Initial AgentTaskWorkflow.gatedInput twoApprovers where
  flow := rfl
  queue := rfl
  calls
    | true => ⟨_, _, _, .inl rfl⟩
    | false => ⟨_, _, _, .inr rfl⟩

/-- Both query while the audit of the gate is running, both signal, and the gate takes the last. -/
def clash : List (Turn Bool) :=
  [.flow, .flow, .flow, .call true, .call false, .call true, .call false, .call true, .call false,
    .deliver, .deliver, .flow, .flow]

/-- The first approver was told `approved`, and the workflow was denied. -/
theorem approved_and_denied : ∃ tr S, Trace twoApprovers tr S ∧
    (S.returned true).map ApprovalDecisionResult.status = some "approved" ∧
    (S.returned false).map ApprovalDecisionResult.status = some "denied" ∧
    S.flow.state.approval_state = .DENIED ∧ ¬Agreement S := by
  have hend : (twoApprovers.play (AgentTaskWorkflow.gatedAnswers (.ok ())) clash).map
      (fun p => ((p.2.returned true).map ApprovalDecisionResult.status,
        (p.2.returned false).map ApprovalDecisionResult.status, p.2.flow.state.approval_state)) =
      some (some "approved", some "denied", .DENIED) := by
    decide +kernel
  obtain ⟨⟨tr, S⟩, hp, he⟩ := Option.map_eq_some_iff.mp hend
  simp only [Prod.mk.injEq] at he
  obtain ⟨happroved, hdenied, hstate⟩ := he
  refine ⟨tr, S, Trace.play clash .start hp, happroved, hdenied, hstate, ?_⟩
  rintro ⟨hsame, _⟩
  obtain ⟨r, hr, hrs⟩ := Option.map_eq_some_iff.mp happroved
  obtain ⟨r', hr', hrs'⟩ := Option.map_eq_some_iff.mp hdenied
  have := hsame true false r r' hr hr'
  rw [hrs, hrs'] at this
  exact absurd this (by decide)

/-- The same workflow when only the first call is made. -/
def oneCall : List (Turn Bool) :=
  [.flow, .flow, .flow, .call true, .call true, .call true, .deliver, .flow, .flow]

theorem oneCall_agrees : ∃ tr S, Trace twoApprovers tr S ∧
    (S.returned true).map ApprovalDecisionResult.status = some "approved" ∧
    S.flow.state.approval_state = .APPROVED ∧ Agreement S := by
  have hend : (twoApprovers.play (AgentTaskWorkflow.gatedAnswers (.ok ())) oneCall).map
      (fun p => ((p.2.returned true).map ApprovalDecisionResult.status,
        p.2.flow.state.approval_state, p.1.all fun q => decide (Careful q.1 q.2))) =
      some (some "approved", .APPROVED, true) := by
    decide +kernel
  obtain ⟨⟨tr, S⟩, hp, he⟩ := Option.map_eq_some_iff.mp hend
  simp only [Prod.mk.injEq, List.all_eq_true, decide_eq_true_eq] at he
  have htr : Trace twoApprovers tr S := Trace.play oneCall .start hp
  exact ⟨tr, S, htr, he.1, he.2.1, ((decisions_agree_iff twoApprovers_initial htr).mpr he.2.2).2⟩

end Protocol

end AegisOs
