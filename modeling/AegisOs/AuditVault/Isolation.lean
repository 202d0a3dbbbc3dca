/-
# `AegisOs.AuditVault.Isolation` — one logger, or one for each task

A logger is shared by every task of the process, and its callers interleave: the clock is
read before the lock, the entries are written after it.  Two facts reduce a run to its
tasks.

**The lock orders a run.**  Whatever the interleaving, the entries handed out are those of
the calls served one after another, in the order in which they got the lock (`Conf.foldl_served`).

**A task has the logger to itself.**  Under the lock a call looks at nothing but its own
task's counter and last timestamp (`serve_about`), so the calls of a task number, stamp,
warn and raise as on a logger nobody else uses (`tasks_isolated`).
-/
import AegisOs.Lib.Shards
import AegisOs.AuditVault.Stream

namespace AegisOs.AuditLogger

open Lib Lib.EState

/-! ## Calls one at a time -/

/-- What a call that has the lock will write; the second component is what its clock, or its
explicit timestamp, showed. -/
def serve (x : TaskCall × ℤ) : EStateM Exc AuditLogger (List Entry) := do
  let reserved ← reserve x.1.task_id x.1.timestamp_override x.2
  return entries x.1 reserved.1 reserved.2.1 reserved.2.2

/-- The entries of the calls that do not raise. -/
def handedOut (outs : List (Except Exc (List Entry))) : List Entry :=
  outs.flatMap fun out => out.toOption.getD []

/-- The task of a call. -/
def taskOf (x : TaskCall × ℤ) : String := x.1.task_id

/-- The callers that get the lock, in order. -/
def Conf.locks : Conf → List Act → List (TaskCall × ℤ)
  | _, [] => []
  | c, .reserve i :: acts => c.waiting[i]?.toList ++ (c.step (.reserve i)).locks acts
  | c, .read call now :: acts => (c.step (.read call now)).locks acts
  | c, .write i :: acts => (c.step (.write i)).locks acts

/-- The order of the lock in a run. -/
def lockOrder (acts : List Act) : List (TaskCall × ℤ) := ({} : Conf).locks acts

theorem handedOut_cons (out : Except Exc (List Entry)) (outs : List (Except Exc (List Entry))) :
    handedOut (out :: outs) = out.toOption.getD [] ++ handedOut outs :=
  List.flatMap_cons

/-- **Linearisation**, from any configuration. -/
theorem Conf.foldl_served (acts : List Act) :
    ∀ c : Conf, (acts.foldl Conf.step c).logger = final serve (c.locks acts) c.logger ∧
      (acts.foldl Conf.step c).handed.Perm
        (c.handed ++ handedOut (outcomes serve (c.locks acts) c.logger)) := by
  induction acts with
  | nil =>
      intro c
      exact ⟨rfl, by simp [Conf.locks, outcomes, handedOut]⟩
  | cons act acts ih =>
      intro c
      rw [List.foldl_cons]
      obtain ⟨hlogger, hhanded⟩ := ih (c.step act)
      rw [hlogger]
      cases act with
      | read call now => exact ⟨rfl, hhanded⟩
      | write i =>
          obtain ⟨hsame, -, hperm⟩ := c.step_write i
          rw [Conf.locks, ← hsame]
          exact ⟨rfl, hhanded.trans (hperm.append_right _)⟩
      | reserve i =>
          rw [Conf.locks]
          cases hi : c.waiting[i]? with
          | none =>
              have hstep : c.step (.reserve i) = c := by simp only [Conf.step, hi]
              rw [hstep] at hhanded ⊢
              exact ⟨rfl, hhanded⟩
          | some p =>
              obtain ⟨call, cand⟩ := p
              rw [Option.toList_some, List.singleton_append, final, outcomes, handedOut_cons]
              cases hr : reserve call.task_id call.timestamp_override cand c.logger with
              | ok r l' =>
                  obtain ⟨n, t, w⟩ := r
                  have hserve : serve (call, cand) c.logger = .ok (entries call n t w) l' :=
                    bind_ok hr
                  rw [Conf.step_reserve_ok hi hr] at hhanded ⊢
                  rw [Conf.handed_reserve_ok, List.append_assoc] at hhanded
                  rw [hserve]
                  exact ⟨rfl, hhanded⟩
              | error x l' =>
                  have hserve : serve (call, cand) c.logger = .error x l' := bind_error hr
                  have hsame := reserve_error hr
                  subst hsame
                  rw [Conf.step_reserve_error hi hr] at hhanded ⊢
                  rw [hserve]
                  exact ⟨rfl, hhanded⟩

/-! ## The cell of a task -/

def cell (l : AuditLogger) (task_id : String) : ℕ × Option ℤ :=
  (l.seq_counters task_id, l.last_timestamps task_id)

theorem next_number_about (task_id : String) : About cell task_id (next_number task_id) := by
  refine .read ?_ fun l => .bind (.write ?_ ?_) fun _ => .pure _
  · intro l l' h
    have hseq : l.seq_counters task_id = l'.seq_counters task_id := congrArg Prod.fst h
    rw [hseq]
  · intro l₁ l₂ h
    simp only [cell, Prod.mk.injEq] at h
    simp [cell, h]
  · intro l₁ task_id' hne
    simp [cell, hne]

theorem reserve_about (task_id : String) (timestamp_override : Option Datetime) (candidate : ℤ) :
    About cell task_id (reserve task_id timestamp_override candidate) := by
  have hstamp : ∀ t : ℤ, About cell task_id (modify fun l => { l with
      last_timestamps := Function.update l.last_timestamps task_id (some t) } :
        EStateM Exc AuditLogger PUnit) := by
    intro t
    refine .write ?_ ?_
    · intro l₁ l₂ h
      simp only [cell, Prod.mk.injEq] at h
      simp [cell, h]
    · intro l task_id' hne
      simp [cell, hne]
  -- what the three branches have in common
  have hrest : ∀ (effective : ℤ) (warning_payload : Option WarningPayload),
      About cell task_id (do
        let sequence_number ← next_number task_id
        modify fun l => { l with
          last_timestamps := Function.update l.last_timestamps task_id (some effective) }
        return (sequence_number, effective, warning_payload)) :=
    fun t _ => (next_number_about task_id).bind fun _ => (hstamp t).bind fun _ => .pure _
  refine .read ?_ fun l => .ite (.raise _ _) ?_
  · intro l l' h
    have hlast : l.last_timestamps task_id = l'.last_timestamps task_id := congrArg Prod.snd h
    rw [hlast]
  · cases l.last_timestamps task_id with
    | none => exact .bind (.pure _) fun p => hrest p.1 p.2
    | some previous =>
        refine .ite (.bind (next_number_about task_id) fun _ => .bind (.pure _) fun p => ?_)
          (.bind (.pure _) fun p => hrest p.1 p.2)
        exact hrest p.1 p.2

theorem serve_about (x : TaskCall × ℤ) : About cell (taskOf x) (serve x) :=
  (reserve_about _ _ _).bind fun _ => .pure _

/-! ## Any interleaving -/

/-- The callers that get the lock have read their clocks. -/
theorem Conf.locks_read (acts : List Act) : ∀ (c : Conf) (x : TaskCall × ℤ), x ∈ c.locks acts →
    x ∈ c.waiting ∨ ∃ now, Act.read x.1 now ∈ acts := by
  induction acts with
  | nil =>
      intro c x hx
      cases hx
  | cons act acts ih =>
      intro c x hx
      cases act with
      | read call now =>
          rcases ih _ x hx with h | ⟨now', h⟩
          · rcases List.mem_append.mp h with h | h
            · exact .inl h
            · rw [List.mem_singleton.mp h]
              exact .inr ⟨now, List.mem_cons_self⟩
          · exact .inr ⟨now', List.mem_cons_of_mem _ h⟩
      | write i =>
          rcases ih _ x hx with h | ⟨now', h⟩
          · rw [(c.step_write i).2.1] at h
            exact .inl h
          · exact .inr ⟨now', List.mem_cons_of_mem _ h⟩
      | reserve i =>
          rcases List.mem_append.mp hx with h | h
          · exact .inl (List.mem_of_getElem? (Option.mem_toList.mp h))
          · rcases ih _ x h with h | ⟨now', h⟩
            · refine .inl ?_
              rcases c.step_cases (.reserve i) with
                ⟨_, _, hact, _⟩ | ⟨_, _, _, _, _, _, _, hsub, _⟩ | ⟨_, hsub, _⟩
              · cases hact
              · exact hsub h
              · exact hsub h
            · exact .inr ⟨now', List.mem_cons_of_mem _ h⟩

/-- The entries of a task are those of its calls. -/
theorem ofTask_handedOut (task_id : String) : ∀ (xs : List (TaskCall × ℤ)) (l : AuditLogger),
    (∀ x ∈ xs, x.1.Plain) →
      ofTask task_id (handedOut (outcomes serve xs l)) =
        handedOut (ofKey taskOf task_id xs (outcomes serve xs l)) := by
  intro xs
  induction xs with
  | nil => exact fun _ _ => rfl
  | cons x xs ih =>
      intro l hplain
      have hrest := ih (after (serve x l)) fun y hy => hplain y (List.mem_cons_of_mem _ hy)
      have htask : ∀ e ∈ (result (serve x l)).toOption.getD [], e.task_id = some (taskOf x) := by
        cases hr : reserve x.1.task_id x.1.timestamp_override x.2 l with
        | ok r l' =>
            rw [show serve x l = .ok (entries x.1 r.1 r.2.1 r.2.2) l' from bind_ok hr]
            exact entries_task (hplain x List.mem_cons_self) _ _ _
        | error e l' =>
            rw [show serve x l = .error e l' from bind_error hr]
            simp [result, Except.toOption]
      rw [outcomes, handedOut_cons]
      unfold ofKey ofTask at hrest ⊢
      rw [List.filter_append, List.zip_cons_cons, hrest]
      by_cases hx : taskOf x = task_id
      · rw [List.filter_eq_self.mpr fun e he => by simp [htask e he, hx],
          List.filter_cons_of_pos (by simpa using hx), List.map_cons, handedOut_cons]
      · rw [List.filter_eq_nil_iff.mpr fun e he => by simp [htask e he, hx],
          List.filter_cons_of_neg (by simpa using hx), List.nil_append]

/-- **Tasks do not see one another in the audit log.**  In any run of any callers: the entries
handed out are those of the calls served in the order of the lock, and the entries of a task are
those of its own calls served alone, in their order, on a new logger; the same calls raise. -/
theorem tasks_isolated (acts : List Act)
    (hplain : ∀ call now, Act.read call now ∈ acts → call.Plain) (task_id : String) :
    (Conf.run acts).handed.Perm (handedOut (outcomes serve (lockOrder acts) init)) ∧
    (ofTask task_id (Conf.run acts).handed).Perm
      (handedOut (outcomes serve ((lockOrder acts).filter fun x => taskOf x = task_id) init)) ∧
    ofKey taskOf task_id (lockOrder acts) (outcomes serve (lockOrder acts) init) =
      outcomes serve ((lockOrder acts).filter fun x => taskOf x = task_id) init := by
  obtain ⟨-, hserved⟩ := Conf.foldl_served acts {}
  obtain ⟨halone, -⟩ := ofKey_outcomes serve_about (lockOrder acts) init task_id
  refine ⟨hserved, ?_, halone⟩
  have hcalls : ∀ x ∈ lockOrder acts, x.1.Plain := by
    intro x hx
    rcases Conf.locks_read acts {} x hx with h | ⟨now, h⟩
    · cases h
    · exact hplain x.1 now h
  rw [← halone, ← ofTask_handedOut task_id _ _ hcalls]
  exact hserved.filter _

/-- Two tasks at once: each reads the clock, they get the lock in the other order, and the clock of
the second has gone back when it calls again. -/
def interleaved : List Act :=
  let call (task_id : String) : TaskCall :=
    .stage_event "policy.allowed" "allow" "policy-eval" task_id "general" none [] ""
  [.read (call "s") ⟨7, none⟩, .read (call "t") ⟨5, none⟩, .reserve 1, .reserve 0,
    .read (call "t") ⟨3, none⟩, .write 1, .reserve 0, .write 0, .write 2]

theorem interleaved_isolated :
    (lockOrder interleaved).map taskOf = ["t", "s", "t"] ∧
    (ofTask "t" (Conf.run interleaved).handed).Perm (handedOut (outcomes serve
      ((lockOrder interleaved).filter fun x => taskOf x = "t") init)) := by
  refine ⟨by decide, (tasks_isolated interleaved ?_ "t").2.1⟩
  intro call now h
  simp only [interleaved, List.mem_cons, Act.read.injEq, List.not_mem_nil, reduceCtorEq, or_false,
    false_or] at h
  rcases h with ⟨rfl, -⟩ | ⟨rfl, -⟩ | ⟨rfl, -⟩
  all_goals
    intro kv hkv
    cases hkv

end AegisOs.AuditLogger
