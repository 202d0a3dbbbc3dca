/-
# `AegisOs.ControlPlane.AuditTrail` — one task's events, from many workers

`create_worker` gives a worker process one `AuditLogger`, which its activities
share, and the counters are that logger's.  Temporal may place every attempt of
an activity on any worker, and a worker that is restarted is a new process.
A `Fleet` is the processes, each with a world of its own, and `Fleet.run` is
the workflow with a placement before every attempt.

The numbers of a task are 0, 1, 2, … in each process (`issued_numbers`), so

    they are unique iff one process at most has emitted events of the task
                                                     (`numbers_unique_iff`)

and they are in a run whose attempts are all placed on one process: the code of
an attempt touches the world it runs in alone (`Fleet.run_confined`).
-/
import AegisOs.AuditVault.Stream
import AegisOs.ControlPlane.DurableCap

namespace AegisOs

open Lib Lib.EState

/-! ## The numbers of one process -/

/-- The task of an event that gets a number; the others go to the log as they are. -/
def AuditEvent.numbered_task : AuditEvent → Option String
  | .stage_event _ _ _ task_id _ _ => some task_id
  | .lifecycle_event _ _ task_id _ _ _ _ _ => some task_id
  | .info _ _ | .warning _ _ | .error _ _ => none

namespace AuditLogger

/-- The tasks and numbers of the entries a logger hands out for events emitted at these times, those
of its warnings included.  No event of the activities has an explicit timestamp. -/
def issued : List (AuditEvent × Datetime) → AuditLogger → List (String × ℕ)
  | [], _ => []
  | (event, now) :: events, l =>
      match event.numbered_task with
      | none => issued events l
      | some task_id =>
          match reserve task_id none (candidate none now) l with
          | .ok (sequence_number, _, warning_payload) l' =>
              (warning_payload.map fun w => (task_id, w.sequence_number)).toList ++
                (task_id, sequence_number) :: issued events l'
          | .error _ l' => issued events l'

/-- The numbers one task gets. -/
def numbersOf (task_id : String) (pairs : List (String × ℕ)) : List ℕ :=
  (pairs.filter fun p => decide (p.1 = task_id)).map Prod.snd

/-- An event takes the next number of its task, or the next two. -/
theorem issued_cons {event : AuditEvent} {task_id : String}
    (h : event.numbered_task = some task_id) (now : Datetime)
    (events : List (AuditEvent × Datetime)) (l : AuditLogger) :
    ∃ j t, 0 < j ∧ issued ((event, now) :: events) l =
      (List.range' (l.seq_counters task_id) j).map (task_id, ·) ++
        issued events (l.advanced task_id j t) := by
  rw [issued, h]
  dsimp only
  obtain ⟨_, _, _, hover, _⟩ | ⟨previous, _, _, _, he⟩ | ⟨_, he⟩ :=
    reserve_cases task_id none (candidate none now) l
  · exact absurd rfl hover
  · rw [he]
    exact ⟨2, previous, by decide, rfl⟩
  · rw [he]
    exact ⟨1, candidate none now, by decide, rfl⟩

theorem numbersOf_append (task_id : String) (xs ys : List (String × ℕ)) :
    numbersOf task_id (xs ++ ys) = numbersOf task_id xs ++ numbersOf task_id ys := by
  simp [numbersOf]

theorem numbersOf_own (task_id : String) (ns : List ℕ) :
    numbersOf task_id (ns.map (task_id, ·)) = ns := by
  simp [numbersOf, List.filter_map, Function.comp_def]

theorem numbersOf_other {task_id u : String} (h : u ≠ task_id) (ns : List ℕ) :
    numbersOf task_id (ns.map (u, ·)) = [] := by
  simp [numbersOf, h]

/-- **A task is numbered on from its counter**, and has got a number iff it has an event. -/
theorem issued_numbers (task_id : String) (events : List (AuditEvent × Datetime))
    (l : AuditLogger) :
    ∃ k, numbersOf task_id (issued events l) = List.range' (l.seq_counters task_id) k ∧
      (0 < k ↔ ∃ e ∈ events, e.1.numbered_task = some task_id) := by
  induction events generalizing l with
  | nil => exact ⟨0, rfl, by simp⟩
  | cons e events ih =>
      obtain ⟨event, now⟩ := e
      cases htask : event.numbered_task with
      | none =>
          obtain ⟨k, hk, hpos⟩ := ih l
          rw [issued, htask]
          exact ⟨k, hk, hpos.trans (by simp [htask])⟩
      | some u =>
          obtain ⟨j, t, hj, he⟩ := issued_cons htask now events l
          obtain ⟨k, hk, hpos⟩ := ih (l.advanced u j t)
          rw [he, numbersOf_append, hk]
          by_cases hu : u = task_id
          · subst hu
            rw [numbersOf_own, advanced_seq, List.range'_append_1]
            exact ⟨j + k, rfl, by simp [htask, hj]⟩
          · rw [numbersOf_other hu, (advanced_other l (Ne.symm hu) j t).1]
            exact ⟨k, rfl, hpos.trans (by simp [htask, hu])⟩

end AuditLogger

/-! ## Workers -/

/-- Worker processes, each with its own world.  A process that is restarted is another one.  `here`
is where the attempt that is under way runs. -/
structure Fleet (Tok ι : Type) where
  worlds : ℕ → World Tok
  here : ℕ
  flows : ι → AgentTaskWorkflow

inductive FleetCall (Tok : Type) where
  | durable (q : DurableCall Tok)
  /-- Where the next attempt runs. -/
  | place

def FleetCall.Answer {Tok : Type} : FleetCall Tok → Type
  | .durable q => q.Answer
  | .place => ℕ

abbrev FleetM (Tok ι : Type) : Type → Type :=
  Co (Fleet Tok ι) Exc (FleetCall Tok) FleetCall.Answer

namespace Fleet

variable {Tok ι : Type}

/-- The worker the attempt under way sees. -/
def worker (f : Fleet Tok ι) : Worker Tok ι := ⟨f.worlds f.here, f.flows⟩

def setWorker (s : Worker Tok ι) (f : Fleet Tok ι) : Fleet Tok ι :=
  { f with worlds := Function.update f.worlds f.here s.world, flows := s.flows }

/-- A worker takes the next attempt. -/
def place : FleetM Tok ι Unit := do
  let p : ℕ ← Co.call FleetCall.place
  Co.lift (modify fun f => { f with here := p })

/-- An attempt follows a `schedule` and every `backoff`. -/
def placed : (q : DurableCall Tok) → FleetM Tok ι q.Answer
  | .schedule q => do
      let activity_id : String ← Co.call (FleetCall.durable (.schedule q))
      place
      return activity_id
  | .backoff q attempt => do
      let _ : Unit ← Co.call (FleetCall.durable (.backoff q attempt))
      place
  | q => Co.call (FleetCall.durable q)

/-- The workflow `i`, its attempts placed on the fleet. -/
def run [DecidableEq ι] (A : AegisActivities Tok) (workflow_id : Option String) (i : ι)
    (inp : WorkflowInput) : FleetM Tok ι WorkflowOutput :=
  Co.handle worker setWorker placed (Durable.run A workflow_id i inp)

/-- What the others do meanwhile: signals, other tasks' activities on any process, and what the
adapter logs where the attempt runs.  A log only grows. -/
structure Meanwhile (task_id : String) (f f' : Fleet Tok ι) : Prop where
  here : f'.here = f.here
  logs : ∀ p, ∃ events, (f'.worlds p).audit = (f.worlds p).audit ++ events ∧
    (p ≠ f.here → ∀ e ∈ events, AuditEvent.numbered_task e ≠ some task_id)

/-- Any answer. -/
def anyAnswer (q : FleetCall Tok) (_ : Except Exc q.Answer) (_ : Fleet Tok ι) : Prop := True

abbrev FleetConf (Tok ι : Type) : Type :=
  Co.Conf (Fleet Tok ι) Exc (FleetCall Tok) FleetCall.Answer WorkflowOutput

/-- Nothing has been logged for the task yet. -/
def Fresh (task_id : String) (f : Fleet Tok ι) : Prop :=
  ∀ p, ∀ e ∈ (f.worlds p).audit, AuditEvent.numbered_task e ≠ some task_id

/-! ## Attempts on one process -/

/-- Every attempt so far was placed on `p₀`. -/
def AllOn (p₀ : ℕ) (h : Co.Hist Exc (FleetCall Tok) FleetCall.Answer) : Prop :=
  ∀ p, (⟨.place, .ok p⟩ : Σ q : FleetCall Tok, Except Exc q.Answer) ∈ h → p = p₀

/-- The task's events are on `p₀` alone. -/
def Confined (task_id : String) (p₀ : ℕ) (f : Fleet Tok ι) : Prop :=
  f.here = p₀ ∧ ∀ p, p ≠ p₀ → ∀ e ∈ (f.worlds p).audit, AuditEvent.numbered_task e ≠ some task_id

variable {task_id : String} {p₀ : ℕ}

theorem Confined.setWorker {f : Fleet Tok ι} (h : Confined task_id p₀ f) (s : Worker Tok ι) :
    Confined task_id p₀ (f.setWorker s) := by
  refine ⟨h.1, fun p hp => ?_⟩
  show ∀ e ∈ (Function.update f.worlds f.here s.world p).audit, _
  rw [Function.update_of_ne (h.1 ▸ hp)]
  exact h.2 p hp

theorem Confined.meanwhile {f f' : Fleet Tok ι} (h : Confined task_id p₀ f)
    (hm : Relation.ReflTransGen (Meanwhile task_id) f f') : Confined task_id p₀ f' := by
  induction hm with
  | refl => exact h
  | tail _ hs ih =>
      refine ⟨hs.here.trans ih.1, fun p hp e he => ?_⟩
      obtain ⟨events, hlog, hother⟩ := hs.logs p
      rw [hlog] at he
      obtain he | he := List.mem_append.mp he
      · exact ih.2 p hp e he
      · exact hother (ih.1 ▸ hp) e he

/-- What holds along a run. -/
def Stays (task_id : String) (p₀ : ℕ) (h : Co.Hist Exc (FleetCall Tok) FleetCall.Answer)
    (f : Fleet Tok ι) : Prop :=
  AllOn p₀ h → Confined task_id p₀ f

theorem Stays.answered {h : Co.Hist Exc (FleetCall Tok) FleetCall.Answer} {f f' : Fleet Tok ι}
    (hs : Stays task_id p₀ h f) (hm : Relation.ReflTransGen (Meanwhile task_id) f f')
    (x : Σ q : FleetCall Tok, Except Exc q.Answer) : Stays task_id p₀ (h ++ [x]) f' := by
  intro hall
  exact (hs fun p hp => hall p (List.mem_append_left _ hp)).meanwhile hm

section
variable {h : Co.Hist Exc (FleetCall Tok) FleetCall.Answer} {f₀ f : Fleet Tok ι}

/-- Every program of the fleet keeps it, at every stop and at both ends. -/
abbrev Keeping (task_id : String) (p₀ : ℕ) {α : Type} (h : Co.Hist Exc (FleetCall Tok) FleetCall.Answer)
    (f₀ : Fleet Tok ι) (m : FleetM Tok ι α) (f : Fleet Tok ι) : Prop :=
  Co.Safe (Co.awaitEnv (Meanwhile task_id) anyAnswer) (fun h _ _ f => Stays task_id p₀ h f)
    (fun h _ _ f => Stays task_id p₀ h f) (fun h _ _ f => Stays task_id p₀ h f) h f₀ m f

theorem Keeping.seq {α β : Type} {m : FleetM Tok ι α} {g : α → FleetM Tok ι β}
    (hm : Keeping task_id p₀ h f₀ m f)
    (hg : ∀ a h f₀ f, Stays task_id p₀ h f → Keeping task_id p₀ h f₀ (g a) f) :
    Keeping task_id p₀ h f₀ (m >>= g) f :=
  Co.Safe.bind (Co.Safe.mono (fun _ _ _ _ hc => hc) (fun h f₀ a f hs => hg a h f₀ f hs)
    (fun _ _ _ _ hx => hx) hm)

theorem call_keeping (q : FleetCall Tok) (hs : Stays task_id p₀ h f) :
    Keeping task_id p₀ h f₀ (Co.call q : FleetM Tok ι q.Answer) f :=
  Co.Safe.call hs (fun _ _ henv => hs.answered henv.1 _) fun _ _ henv => hs.answered henv.1 _

theorem place_keeping (hs : Stays task_id p₀ h f) :
    Keeping task_id p₀ h f₀ (place : FleetM Tok ι Unit) f := by
  refine Co.Safe.bind (Co.Safe.call (q := FleetCall.place) hs ?_ fun _ _ henv =>
    hs.answered henv.1 _)
  intro p f' henv
  refine Co.Safe.lift ?_ ?_
  · intro _ f'' hf''
    cases hf''
    intro hall
    exact ⟨hall p (by simp), (hs.answered henv.1 _ hall).2⟩
  · intro e f'' hf''
    cases hf''

theorem placed_keeping (q : DurableCall Tok) (hs : Stays task_id p₀ h f) :
    Keeping task_id p₀ h f₀ (placed q : FleetM Tok ι q.Answer) f := by
  cases q with
  | schedule q =>
      refine Keeping.seq (call_keeping _ hs) fun activity_id _ _ _ hs₁ => ?_
      exact Keeping.seq (place_keeping hs₁) fun _ _ _ _ hs₂ => Co.Safe.pure hs₂
  | backoff q attempt =>
      exact Keeping.seq (call_keeping _ hs) fun _ _ _ _ hs₁ => place_keeping hs₁
  | io q => exact call_keeping _ hs
  | report q attempt outcome => exact call_keeping _ hs
  | wait_condition timeout_seconds => exact call_keeping _ hs

end

theorem run_keeping [DecidableEq ι] (A : AegisActivities Tok) (workflow_id : Option String) (i : ι)
    (inp : WorkflowInput) {f : Fleet Tok ι} (hs : Stays task_id p₀ [] f) :
    Keeping task_id p₀ [] f (run A workflow_id i inp) f := by
  have hget : ∀ (r : Worker Tok ι) (f : Fleet Tok ι), worker (setWorker r f) = r := by
    intro r f
    simp [worker, setWorker]
  have hrun : Co.Safe (Co.awaitEnv (Meanwhile task_id) anyAnswer)
      (fun h _ _ f => Stays task_id p₀ h f) (fun h _ _ f => Stays task_id p₀ h f ∧ True)
      (fun h _ _ f => Stays task_id p₀ h f) [] f
      (Co.handle worker setWorker placed (Durable.run A workflow_id i inp)) f :=
    Co.Safe.handle hget (fun h r f hf hall => (hf hall).setWorker r)
      (fun q h f₀ f hf => placed_keeping q hf)
      (show Co.Safe Co.anyEnv _ _ _ [] f.worker _ f.worker from Co.Safe.trivial) hs
  exact hrun.mono (fun _ _ _ _ hc => hc) (fun _ _ _ _ hd => hd.1) fun _ _ _ _ hx => hx

/-- **An attempt logs where it runs.**  In a run whose attempts are all placed on the process it
starts on, no other process has events of the task. -/
theorem run_confined [DecidableEq ι] (A : AegisActivities Tok) (workflow_id : Option String) (i : ι)
    (inp : WorkflowInput) {f : Fleet Tok ι} (hf : Fresh task_id f) {c : FleetConf Tok ι}
    (hc : Co.Conf.Reachable (Meanwhile task_id) anyAnswer (run A workflow_id i inp) f c)
    (hall : AllOn f.here c.hist) : Confined task_id f.here c.state := by
  have hstart : Stays task_id f.here [] f := fun _ => ⟨rfl, fun p _ => hf p⟩
  have hgood := Co.Conf.good_of_reachable (run_keeping A workflow_id i inp hstart) hc
  have hstop : Confined task_id f.here c.stop := by
    have hok := hgood.stopOk
    obtain ⟨hist, seg, stop, point, state⟩ := c
    cases point with
    | done a => exact hok hall
    | failed e => exact hok hall
    | waiting q k => exact hok.1 hall
  exact hstop.meanwhile hgood.drift

/-! ## The merged trail -/

/-- What the logger of process `p` has handed out, its clock showing `now p k` at its `k`-th event. -/
def trail (f : Fleet Tok ι) (now : ℕ → ℕ → Datetime) (p : ℕ) : List (String × ℕ) :=
  AuditLogger.issued ((f.worlds p).audit.zipIdx.map fun e => (e.1, now p e.2)) AuditLogger.init

/-- No two entries of the task have the same number, whichever processes they are from. -/
def Unique (f : Fleet Tok ι) (now : ℕ → ℕ → Datetime) (task_id : String) : Prop :=
  ∀ p p' k k' n : ℕ, (f.trail now p)[k]? = some (task_id, n) →
    (f.trail now p')[k']? = some (task_id, n) → p = p' ∧ k = k'

/-- Process `p` has emitted an event of the task. -/
def Emits (f : Fleet Tok ι) (task_id : String) (p : ℕ) : Prop :=
  ∃ e ∈ (f.worlds p).audit, AuditEvent.numbered_task e = some task_id

/-- A process numbers the task from 0, and gives each number once. -/
theorem trail_numbers (task_id : String) (f : Fleet Tok ι) (now : ℕ → ℕ → Datetime) (p : ℕ) :
    ∃ k, AuditLogger.numbersOf task_id (f.trail now p) = List.range k ∧
      (0 < k ↔ f.Emits task_id p) := by
  obtain ⟨k, hk, hpos⟩ := AuditLogger.issued_numbers task_id
    ((f.worlds p).audit.zipIdx.map fun e => (e.1, now p e.2)) AuditLogger.init
  refine ⟨k, hk.trans (List.range_eq_range').symm, hpos.trans ?_⟩
  constructor
  · rintro ⟨e, he, htask⟩
    obtain ⟨⟨event, n⟩, hmem, rfl⟩ := List.mem_map.mp he
    exact ⟨event, List.fst_mem_of_mem_zipIdx hmem, htask⟩
  · rintro ⟨event, he, htask⟩
    obtain ⟨n, hn, rfl⟩ := List.getElem_of_mem he
    exact ⟨_, List.mem_map_of_mem (List.mk_mem_zipIdx_iff_getElem?.mpr (List.getElem?_eq_getElem hn)),
      htask⟩

theorem mem_numbersOf {pairs : List (String × ℕ)} {n : ℕ} :
    n ∈ AuditLogger.numbersOf task_id pairs ↔ (task_id, n) ∈ pairs := by
  simp [AuditLogger.numbersOf]

/-- Where no number of the task comes twice, an entry is found by its number. -/
theorem numbersOf_injective {pairs : List (String × ℕ)}
    (h : (AuditLogger.numbersOf task_id pairs).Nodup) {k k' n : ℕ}
    (hk : pairs[k]? = some (task_id, n)) (hk' : pairs[k']? = some (task_id, n)) : k = k' := by
  induction pairs generalizing k k' with
  | nil => simp at hk
  | cons pair pairs ih =>
      have htail : (AuditLogger.numbersOf task_id pairs).Nodup :=
        h.sublist (((List.sublist_cons_self _ _).filter _).map _)
      -- the head's number is not among the others
      have hhead : ∀ {i : ℕ}, pair = (task_id, n) → pairs[i]? ≠ some (task_id, n) := by
        rintro i rfl hi
        have hmem := mem_numbersOf.mpr (List.mem_of_getElem? hi)
        rw [AuditLogger.numbersOf, List.filter_cons_of_pos (by simp), List.map_cons,
          List.nodup_cons] at h
        exact h.1 hmem
      cases k with
      | zero =>
          cases k' with
          | zero => rfl
          | succ k' => exact absurd hk' (hhead (by simpa using hk))
      | succ k =>
          cases k' with
          | zero => exact absurd hk (hhead (by simpa using hk'))
          | succ k' => exact congrArg Nat.succ (ih htail hk hk')

/-- **Unique numbers, and one process**: every process starts a task at 0. -/
theorem numbers_unique_iff (f : Fleet Tok ι) (now : ℕ → ℕ → Datetime) (task_id : String) :
    f.Unique now task_id ↔ ∀ p p', f.Emits task_id p → f.Emits task_id p' → p = p' := by
  constructor
  · intro h
    have hzero : ∀ p, f.Emits task_id p → ∃ i : ℕ, (f.trail now p)[i]? = some (task_id, 0) := by
      intro p hp
      obtain ⟨k, hk, hpos⟩ := trail_numbers task_id f now p
      refine List.getElem?_of_mem (mem_numbersOf.mp ?_)
      rw [hk]
      exact List.mem_range.mpr (hpos.mpr hp)
    intro p p' hp hp'
    obtain ⟨i, hi⟩ := hzero p hp
    obtain ⟨i', hi'⟩ := hzero p' hp'
    exact (h p p' i i' 0 hi hi').1
  · intro h
    have hemits : ∀ {p i n : ℕ}, (f.trail now p)[i]? = some (task_id, n) → f.Emits task_id p := by
      intro p i n hi
      obtain ⟨k, hk, hpos⟩ := trail_numbers task_id f now p
      have hmem := mem_numbersOf.mpr (List.mem_of_getElem? hi)
      rw [hk, List.mem_range] at hmem
      exact hpos.mp (Nat.zero_lt_of_lt hmem)
    intro p p' i i' n hi hi'
    obtain rfl := h p p' (hemits hi) (hemits hi')
    obtain ⟨k, hk, -⟩ := trail_numbers task_id f now p
    refine ⟨rfl, numbersOf_injective ?_ hi hi'⟩
    rw [hk]
    exact List.nodup_range

/-- **When a durable run's sequence numbers are unique.**  In every state of every run, whatever the
clocks show: exactly when one process at most has emitted events of the task; in particular when
every attempt has been placed on the process the run started on. -/
theorem sequence_numbers_unique_iff [DecidableEq ι] (A : AegisActivities Tok)
    (workflow_id : Option String) (i : ι) (inp : WorkflowInput) {f : Fleet Tok ι}
    (hf : Fresh inp.task_id f) {c : FleetConf Tok ι}
    (hc : Co.Conf.Reachable (Meanwhile inp.task_id) anyAnswer (run A workflow_id i inp) f c)
    (now : ℕ → ℕ → Datetime) :
    (c.state.Unique now inp.task_id ↔
      ∀ p p', c.state.Emits inp.task_id p → c.state.Emits inp.task_id p' → p = p') ∧
    (AllOn f.here c.hist → c.state.Unique now inp.task_id) := by
  refine ⟨numbers_unique_iff c.state now inp.task_id, fun hall => ?_⟩
  have hconf := run_confined A workflow_id i inp hf hc hall
  have honly : ∀ p, c.state.Emits inp.task_id p → p = f.here := by
    rintro p ⟨e, he, htask⟩
    by_contra hp
    exact hconf.2 p hp e he htask
  rw [numbers_unique_iff]
  intro p p' hp hp'
  rw [honly p hp, honly p' hp']

/-! ### Two workers -/

/-- `PrePIIScrub` is taken by the first worker, and what follows by the second. -/
def spreadAnswers (p : ℕ) : (q : FleetCall SymToken) → Except Exc q.Answer
  | .durable q => Durable.dollarAnswers q
  | .place => .ok p

def idleFleet : Fleet SymToken Unit where
  worlds := fun _ => World.fresh {} (.still 0) fun _ => "jti-0"
  here := 0
  flows := fun _ => {}

def spreadRun : FleetM SymToken Unit WorkflowOutput :=
  run Durable.plainActivities (some "task-0") () (Durable.dollarInput "task-0")

/-- `PolicyEval` has run. -/
def spreadConf : FleetConf SymToken Unit :=
  (Co.Conf.respond (spreadAnswers 1))^[3]
    ((Co.Conf.respond (spreadAnswers 0))^[3] (Co.Conf.start spreadRun idleFleet))

theorem idleFleet_fresh : Fresh "task-0" idleFleet := by
  intro p e he
  cases he

theorem spreadConf_reached :
    Co.Conf.Reachable (Meanwhile "task-0") anyAnswer spreadRun idleFleet spreadConf :=
  (Co.Conf.Reachable.responds .refl (spreadAnswers 0) (fun _ _ => trivial) 3).responds
    (spreadAnswers 1) (fun _ _ => trivial) 3

/-- Both workers have handed out the number 0 for the task: one for `workflow.started`, the other for
`policy.allowed`. -/
theorem sequence_number_twice :
    Co.Conf.Reachable (Meanwhile "task-0") anyAnswer spreadRun idleFleet spreadConf ∧
    spreadConf.state.trail (fun _ _ => ⟨0, none⟩) 0 = [("task-0", 0), ("task-0", 1)] ∧
    spreadConf.state.trail (fun _ _ => ⟨0, none⟩) 1 = [("task-0", 0)] ∧
    ¬spreadConf.state.Unique (fun _ _ => ⟨0, none⟩) "task-0" := by
  have hfirst : spreadConf.state.trail (fun _ _ => ⟨0, none⟩) 0 = [("task-0", 0), ("task-0", 1)] := by
    decide +kernel
  have hsecond : spreadConf.state.trail (fun _ _ => ⟨0, none⟩) 1 = [("task-0", 0)] := by
    decide +kernel
  refine ⟨spreadConf_reached, hfirst, hsecond, fun h => ?_⟩
  have hsame := (h 0 1 0 0 0 (by rw [hfirst]; rfl) (by rw [hsecond]; rfl)).1
  cases hsame

theorem spreadConf_unique_iff :
    Fresh "task-0" idleFleet ∧
    Co.Conf.Reachable (Meanwhile "task-0") anyAnswer spreadRun idleFleet spreadConf ∧
    (spreadConf.state.Unique (fun _ _ => ⟨0, none⟩) "task-0" ↔
      ∀ p p', spreadConf.state.Emits "task-0" p → spreadConf.state.Emits "task-0" p' → p = p') :=
  ⟨idleFleet_fresh, spreadConf_reached,
    (sequence_numbers_unique_iff Durable.plainActivities (some "task-0") ()
      (Durable.dollarInput "task-0") idleFleet_fresh spreadConf_reached fun _ _ => ⟨0, none⟩).1⟩

end Fleet

end AegisOs
