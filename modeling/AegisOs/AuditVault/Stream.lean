/-
# `AegisOs.AuditVault.Stream` — a task's entries are numbered and in order

Whatever the callers and however they interleave, the entries handed out for a
task are a stream: numbered 0, 1, 2, … in the order of the lock, with
timestamps that never go back.  `reserve_cases` says once what happens under
the lock; `Stream` is the invariant, one list of timestamps whose positions are
the numbers; a step hands out nothing, one entry, or a warning and an entry
(`Stream.push`), and leaves the streams of other tasks alone (`Stream.skip`).

The entries are handed out under the lock and written later, so the log itself
may have them in another order: `Conf.Ordered` keeps a history in the order of
the lock that has the same entries as `Conf.handed`.
-/
import AegisOs.AuditVault.Logger
import Mathlib.Data.List.Perm.Basic
import Mathlib.Data.List.Range
import Mathlib.Data.List.Pairwise

namespace AegisOs

open Lib Lib.EState

/-! ## Fields of an entry -/

namespace TaskCall

/-- A reserved name is looked up before the extra fields of a plain call. -/
theorem lookup_kwargs {extra : List (String × Field)} (h : ∀ kv ∈ extra, kv.1 ∉ reserved)
    (base : List (String × Value)) {name : String} (hname : name ∈ reserved) :
    (base ++ kwargs extra).reverse.lookup name = base.reverse.lookup name := by
  have hnone : (kwargs extra).reverse.lookup name = none := by
    rw [List.lookup_eq_none_iff]
    intro kv hkv
    rw [List.mem_reverse, kwargs, List.mem_map] at hkv
    obtain ⟨⟨k, f⟩, hmem, rfl⟩ := hkv
    have hne : name ≠ k := fun he => h _ hmem (he ▸ hname)
    simpa using hne
  rw [List.reverse_append, List.lookup_append, hnone, Option.none_or]

theorem get_entry {call : TaskCall} (h : call.Plain) (n : ℕ) (t : ℤ) :
    (call.entry n t).task_id = some call.task_id ∧
      (call.entry n t).sequence_number = some n ∧ (call.entry n t).timestamp = some t := by
  have htask : "task_id" ∈ reserved := by decide
  have hseq : "sequence_number" ∈ reserved := by decide
  have htime : "timestamp" ∈ reserved := by decide
  unfold Entry.task_id Entry.sequence_number Entry.timestamp Entry.get
  cases call with
  | stage_event event outcome stage task_id agent_type override extra traceparent =>
      have hextra : ∀ kv ∈ extra, kv.1 ∉ reserved := h
      dsimp only [entry]
      rw [lookup_kwargs hextra _ htask, lookup_kwargs hextra _ hseq, lookup_kwargs hextra _ htime]
      exact ⟨rfl, rfl, rfl⟩
  | lifecycle_event event event_type task_id agent_type session_id workflow_status stage override
      extra traceparent =>
      have hextra : ∀ kv ∈ extra, kv.1 ∉ reserved := h
      dsimp only [entry]
      rw [lookup_kwargs hextra _ htask, lookup_kwargs hextra _ hseq, lookup_kwargs hextra _ htime]
      exact ⟨rfl, rfl, rfl⟩

end TaskCall

namespace AuditLogger

theorem get_skew_warning (call : TaskCall) (w : WarningPayload) :
    (skew_warning call w).task_id = some call.task_id ∧
      (skew_warning call w).sequence_number = some w.sequence_number ∧
      (skew_warning call w).timestamp = some w.timestamp := ⟨rfl, rfl, rfl⟩

/-! ## Under the lock -/

/-- The logger after a task has taken `n` numbers and been stamped `t`. -/
def advanced (l : AuditLogger) (task_id : String) (n : ℕ) (t : ℤ) : AuditLogger where
  seq_counters := Function.update l.seq_counters task_id (l.seq_counters task_id + n)
  last_timestamps := Function.update l.last_timestamps task_id (some t)

theorem next_number_run (task_id : String) (l : AuditLogger) :
    next_number task_id l = .ok (l.seq_counters task_id) { l with
      seq_counters := Function.update l.seq_counters task_id (l.seq_counters task_id + 1) } := rfl

/-- **What happens under the lock**: an explicit timestamp that goes back raises, a clock that went
back is clamped and warned of, everything else is stamped as it comes. -/
theorem reserve_cases (task_id : String) (timestamp_override : Option Datetime) (candidate : ℤ)
    (l : AuditLogger) :
    (∃ previous, l.last_timestamps task_id = some previous ∧ candidate < previous ∧
      timestamp_override ≠ none ∧
      reserve task_id timestamp_override candidate l = .error (ordering_error task_id) l) ∨
    (∃ previous, l.last_timestamps task_id = some previous ∧ candidate < previous ∧
      timestamp_override = none ∧
      reserve task_id timestamp_override candidate l =
        .ok (l.seq_counters task_id + 1, previous, some ⟨l.seq_counters task_id, previous, previous,
          candidate, previous, previous - candidate⟩) (l.advanced task_id 2 previous)) ∨
    ((∀ previous, l.last_timestamps task_id = some previous → previous ≤ candidate) ∧
      reserve task_id timestamp_override candidate l =
        .ok (l.seq_counters task_id, candidate, none) (l.advanced task_id 1 candidate)) := by
  unfold reserve
  rw [bind_ok (get_run l)]
  cases hprev : l.last_timestamps task_id with
  | none =>
      refine .inr (.inr ⟨by simp, ?_⟩)
      rw [if_neg (by simp)]
      rfl
  | some previous =>
      by_cases hlt : candidate < previous
      · cases timestamp_override with
        | some t =>
            rw [if_pos (by simpa using hlt)]
            exact .inl ⟨previous, rfl, hlt, by simp, rfl⟩
        | none =>
            refine .inr (.inl ⟨previous, rfl, hlt, rfl, ?_⟩)
            rw [if_neg (by simp)]
            dsimp only
            rw [if_pos ⟨rfl, hlt⟩, bind_ok (next_number_run _ _), bind_ok (pure_run _ _)]
            dsimp only
            rw [bind_ok (next_number_run _ _)]
            rw [bind_ok (modify_run _ _), pure_run]
            simp [advanced]
      · refine .inr (.inr ⟨?_, ?_⟩)
        · intro p hp
          cases hp
          exact not_lt.mp hlt
        · rw [if_neg (by simp [hlt])]
          dsimp only
          rw [if_neg (by simp [hlt])]
          rfl

/-! ## One task's stream -/

/-- The entries of one task. -/
def ofTask (task_id : String) (es : List Entry) : List Entry :=
  es.filter fun e => decide (e.task_id = some task_id)

/-- The entries of the task in `hist` are numbered by their position and stamped in order, and the
logger stands at their end. -/
def Stream (l : AuditLogger) (task_id : String) (hist : List Entry) : Prop :=
  ∃ ts : List ℤ,
    (ofTask task_id hist).map (fun e => (e.sequence_number, e.timestamp)) =
      ts.zipIdx.map (fun p => (some p.2, some p.1)) ∧
    ts.length = l.seq_counters task_id ∧ ts.Pairwise (· ≤ ·) ∧
    ∀ t ∈ ts, ∃ last, l.last_timestamps task_id = some last ∧ t ≤ last

theorem stream_init (task_id : String) : Stream init task_id [] :=
  ⟨[], rfl, rfl, .nil, by simp⟩

/-- One more entry of the task: the next number, and a time that does not go back. -/
theorem Stream.push {l l' : AuditLogger} {task_id : String} {hist : List Entry}
    (h : Stream l task_id hist) {e : Entry} {t : ℤ} (htask : e.task_id = some task_id)
    (hnum : e.sequence_number = some (l.seq_counters task_id)) (htime : e.timestamp = some t)
    (hlast : ∀ last, l.last_timestamps task_id = some last → last ≤ t)
    (hseq' : l'.seq_counters task_id = l.seq_counters task_id + 1)
    (hlast' : l'.last_timestamps task_id = some t) : Stream l' task_id (hist ++ [e]) := by
  obtain ⟨ts, hmap, hlen, hpair, hle⟩ := h
  have hbelow : ∀ u ∈ ts, u ≤ t := by
    intro u hu
    obtain ⟨last, hl, hul⟩ := hle u hu
    exact hul.trans (hlast last hl)
  refine ⟨ts ++ [t], ?_, ?_, ?_, ?_⟩
  · have hone : ofTask task_id [e] = [e] := by simp [ofTask, htask]
    rw [ofTask, List.filter_append, ← ofTask, ← ofTask, hone, List.map_append, hmap,
      List.zipIdx_append, List.map_append]
    simp [hnum, htime, hlen]
  · rw [List.length_append, hlen, hseq']
    rfl
  · rw [List.pairwise_append]
    exact ⟨hpair, by simp, by simpa using hbelow⟩
  · intro u hu
    refine ⟨t, hlast', ?_⟩
    obtain hu | hu := List.mem_append.mp hu
    · exact hbelow u hu
    · exact (List.mem_singleton.mp hu).le

/-- An entry of another task. -/
theorem Stream.skip {l l' : AuditLogger} {task_id : String} {hist es : List Entry}
    (h : Stream l task_id hist) (hes : ∀ e ∈ es, e.task_id ≠ some task_id)
    (hseq : l'.seq_counters task_id = l.seq_counters task_id)
    (hlast : l'.last_timestamps task_id = l.last_timestamps task_id) :
    Stream l' task_id (hist ++ es) := by
  have hnil : ofTask task_id es = [] := by
    rw [ofTask, List.filter_eq_nil_iff]
    intro e he
    simpa using hes e he
  obtain ⟨ts, hmap, hlen, hpair, hle⟩ := h
  refine ⟨ts, ?_, hlen.trans hseq.symm, hpair, ?_⟩
  · rw [ofTask, List.filter_append, ← ofTask, ← ofTask, hnil, List.append_nil, hmap]
  · rw [hlast]
    exact hle

@[simp] theorem advanced_seq (l : AuditLogger) (task_id : String) (n : ℕ) (t : ℤ) :
    (l.advanced task_id n t).seq_counters task_id = l.seq_counters task_id + n := by
  simp [advanced]

@[simp] theorem advanced_last (l : AuditLogger) (task_id : String) (n : ℕ) (t : ℤ) :
    (l.advanced task_id n t).last_timestamps task_id = some t := by
  simp [advanced]

theorem advanced_other (l : AuditLogger) {task_id task_id' : String} (h : task_id' ≠ task_id)
    (n : ℕ) (t : ℤ) :
    (l.advanced task_id n t).seq_counters task_id' = l.seq_counters task_id' ∧
      (l.advanced task_id n t).last_timestamps task_id' = l.last_timestamps task_id' := by
  simp [advanced, h]

/-- Every entry of a call is its task's. -/
theorem entries_task {call : TaskCall} (h : call.Plain) (n : ℕ) (t : ℤ)
    (w : Option WarningPayload) :
    ∀ e ∈ entries call n t w, e.task_id = some call.task_id := by
  intro e he
  unfold entries at he
  obtain he | he := List.mem_append.mp he
  · cases w with
    | none => simp at he
    | some w =>
        rw [show e = skew_warning call w by simpa using he]
        exact (get_skew_warning call w).1
  · rw [List.mem_singleton.mp he]
    exact (TaskCall.get_entry h n t).1

/-- The lock of one task does nothing to another. -/
theorem reserve_other {task_id task_id' : String} (h : task_id' ≠ task_id)
    (timestamp_override : Option Datetime) (candidate : ℤ) (l : AuditLogger) :
    (after (reserve task_id timestamp_override candidate l)).seq_counters task_id' =
        l.seq_counters task_id' ∧
      (after (reserve task_id timestamp_override candidate l)).last_timestamps task_id' =
        l.last_timestamps task_id' := by
  obtain ⟨_, _, _, _, he⟩ | ⟨_, _, _, _, he⟩ | ⟨_, he⟩ :=
    reserve_cases task_id timestamp_override candidate l
  · rw [he]
    exact ⟨rfl, rfl⟩
  · rw [he]
    exact advanced_other l h _ _
  · rw [he]
    exact advanced_other l h _ _

/-- What the lock answers, as a function of the task's counter and last timestamp. -/
theorem reserve_result (task_id : String) (timestamp_override : Option Datetime) (candidate : ℤ)
    (l : AuditLogger) :
    result (reserve task_id timestamp_override candidate l) =
      if candidate < (l.last_timestamps task_id).getD candidate then
        if timestamp_override = none then
          .ok (l.seq_counters task_id + 1, (l.last_timestamps task_id).getD candidate,
            some ⟨l.seq_counters task_id, (l.last_timestamps task_id).getD candidate,
              (l.last_timestamps task_id).getD candidate, candidate,
              (l.last_timestamps task_id).getD candidate,
              (l.last_timestamps task_id).getD candidate - candidate⟩)
        else .error (ordering_error task_id)
      else .ok (l.seq_counters task_id, candidate, none) := by
  obtain ⟨previous, hprev, hlt, hover, he⟩ | ⟨previous, hprev, hlt, hover, he⟩ | ⟨hle, he⟩ :=
    reserve_cases task_id timestamp_override candidate l
  · rw [he, hprev, Option.getD_some, if_pos hlt, if_neg hover]
    rfl
  · rw [he, hprev, Option.getD_some, if_pos hlt, if_pos hover]
    rfl
  · have hnot : ¬ candidate < (l.last_timestamps task_id).getD candidate := by
      cases hprev : l.last_timestamps task_id with
      | none => simp
      | some previous => simpa using hle previous hprev
    rw [he, if_neg hnot]
    rfl

theorem behind_iff (last : Option ℤ) (candidate : ℤ) :
    candidate < last.getD candidate ↔ ∃ previous, last = some previous ∧ candidate < previous := by
  cases last <;> simp

theorem reserve_warns_iff (task_id : String) (timestamp_override : Option Datetime)
    (candidate : ℤ) (l : AuditLogger) :
    (∃ n t w, result (reserve task_id timestamp_override candidate l) = .ok (n, t, some w)) ↔
      timestamp_override = none ∧
        ∃ last, l.last_timestamps task_id = some last ∧ candidate < last := by
  rw [reserve_result, ← behind_iff]
  split_ifs with hlt hover
  · simp [hlt, hover]
  · simp [hover]
  · simp [hlt]

theorem reserve_raises_iff (task_id : String) (timestamp_override : Option Datetime)
    (candidate : ℤ) (l : AuditLogger) :
    (∃ x, result (reserve task_id timestamp_override candidate l) = .error x) ↔
      timestamp_override ≠ none ∧
        ∃ last, l.last_timestamps task_id = some last ∧ candidate < last := by
  rw [reserve_result, ← behind_iff]
  split_ifs with hlt hover
  · simp [hover]
  · simp [hlt, hover]
  · simp [hlt]

/-- A call that raises has changed nothing. -/
theorem reserve_error {task_id : String} {timestamp_override : Option Datetime} {candidate : ℤ}
    {l l' : AuditLogger} {x : Exc}
    (h : reserve task_id timestamp_override candidate l = .error x l') : l' = l := by
  obtain ⟨_, _, _, _, he⟩ | ⟨_, _, _, _, he⟩ | ⟨_, he⟩ :=
    reserve_cases task_id timestamp_override candidate l
  all_goals
    rw [he] at h
    cases h
  rfl

/-- What is handed out under the lock goes on every task's stream. -/
theorem Stream.reserve {l l' : AuditLogger} {hist : List Entry} (h : ∀ task_id, Stream l task_id hist)
    {call : TaskCall} (hplain : call.Plain) {candidate : ℤ} {n : ℕ} {t : ℤ}
    {w : Option WarningPayload}
    (hr : AuditLogger.reserve call.task_id call.timestamp_override candidate l = .ok (n, t, w) l')
    (task_id : String) : Stream l' task_id (hist ++ entries call n t w) := by
  by_cases htask : task_id = call.task_id
  · subst htask
    have hentry := TaskCall.get_entry hplain
    obtain ⟨_, _, _, _, he⟩ | ⟨_, hprev, hlt, -, he⟩ | ⟨hle, he⟩ :=
      reserve_cases call.task_id call.timestamp_override candidate l
    · rw [he] at hr
      cases hr
    · rw [he] at hr
      cases hr
      -- the warning first: it takes the number, and the time it is clamped to
      have hsame : ∀ last, l.last_timestamps call.task_id = some last → last ≤ t := by
        intro last hl
        rw [hprev] at hl
        cases hl
        exact le_rfl
      have hget := get_skew_warning call
        ⟨l.seq_counters call.task_id, t, t, candidate, t, t - candidate⟩
      have hwarn : Stream (l.advanced call.task_id 1 t) call.task_id (hist ++ [_]) :=
        (h call.task_id).push hget.1 hget.2.1 hget.2.2 hsame (by simp) (by simp)
      unfold entries
      rw [Option.map_some, Option.toList_some, ← List.append_assoc]
      exact hwarn.push (hentry _ t).1 (by simpa using (hentry _ t).2.1) (hentry _ t).2.2
        (by simp) (by simp) (by simp)
    · rw [he] at hr
      cases hr
      exact (h call.task_id).push (hentry _ _).1 (hentry _ _).2.1 (hentry _ _).2.2 hle (by simp)
        (by simp)
  · have hother := reserve_other htask call.timestamp_override candidate l
    rw [hr] at hother
    refine (h task_id).skip ?_ hother.1 hother.2
    intro e he
    rw [entries_task hplain n t w e he]
    exact fun heq => htask (Option.some.inj heq).symm

/-! ## Any interleaving -/

/-- Taking the first entry out of one caller's list. -/
theorem flatten_set_perm {writing : List (List Entry)} {i : ℕ} {e : Entry} {rest : List Entry}
    (h : writing[i]? = some (e :: rest)) :
    ([e] ++ (writing.set i rest).flatten).Perm writing.flatten := by
  induction writing generalizing i with
  | nil => simp at h
  | cons es writing ih =>
      cases i with
      | zero =>
          rw [List.getElem?_cons_zero, Option.some.injEq] at h
          rw [h]
          exact List.Perm.refl _
      | succ i =>
          rw [List.getElem?_cons_succ] at h
          rw [List.set_cons_succ, List.flatten_cons, List.flatten_cons, ← List.append_assoc]
          refine (List.perm_append_comm.append_right _).trans ?_
          rw [List.append_assoc]
          exact (ih h).append_left es

section
variable {c : Conf} {i : ℕ} {call : TaskCall} {cand : ℤ} {l' : AuditLogger}

theorem Conf.step_reserve_ok {n : ℕ} {t : ℤ} {w : Option WarningPayload}
    (hi : c.waiting[i]? = some (call, cand))
    (hr : AuditLogger.reserve call.task_id call.timestamp_override cand c.logger =
      .ok (n, t, w) l') :
    c.step (.reserve i) = { c with
      logger := l'
      waiting := c.waiting.eraseIdx i
      writing := c.writing ++ [entries call n t w] } := by
  simp only [Conf.step, hi, hr]

theorem Conf.step_reserve_error {x : Exc} (hi : c.waiting[i]? = some (call, cand))
    (hr : AuditLogger.reserve call.task_id call.timestamp_override cand c.logger = .error x l') :
    c.step (.reserve i) = { c with waiting := c.waiting.eraseIdx i } := by
  have hsame := reserve_error hr
  subst hsame
  simp only [Conf.step, hi, hr]

theorem Conf.handed_reserve_ok {es : List Entry} :
    Conf.handed { c with logger := l', waiting := c.waiting.eraseIdx i, writing := c.writing ++ [es] } =
      c.handed ++ es := by
  simp [Conf.handed]

end

/-- Writing an entry only moves it to the log. -/
theorem Conf.step_write (c : Conf) (i : ℕ) :
    (c.step (.write i)).logger = c.logger ∧ (c.step (.write i)).waiting = c.waiting ∧
      (c.step (.write i)).handed.Perm c.handed := by
  cases hi : c.writing[i]? with
  | none =>
      have hstep : c.step (.write i) = c := by simp only [Conf.step, hi]
      rw [hstep]
      exact ⟨rfl, rfl, List.Perm.refl _⟩
  | some es =>
      cases es with
      | nil =>
          have hstep : c.step (.write i) = c := by simp only [Conf.step, hi]
          rw [hstep]
          exact ⟨rfl, rfl, List.Perm.refl _⟩
      | cons e rest =>
          have hstep : c.step (.write i) =
              { c with writing := c.writing.set i rest, log := c.log ++ [e] } := by
            simp only [Conf.step, hi]
          rw [hstep]
          refine ⟨rfl, rfl, ?_⟩
          show List.Perm (c.log ++ [e] ++ (c.writing.set i rest).flatten) _
          rw [List.append_assoc]
          exact (flatten_set_perm hi).append_left _

/-- **What an act does**: a caller starts waiting; a waiting caller is served under the lock; or
nobody is served (a call raises, an entry is written, there is nobody to go on). -/
theorem Conf.step_cases (c : Conf) (act : Act) :
    (∃ call now, act = .read call now ∧ c.step act =
      { c with waiting := c.waiting ++ [(call, candidate call.timestamp_override now)] }) ∨
    (∃ call cand n t w, (call, cand) ∈ c.waiting ∧
      AuditLogger.reserve call.task_id call.timestamp_override cand c.logger =
        .ok (n, t, w) (c.step act).logger ∧
      (c.step act).waiting ⊆ c.waiting ∧ (c.step act).handed = c.handed ++ entries call n t w) ∨
    ((c.step act).logger = c.logger ∧ (c.step act).waiting ⊆ c.waiting ∧
      (c.step act).handed.Perm c.handed) := by
  cases act with
  | read call now => exact .inl ⟨call, now, rfl, rfl⟩
  | reserve i =>
      cases hi : c.waiting[i]? with
      | none =>
          have hstep : c.step (.reserve i) = c := by simp only [Conf.step, hi]
          rw [hstep]
          exact .inr (.inr ⟨rfl, List.Subset.refl _, List.Perm.refl _⟩)
      | some p =>
          obtain ⟨call, cand⟩ := p
          have hsub : c.waiting.eraseIdx i ⊆ c.waiting := (List.eraseIdx_sublist _ _).subset
          cases hr : AuditLogger.reserve call.task_id call.timestamp_override cand c.logger with
          | ok r l' =>
              obtain ⟨n, t, w⟩ := r
              rw [Conf.step_reserve_ok hi hr, Conf.handed_reserve_ok]
              exact .inr (.inl ⟨call, cand, n, t, w, List.mem_of_getElem? hi, hr, hsub, rfl⟩)
          | error x l' =>
              rw [Conf.step_reserve_error hi hr]
              exact .inr (.inr ⟨rfl, hsub, List.Perm.refl _⟩)
  | write i =>
      obtain ⟨hlogger, hwaiting, hhanded⟩ := c.step_write i
      exact .inr (.inr ⟨hlogger, hwaiting ▸ List.Subset.refl _, hhanded⟩)

/-- The invariant: waiting callers are plain and hold what they read, and the entries handed out can
be put in an order in which every task's are a stream. -/
structure Conf.Ordered (acts : List Act) (c : Conf) : Prop where
  waiting : ∀ p ∈ c.waiting, p.1.Plain ∧ ∃ now, Act.read p.1 now ∈ acts ∧
    p.2 = candidate p.1.timestamp_override now
  streams : ∃ hist : List Entry, hist.Perm c.handed ∧ ∀ task_id, Stream c.logger task_id hist

theorem Conf.Ordered.mono {acts acts' : List Act} {c : Conf} (h : c.Ordered acts)
    (hsub : acts ⊆ acts') : c.Ordered acts' where
  waiting p hp := by
    obtain ⟨hplain, now, hmem, hcand⟩ := h.waiting p hp
    exact ⟨hplain, now, hsub hmem, hcand⟩
  streams := h.streams

/-- **One act keeps the invariant.** -/
theorem Conf.Ordered.step {acts : List Act} {c : Conf} (h : c.Ordered acts) {act : Act}
    (hact : act ∈ acts) (hplain : ∀ call now, act = .read call now → call.Plain) :
    (c.step act).Ordered acts := by
  obtain ⟨hist, hperm, hstream⟩ := h.streams
  obtain ⟨call, now, rfl, hstep⟩ | ⟨call, cand, n, t, w, hmem, hr, hsub, hhanded⟩ |
    ⟨hlogger, hsub, hhanded⟩ := c.step_cases act
  · rw [hstep]
    refine ⟨fun p hp => ?_, hist, hperm, hstream⟩
    obtain hp | hp := List.mem_append.mp hp
    · exact h.waiting p hp
    · rw [List.mem_singleton.mp hp]
      exact ⟨hplain call now rfl, now, hact, rfl⟩
  · refine ⟨fun p hp => h.waiting p (hsub hp), hist ++ entries call n t w, ?_,
      Stream.reserve hstream (h.waiting _ hmem).1 hr⟩
    rw [hhanded]
    exact hperm.append_right _
  · exact ⟨fun p hp => h.waiting p (hsub hp), hist, hperm.trans hhanded.symm, hlogger ▸ hstream⟩

/-- **Any run.** -/
theorem Conf.run_ordered (acts : List Act)
    (hplain : ∀ call now, Act.read call now ∈ acts → call.Plain) :
    (Conf.run acts).Ordered acts := by
  induction acts using List.reverseRecOn with
  | nil => exact ⟨by simp [Conf.run], [], List.Perm.refl _, stream_init⟩
  | append_singleton acts act ih =>
      have hrun : Conf.run (acts ++ [act]) = (Conf.run acts).step act := by
        simp [Conf.run]
      rw [hrun]
      refine ((ih ?_).mono (List.subset_append_left _ _)).step (by simp) ?_
      · exact fun call now h => hplain call now (List.mem_append_left _ h)
      · rintro call now rfl
        exact hplain call now (by simp)

/-! ## What the readers of the log rely on -/

/-- The numbers of a stream are 0, 1, 2, … -/
theorem Stream.numbers {l : AuditLogger} {task_id : String} {hist : List Entry}
    (h : Stream l task_id hist) :
    (ofTask task_id hist).map Entry.sequence_number =
      (List.range (l.seq_counters task_id)).map some := by
  obtain ⟨ts, hmap, hlen, -, -⟩ := h
  have hfst := congrArg (List.map Prod.fst) hmap
  rw [List.map_map, List.map_map] at hfst
  rw [← hlen, List.range_eq_range', ← List.zipIdx_map_snd, List.map_map]
  exact hfst

/-- An entry of a stream has a number and a time, and times do not go back as numbers go up. -/
theorem Stream.times {l : AuditLogger} {task_id : String} {hist : List Entry}
    (h : Stream l task_id hist) {e e' : Entry} (he : e ∈ ofTask task_id hist)
    (he' : e' ∈ ofTask task_id hist) :
    ∃ n t n' t', e.sequence_number = some n ∧ e.timestamp = some t ∧
      e'.sequence_number = some n' ∧ e'.timestamp = some t' ∧ (n ≤ n' → t ≤ t') := by
  obtain ⟨ts, hmap, -, hpair, -⟩ := h
  -- an entry stands at the position that is its number
  have hat : ∀ {e : Entry}, e ∈ ofTask task_id hist →
      ∃ t n, e.sequence_number = some n ∧ e.timestamp = some t ∧ ts[n]? = some t := by
    intro e he
    have hpos := List.mem_map_of_mem (f := fun e => (e.sequence_number, e.timestamp)) he
    rw [hmap, List.mem_map] at hpos
    obtain ⟨⟨t, n⟩, hmem, heq⟩ := hpos
    rw [Prod.mk.injEq] at heq
    exact ⟨t, n, heq.1.symm, heq.2.symm, List.mem_zipIdx_iff_getElem?.mp hmem⟩
  obtain ⟨t, n, hn, ht, hget⟩ := hat he
  obtain ⟨t', n', hn', ht', hget'⟩ := hat he'
  refine ⟨n, t, n', t', hn, ht, hn', ht', fun hle => ?_⟩
  obtain ⟨hlt, rfl⟩ := List.getElem?_eq_some_iff.mp hget
  obtain ⟨hlt', rfl⟩ := List.getElem?_eq_some_iff.mp hget'
  obtain heq | hlt := hle.eq_or_lt
  · subst heq
    exact le_rfl
  · exact List.pairwise_iff_getElem.mp hpair n n' _ _ hlt

/-- What the lock does for the `i`-th waiting caller, whose clock (or explicit timestamp) showed
`cand`. -/
structure Locked (c : Conf) (i : ℕ) (call : TaskCall) (cand : ℤ) : Prop where
  /-- A warning is handed out exactly for a clock that is behind the task's last timestamp. -/
  warns_iff : (∃ n t w,
      result (reserve call.task_id call.timestamp_override cand c.logger) = .ok (n, t, some w)) ↔
    call.timestamp_override = none ∧
      ∃ last, c.logger.last_timestamps call.task_id = some last ∧ cand < last
  /-- A call raises exactly for an explicit timestamp that is. -/
  raises_iff : (∃ x, result (reserve call.task_id call.timestamp_override cand c.logger) =
      .error x) ↔
    call.timestamp_override ≠ none ∧
      ∃ last, c.logger.last_timestamps call.task_id = some last ∧ cand < last
  /-- What is handed out are the entries with the metadata reserved. -/
  hands_out : ∀ n t w,
    result (reserve call.task_id call.timestamp_override cand c.logger) = .ok (n, t, w) →
      (c.step (.reserve i)).handed = c.handed ++ entries call n t w
  /-- A call that raises hands out nothing and changes no counter and no timestamp. -/
  refuses : ∀ x,
    result (reserve call.task_id call.timestamp_override cand c.logger) = .error x →
      x.kind = .AuditOrderingError ∧ (c.step (.reserve i)).handed = c.handed ∧
        (c.step (.reserve i)).logger = c.logger
  /-- Another task sees nothing of it. -/
  other_tasks : ∀ task_id, task_id ≠ call.task_id →
    (c.step (.reserve i)).logger.seq_counters task_id = c.logger.seq_counters task_id ∧
      (c.step (.reserve i)).logger.last_timestamps task_id = c.logger.last_timestamps task_id ∧
      ofTask task_id (c.step (.reserve i)).handed = ofTask task_id c.handed
  /-- And it sees nothing of another task. -/
  own_task : ∀ l : AuditLogger,
    l.seq_counters call.task_id = c.logger.seq_counters call.task_id →
    l.last_timestamps call.task_id = c.logger.last_timestamps call.task_id →
      result (reserve call.task_id call.timestamp_override cand l) =
        result (reserve call.task_id call.timestamp_override cand c.logger)

theorem ofTask_entries_other {call : TaskCall} (h : call.Plain) {task_id : String}
    (htask : task_id ≠ call.task_id) (n : ℕ) (t : ℤ) (w : Option WarningPayload) :
    ofTask task_id (entries call n t w) = [] := by
  rw [ofTask, List.filter_eq_nil_iff]
  intro e he
  rw [entries_task h n t w e he]
  simpa using fun heq : call.task_id = task_id => htask heq.symm

theorem locked {c : Conf} {i : ℕ} {call : TaskCall} {cand : ℤ} (hcall : call.Plain)
    (hi : c.waiting[i]? = some (call, cand)) : Locked c i call cand where
  warns_iff := reserve_warns_iff _ _ _ _
  raises_iff := reserve_raises_iff _ _ _ _
  hands_out n t w hr := by
    rw [Conf.step_reserve_ok hi (eq_ok hr), Conf.handed_reserve_ok]
  refuses x hr := by
    rw [Conf.step_reserve_error hi (eq_error hr)]
    refine ⟨?_, rfl, rfl⟩
    rw [reserve_result] at hr
    split_ifs at hr
    cases hr
    rfl
  other_tasks task_id htask := by
    have hother := reserve_other htask call.timestamp_override cand c.logger
    cases hr : reserve call.task_id call.timestamp_override cand c.logger with
    | ok r l' =>
        obtain ⟨n, t, w⟩ := r
        rw [hr] at hother
        rw [Conf.step_reserve_ok hi hr, Conf.handed_reserve_ok]
        refine ⟨hother.1, hother.2, ?_⟩
        rw [ofTask, List.filter_append, ← ofTask, ← ofTask, ofTask_entries_other hcall htask,
          List.append_nil]
    | error x l' =>
        rw [Conf.step_reserve_error hi hr]
        exact ⟨rfl, rfl, rfl⟩
  own_task l hseq hlast := by
    rw [reserve_result, reserve_result, hseq, hlast]

/-- **A task's audit stream is gapless and ordered.**  After any run of any callers, with any clock
readings and explicit timestamps: the entries handed out for a task are numbered 0, 1, 2, …, each
number once; they are stamped in the order of their numbers; and whichever waiting caller gets the
lock next, it is served as `Locked` says. -/
theorem audit_stream (acts : List Act)
    (hplain : ∀ call now, Act.read call now ∈ acts → call.Plain) :
    (∀ task_id, ((ofTask task_id (Conf.run acts).handed).map Entry.sequence_number).Perm
      ((List.range ((Conf.run acts).logger.seq_counters task_id)).map some)) ∧
    (∀ task_id, ∀ e ∈ ofTask task_id (Conf.run acts).handed,
      ∀ e' ∈ ofTask task_id (Conf.run acts).handed, ∃ n t n' t',
        e.sequence_number = some n ∧ e.timestamp = some t ∧
        e'.sequence_number = some n' ∧ e'.timestamp = some t' ∧ (n ≤ n' → t ≤ t')) ∧
    ∀ i call cand, (Conf.run acts).waiting[i]? = some (call, cand) →
      (∃ now, Act.read call now ∈ acts ∧ cand = candidate call.timestamp_override now) ∧
        Locked (Conf.run acts) i call cand := by
  have hord := Conf.run_ordered acts hplain
  obtain ⟨hist, hperm, hstream⟩ := hord.streams
  refine ⟨fun task_id => ?_, fun task_id e he e' he' => ?_, fun i call cand hi => ?_⟩
  · rw [← (hstream task_id).numbers]
    exact ((hperm.symm.filter _).map _)
  · have hmem := fun e => (hperm.filter fun e => decide (e.task_id = some task_id)).mem_iff (a := e)
    exact (hstream task_id).times ((hmem e).mpr he) ((hmem e').mpr he')
  · obtain ⟨hcall, hread⟩ := hord.waiting _ (List.mem_of_getElem? hi)
    exact ⟨hread, locked hcall hi⟩

/-- Two calls for one task, the second with a clock that has gone back: three entries. -/
def skewed : List Act :=
  let call : TaskCall := .stage_event "policy.allowed" "allow" "policy-eval" "t" "general" none [] ""
  [.read call ⟨5, none⟩, .reserve 0, .read call ⟨3, none⟩, .reserve 0, .write 1]

theorem skewed_stream :
    (Conf.run skewed).logger.seq_counters "t" = 3 ∧
    ((ofTask "t" (Conf.run skewed).handed).map Entry.sequence_number).Perm
      ((List.range ((Conf.run skewed).logger.seq_counters "t")).map some) := by
  refine ⟨by decide, (audit_stream skewed ?_).1 "t"⟩
  intro call now h
  simp only [skewed, List.mem_cons, Act.read.injEq, List.not_mem_nil, reduceCtorEq, or_false,
    false_or] at h
  obtain ⟨rfl, -⟩ | ⟨rfl, -⟩ := h
  · intro kv hkv
    cases hkv
  · intro kv hkv
    cases hkv

end AuditLogger

end AegisOs
