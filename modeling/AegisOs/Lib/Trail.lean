/-
# `AegisOs.Lib.Trail` — a log read by an automaton

Programs that share a log write to it in an order of their own.  A script is
that order: an automaton that reads the entries of one program, with the phase
it is in wherever the program can stop.

    Moves ph ph' s s'      between the two states the log grew by a word that
                           leads from ph to ph'
    Walks Q X ph m         synchronous code that, begun in ph, returns a in a
                           phase that is Q a, or raises e in one that is X e
    Script.Follows c       every segment of the coroutine c leads from the phase
                           of the await it was resumed from to that of its stop

`Conf.stands_of_runs` and `Pool.stands_of_run` are what following is for: the
entries of one coroutine among any interference, and the entries of each of any
number of coroutines that share the log, are read to the phase the coroutine
stands in.
-/
import AegisOs.Lib.Co

namespace AegisOs.Lib.Trail

open Co EState

/-! ## Reading -/

section Read
variable {φ ev : Type} {next : φ → ev → Option φ}

/-- Read entries from a phase on; `none` where one of them has no place. -/
def read (next : φ → ev → Option φ) : φ → List ev → Option φ
  | ph, [] => some ph
  | ph, e :: evs => (next ph e).bind fun ph' => read next ph' evs

theorem read_append (evs' : List ev) :
    ∀ (ph : φ) (evs : List ev),
      read next ph (evs ++ evs') = (read next ph evs).bind fun ph' => read next ph' evs'
  | _, [] => rfl
  | ph, e :: evs => by
      show (next ph e).bind (fun ph' => read next ph' (evs ++ evs')) = _
      cases h : next ph e with
      | none => simp [read, h]
      | some ph' =>
          simp only [read, h, Option.bind_some]
          exact read_append evs' ph' evs

theorem read_append_of_some {ph ph' : φ} {evs : List ev} (h : read next ph evs = some ph')
    (evs' : List ev) : read next ph (evs ++ evs') = read next ph' evs' := by
  rw [read_append, h]
  rfl

/-- Every entry that was read has a place in some phase. -/
theorem next_of_mem_read {e : ev} : ∀ {evs : List ev} {ph ph' : φ},
    read next ph evs = some ph' → e ∈ evs → ∃ ph₁ ph₂, next ph₁ e = some ph₂
  | [], _, _, _, hmem => by cases hmem
  | e' :: evs, ph, ph', h, hmem => by
      obtain ⟨ph₁, hnext, hrest⟩ := Option.bind_eq_some_iff.mp h
      rcases List.mem_cons.mp hmem with rfl | hmem
      · exact ⟨ph, ph₁, hnext⟩
      · exact next_of_mem_read hrest hmem

end Read

/-! ## Synchronous code -/

section Sync
variable {σ ε φ ev α β : Type} {log : σ → List ev} {next : φ → ev → Option φ}

/-- See the header. -/
def Moves (log : σ → List ev) (next : φ → ev → Option φ) (ph ph' : φ) (s s' : σ) : Prop :=
  ∃ evs, log s' = log s ++ evs ∧ read next ph evs = some ph'

theorem Moves.of_eq {s s' : σ} (h : log s' = log s) (ph : φ) : Moves log next ph ph s s' :=
  ⟨[], by rw [h, List.append_nil], rfl⟩

theorem Moves.of_write {ph ph' : φ} {s s' : σ} {e : ev} (h : log s' = log s ++ [e])
    (hn : next ph e = some ph') : Moves log next ph ph' s s' :=
  ⟨[e], h, by simp [read, hn]⟩

theorem Moves.trans {ph₁ ph₂ ph₃ : φ} {s₁ s₂ s₃ : σ} (h : Moves log next ph₁ ph₂ s₁ s₂)
    (h' : Moves log next ph₂ ph₃ s₂ s₃) : Moves log next ph₁ ph₃ s₁ s₃ := by
  obtain ⟨evs, hlog, hread⟩ := h
  obtain ⟨evs', hlog', hread'⟩ := h'
  refine ⟨evs ++ evs', by rw [hlog', hlog, List.append_assoc], ?_⟩
  rw [read_append_of_some hread, hread']

/-- The phase a result is in. -/
def Lands (Q : α → φ → Prop) (X : ε → φ → Prop) (ph : φ) : EStateM.Result ε σ α → Prop
  | .ok a _ => Q a ph
  | .error e _ => X e ph

/-- See the header. -/
def Walks (log : σ → List ev) (next : φ → ev → Option φ) (Q : α → φ → Prop) (X : ε → φ → Prop)
    (ph : φ) (m : EStateM ε σ α) : Prop :=
  ∀ s, ∃ ph', Moves log next ph ph' s (after (m s)) ∧ Lands Q X ph' (m s)

variable {Q : α → φ → Prop} {X : ε → φ → Prop} {ph : φ} {m : EStateM ε σ α}

theorem Walks.ok (h : Walks log next Q X ph m) {s s' : σ} {a : α} (hm : m s = .ok a s') :
    ∃ ph', Moves log next ph ph' s s' ∧ Q a ph' := by
  have := h s
  rwa [hm] at this

theorem Walks.error (h : Walks log next Q X ph m) {s s' : σ} {e : ε} (hm : m s = .error e s') :
    ∃ ph', Moves log next ph ph' s s' ∧ X e ph' := by
  have := h s
  rwa [hm] at this

theorem Walks.pure {a : α} (h : Q a ph) : Walks log next Q X ph (Pure.pure a) :=
  fun _ => ⟨ph, Moves.of_eq rfl ph, h⟩

theorem Walks.throw {e : ε} (h : X e ph) : Walks log next Q X ph (throw e : EStateM ε σ α) :=
  fun _ => ⟨ph, Moves.of_eq rfl ph, h⟩

/-- Code that leaves the log alone stays in its phase. -/
theorem Walks.silent (hm : Keeps (fun s s' => log s' = log s) m) (hq : ∀ a, Q a ph)
    (hx : ∀ e, X e ph) : Walks log next Q X ph m := by
  intro s
  refine ⟨ph, Moves.of_eq (hm s) ph, ?_⟩
  cases m s with
  | ok a _ => exact hq a
  | error e _ => exact hx e

/-- An entry that has a place. -/
theorem Walks.write {Q : PUnit → φ → Prop} {f : σ → σ} {e : ev} {ph' : φ}
    (hf : ∀ s, log (f s) = log s ++ [e]) (hn : next ph e = some ph') (hq : Q ⟨⟩ ph') :
    Walks log next Q X ph (modify f : EStateM ε σ PUnit) :=
  fun s => ⟨ph', Moves.of_write (hf s) hn, hq⟩

theorem Walks.bind {Q : β → φ → Prop} {S : α → φ → Prop} {f : α → EStateM ε σ β}
    (hm : Walks log next S X ph m) (hf : ∀ a ph', S a ph' → Walks log next Q X ph' (f a)) :
    Walks log next Q X ph (m >>= f) := by
  intro s
  cases h : m s with
  | ok a s' =>
      obtain ⟨ph', hmove, hq⟩ := hm.ok h
      obtain ⟨ph'', hmove', hland⟩ := hf a ph' hq s'
      rw [bind_ok h]
      exact ⟨ph'', hmove.trans hmove', hland⟩
  | error e s' =>
      obtain ⟨ph', hmove, hx⟩ := hm.error h
      rw [bind_error h]
      exact ⟨ph', hmove, hx⟩

/-- An `except` clause begins in the phase its body raised in. -/
theorem Walks.catching {X' : ε → φ → Prop} {f : ε → Option (EStateM ε σ α)}
    (hm : Walks log next Q X' ph m) (hnone : ∀ e ph', X' e ph' → f e = none → X e ph')
    (hsome : ∀ e ph' g, X' e ph' → f e = some g → Walks log next Q X ph' g) :
    Walks log next Q X ph (Lib.catching m f) := by
  intro s
  cases h : m s with
  | ok a s' =>
      obtain ⟨ph', hmove, hq⟩ := hm.ok h
      rw [catching_ok h]
      exact ⟨ph', hmove, hq⟩
  | error e s' =>
      obtain ⟨ph', hmove, hx⟩ := hm.error h
      cases hf : f e with
      | none =>
          rw [catching_none h hf]
          exact ⟨ph', hmove, hnone e ph' hx hf⟩
      | some g =>
          obtain ⟨ph'', hmove', hland⟩ := hsome e ph' g hx hf s'
          rw [catching_some h hf]
          exact ⟨ph'', hmove.trans hmove', hland⟩

theorem Walks.ite {c : Prop} [Decidable c] {n : EStateM ε σ α} (hm : c → Walks log next Q X ph m)
    (hn : ¬c → Walks log next Q X ph n) : Walks log next Q X ph (if c then m else n) := by
  split
  · exact hm ‹_›
  · exact hn ‹_›

theorem Walks.mono {Q' : α → φ → Prop} {X' : ε → φ → Prop} (h : Walks log next Q X ph m)
    (hq : ∀ a ph', Q a ph' → Q' a ph') (hx : ∀ e ph', X e ph' → X' e ph') :
    Walks log next Q' X' ph m := by
  intro s
  cases hm : m s with
  | ok a s' =>
      obtain ⟨ph', hmove, hland⟩ := h.ok hm
      exact ⟨ph', hmove, hq a ph' hland⟩
  | error e s' =>
      obtain ⟨ph', hmove, hland⟩ := h.error hm
      exact ⟨ph', hmove, hx e ph' hland⟩

/-- Synchronous code in a segment that has come to the phase it walks from. -/
theorem Walks.safe {Q' : Type} {R : Q' → Type} (h : Walks log next Q X ph m)
    {env : (q : Q') → σ → Except ε (R q) → σ → Prop} {C : Hist ε Q' R → σ → Q' → σ → Prop}
    {D : Hist ε Q' R → σ → α → σ → Prop} {E : Hist ε Q' R → σ → ε → σ → Prop} {hist : Hist ε Q' R}
    {ph₀ : φ} {s₀ s : σ} (hs : Moves log next ph₀ ph s₀ s)
    (hok : ∀ a ph' s', Moves log next ph₀ ph' s₀ s' → Q a ph' → D hist s₀ a s')
    (herr : ∀ e ph' s', Moves log next ph₀ ph' s₀ s' → X e ph' → E hist s₀ e s') :
    Safe env C D E hist s₀ (Co.lift m) s := by
  refine Safe.lift ?_ ?_
  · intro a s' hm
    obtain ⟨ph', hmove, hq⟩ := h.ok hm
    exact hok a ph' s' (hs.trans hmove) hq
  · intro e s' hm
    obtain ⟨ph', hmove, hx⟩ := h.error hm
    exact herr e ph' s' (hs.trans hmove) hx

end Sync

/-! ## Coroutines -/

/-- The order in which a coroutine writes, and the phase at each of its stops. -/
structure Script (ε Q φ ev : Type) where
  next : φ → ev → Option φ
  start : φ
  awaits : Q → φ
  returns : φ
  raises : ε → φ → Prop

namespace Script

variable {σ ε Q φ ev : Type} {R : Q → Type} {α : Type} {log : σ → List ev}
  {p : Script ε Q φ ev}

/-- The phase the next segment begins in, after these calls. -/
def entry (p : Script ε Q φ ev) (h : Hist ε Q R) : φ :=
  match h.getLast? with
  | none => p.start
  | some x => p.awaits x.1

@[simp] theorem entry_nil : p.entry ([] : Hist ε Q R) = p.start := rfl

@[simp] theorem entry_append (h : Hist ε Q R) (x : Σ q : Q, Except ε (R q)) :
    p.entry (h ++ [x]) = p.awaits x.1 := by
  unfold entry
  rw [List.getLast?_append]
  rfl

/-- The phase a stopped coroutine is in. -/
def Stands (p : Script ε Q φ ev) : Point σ ε Q R α → φ → Prop
  | .done _, ph => ph = p.returns
  | .failed e, ph => p.raises e ph
  | .waiting q _, ph => ph = p.awaits q

/-- The phase a coroutine of a pool is in. -/
def ThreadStands (p : Script ε Q φ ev) : Thread σ ε Q R α → φ → Prop
  | .fresh _, ph => ph = p.start
  | .stopped _ pt, ph => p.Stands pt ph

/-- The assertion where a coroutine raises. -/
def Raised (p : Script ε Q φ ev) (log : σ → List ev) (h : Hist ε Q R) (s₀ : σ) (e : ε) (s : σ) :
    Prop :=
  ∃ ph, Moves log p.next (p.entry h) ph s₀ s ∧ p.raises e ph

/-- See the header. -/
def Follows (p : Script ε Q φ ev) (log : σ → List ev) (c : Co σ ε Q R α) : Prop :=
  ∀ (env : (q : Q) → σ → Except ε (R q) → σ → Prop) (s : σ),
    Safe env (fun h s₀ q s => Moves log p.next (p.entry h) (p.awaits q) s₀ s)
      (fun h s₀ _ s => Moves log p.next (p.entry h) p.returns s₀ s) (p.Raised log) [] s c s

/-- What a segment has done when it stops. -/
theorem moved {env : (q : Q) → σ → Except ε (R q) → σ → Prop} {h : Hist ε Q R} {s₀ s : σ}
    {pt : Point σ ε Q R α}
    (hs : StopOk env (fun h s₀ q s => Moves log p.next (p.entry h) (p.awaits q) s₀ s)
      (fun h s₀ _ s => Moves log p.next (p.entry h) p.returns s₀ s) (p.Raised log) h s₀ pt s) :
    ∃ ph, Moves log p.next (p.entry h) ph s₀ s ∧ p.Stands pt ph := by
  cases pt with
  | done a => exact ⟨_, hs, rfl⟩
  | failed e => exact hs
  | waiting q k => exact ⟨_, hs.1, rfl⟩

end Script

/-- The entries of a segment. -/
def entries {σ ev : Type} (log : σ → List ev) (seg : σ × σ) : List ev :=
  (log seg.2).drop (log seg.1).length

section Machines
variable {σ ε Q φ ev : Type} {R : Q → Type} {α : Type} {log : σ → List ev}

/-- One coroutine, whatever happens to the state between its segments. -/
theorem Conf.stands_of_runs {p : Script ε Q φ ev} {I : σ → σ → Prop}
    {G : (q : Q) → Except ε (R q) → σ → Prop} {c₀ : Co σ ε Q R α} (hp : p.Follows log c₀) {s : σ}
    {segs : List (σ × σ)} {c : Conf σ ε Q R α} (hr : Conf.Runs I G c₀ s segs c) :
    ∃ ph, read p.next p.start (segs.flatMap (entries log)) = some ph ∧ p.Stands c.point ph := by
  have hread : ∀ {ph ph' : φ} {s₀ s₁ : σ}, Moves log p.next ph ph' s₀ s₁ →
      read p.next ph (entries log (s₀, s₁)) = some ph' := by
    rintro ph ph' s₀ s₁ ⟨evs, hlog, hr⟩
    unfold entries
    rwa [hlog, List.drop_left]
  induction hr with
  | start =>
      obtain ⟨ph, hmove, hstand⟩ := Script.moved (hp (awaitEnv I G) s).resume
      refine ⟨ph, ?_, hstand⟩
      rw [List.flatMap_cons, List.flatMap_nil, List.append_nil]
      exact hread hmove
  | interfere _ _ ih => exact ih
  | @answer segs h s₀ s₁ s₂ q k r hr hg ih =>
      obtain ⟨ph, hsofar, rfl⟩ := ih
      have hgood := Conf.good_of_reachable (hp (awaitEnv I G) s) (hr.answer hg).reachable
      obtain ⟨ph', hmove, hstand⟩ := Script.moved hgood.stopOk
      refine ⟨ph', ?_, hstand⟩
      have hentry : p.entry (h ++ [⟨q, r⟩]) = p.awaits q := Script.entry_append h _
      rw [List.flatMap_append, read_append_of_some hsofar, List.flatMap_cons, List.flatMap_nil,
        List.append_nil]
      rw [← hentry]
      exact hread hmove

variable {ι : Type} [DecidableEq ι]

/-- Every coroutine has written what its protocol says, and nobody has written anything else. -/
def Pool.Stand (p : ι → Script ε Q φ ev) (own : ι → ev → Bool) (log : σ → List ev) (s : σ)
    (P : Pool σ ε Q R α ι) : Prop :=
  ∃ evs, log P.shared = log s ++ evs ∧ (∀ e ∈ evs, ∃ i, own i e = true) ∧
    ∀ i, ∃ ph, read (p i).next (p i).start (evs.filter (own i)) = some ph ∧
      (p i).ThreadStands (P.threads i) ph

/-- Any number of coroutines that follow protocols with entries of their own, in any order. -/
theorem Pool.stands_of_run {p : ι → Script ε Q φ ev} {own : ι → ev → Bool}
    (hown : ∀ i ph e ph', (p i).next ph e = some ph' → own i e = true ∧ ∀ j ≠ i, own j e = false)
    {c : ι → Co σ ε Q R α} (hp : ∀ i, (p i).Follows log (c i)) {s : σ}
    {evs : List (Pool.Event ε Q R ι)} {P : Pool σ ε Q R α ι}
    (hr : Pool.Run ⟨s, fun i => .fresh (c i)⟩ evs P) : Pool.Stand p own log s P := by
  have hfresh : Pool.Good
      (fun i h s₀ q s => Moves log (p i).next ((p i).entry h) ((p i).awaits q) s₀ s)
      (fun i h s₀ _ s => Moves log (p i).next ((p i).entry h) (p i).returns s₀ s)
      (fun i => (p i).Raised log) ⟨s, fun i => .fresh (c i)⟩ :=
    fun i s' => hp i anyEnv s'
  induction hr with
  | refl => exact ⟨[], (List.append_nil _).symm, by simp, fun i => ⟨_, rfl, rfl⟩⟩
  | @snoc P P' _ _ hr hs ih =>
      obtain ⟨before, hlog, howned, hstand⟩ := ih
      have hgood := Pool.good_of_run hfresh hr
      -- the thread that ran stood in the phase its segment began in
      have hran : ∃ i h, (∀ ph, (p i).ThreadStands (P.threads i) ph → ph = (p i).entry h) ∧
          Pool.Ran (fun i h s₀ q s => Moves log (p i).next ((p i).entry h) ((p i).awaits q) s₀ s)
            (fun i h s₀ _ s => Moves log (p i).next ((p i).entry h) (p i).returns s₀ s)
            (fun i => (p i).Raised log) i h P P' := by
        rcases hgood.step_cases hs with ⟨i, c', -, hi, hran⟩ | ⟨i, h, q, k, r, -, hi, hran⟩
        · refine ⟨i, [], ?_, hran⟩
          intro ph hph
          rw [hi] at hph
          exact hph
        · refine ⟨i, h ++ [⟨q, r⟩], ?_, hran⟩
          intro ph hph
          rw [hi] at hph
          rw [Script.entry_append]
          exact hph
      obtain ⟨i, h, hentry, pt, hthreads, hstop⟩ := hran
      obtain ⟨ph', ⟨new, hnew, hread'⟩, hstand'⟩ := Script.moved hstop
      have hmine : ∀ e ∈ new, own i e = true ∧ ∀ j ≠ i, own j e = false := by
        intro e he
        obtain ⟨ph₁, ph₂, hnext⟩ := next_of_mem_read hread' he
        exact hown i ph₁ e ph₂ hnext
      refine ⟨before ++ new, by rw [hnew, hlog, List.append_assoc], ?_, ?_⟩
      · intro e he
        rcases List.mem_append.mp he with he | he
        · exact howned e he
        · exact ⟨i, (hmine e he).1⟩
      · intro j
        rw [List.filter_append, hthreads]
        obtain ⟨ph, hread, hph⟩ := hstand j
        by_cases hj : j = i
        · subst hj
          have hall : new.filter (own j) = new :=
            List.filter_eq_self.mpr fun e he => (hmine e he).1
          rw [Function.update_self, hall, read_append_of_some hread, hentry ph hph]
          exact ⟨ph', hread', hstand'⟩
        · have hnone : new.filter (own j) = [] := by
            refine List.filter_eq_nil_iff.mpr fun e he => ?_
            rw [(hmine e he).2 j hj]
            exact Bool.false_ne_true
          rw [Function.update_of_ne hj, hnone, List.append_nil]
          exact ⟨ph, hread, hph⟩

end Machines

end AegisOs.Lib.Trail
