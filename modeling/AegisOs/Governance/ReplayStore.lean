/-
# `AegisOs.Governance.ReplayStore` — which proof identifiers have been used

The two stores of `replay_store.py`.  Both keep, per identifier, the instant
its registration lapses, so both are tables of `Lib.Ttl`.  They differ in who
drops a lapsed entry: the in-memory store purges its dictionary at the start
of every call, Redis drops the key itself, exactly `ttl` seconds after the
`SET`.  The difference is invisible to a caller: `register_cases` gives the
same answer for both, in terms of `live`.

Redis refuses an expiry that is not positive, so `register_if_unused` can
raise on that store.
-/
import AegisOs.Basic
import AegisOs.Lib.Ttl

namespace AegisOs

open Lib

/-- `InMemoryDPoPReplayStore` with its `_entries`, or `RedisDPoPReplayStore` with its namespace and
the keys the server holds. -/
inductive ReplayStore where
  | in_memory (entries : String → Option ℚ)
  | redis (ns : String) (keys : String → Option ℚ)

namespace ReplayStore

/-- The key a store keeps an identifier under. -/
def key : ReplayStore → String → String
  | .in_memory _, jti => jti
  | .redis ns _, jti => ns ++ ":" ++ jti

/-- The table behind the store. -/
def table : ReplayStore → String → Option ℚ
  | .in_memory entries => entries
  | .redis _ keys => keys

/-- `register_if_unused`, at the reading `now` of the clock. -/
def register_if_unused (st : ReplayStore) (now : ℚ) (jti : String) (ttl_seconds : ℤ) :
    Except Exc (Bool × ReplayStore) :=
  match st with
  | .in_memory entries =>
      let entries := Ttl.purge now entries
      if (entries jti).isSome then .ok (false, .in_memory entries)
      else .ok (true, .in_memory (Ttl.insert jti (now + ttl_seconds) entries))
  | .redis ns keys =>
      -- SET key "1" EX ttl NX
      let key := ns ++ ":" ++ jti
      if ttl_seconds ≤ 0 then .error ⟨.other "ResponseError", "invalid expire time in 'set' command"⟩
      else if (Ttl.purge now keys key).isSome then .ok (false, .redis ns (Ttl.purge now keys))
      else .ok (true, .redis ns (Ttl.insert key (now + ttl_seconds) (Ttl.purge now keys)))

/-- When the registration of `jti` lapses, if it is still in force at `now`. -/
def live (st : ReplayStore) (now : ℚ) (jti : String) : Option ℚ :=
  Ttl.purge now st.table (st.key jti)

theorem live_eq_none_of_le {st : ReplayStore} {jti : String} {now t : ℚ} (h : now ≤ t)
    (hn : st.live now jti = none) : st.live t jti = none := by
  unfold live at *
  rw [Ttl.purge_eq_none] at *
  exact fun e he => le_trans (hn e he) h

theorem key_injective (st : ReplayStore) {a b : String} (h : st.key a = st.key b) : a = b := by
  cases st with
  | in_memory _ => exact h
  | redis ns _ =>
      have h' : (ns ++ ":" ++ a).toList = (ns ++ ":" ++ b).toList := congrArg String.toList h
      simp only [String.toList_append] at h'
      exact String.toList_injective (List.append_cancel_left h')

/-- A registration either finds the identifier live and changes nothing a later reader can see, or
finds it unused and makes it live for `ttl_seconds`. -/
theorem register_cases {st st' : ReplayStore} {now : ℚ} {jti : String} {ttl : ℤ} {b : Bool}
    (h : st.register_if_unused now jti ttl = .ok (b, st')) :
    (b = false ∧ (st.live now jti).isSome ∧ ∀ t, now ≤ t → ∀ j, st'.live t j = st.live t j) ∨
    (b = true ∧ st.live now jti = none ∧
      (∀ t, now ≤ t → st'.live t jti = (some (now + ttl)).filter (fun e => decide (t < e))) ∧
      ∀ t, now ≤ t → ∀ j, j ≠ jti → st'.live t j = st.live t j) := by
  cases st with
  | in_memory entries =>
      simp only [register_if_unused] at h
      split at h
      · rename_i hs
        simp only [Except.ok.injEq, Prod.mk.injEq] at h
        obtain ⟨rfl, rfl⟩ := h
        exact .inl ⟨rfl, hs, fun t ht j => by simp [live, table, key, Ttl.purge_purge ht]⟩
      · rename_i hs
        simp only [Except.ok.injEq, Prod.mk.injEq] at h
        obtain ⟨rfl, rfl⟩ := h
        refine .inr ⟨rfl, Option.not_isSome_iff_eq_none.mp hs, ?_, ?_⟩
        · intro t ht
          exact Ttl.Tracks.insert_self jti _ now _ t ht
        · intro t ht j hj
          have := congrFun (Ttl.purge_purge ht entries) j
          simpa [live, table, key, Ttl.purge, hj] using this
  | redis ns keys =>
      simp only [register_if_unused] at h
      split at h
      · simp at h
      · split at h
        · rename_i hs
          simp only [Except.ok.injEq, Prod.mk.injEq] at h
          obtain ⟨rfl, rfl⟩ := h
          exact .inl ⟨rfl, hs, fun t ht j => by simp [live, table, key, Ttl.purge_purge ht]⟩
        · rename_i hs
          simp only [Except.ok.injEq, Prod.mk.injEq] at h
          obtain ⟨rfl, rfl⟩ := h
          refine .inr ⟨rfl, Option.not_isSome_iff_eq_none.mp hs, ?_, ?_⟩
          · intro t ht
            exact Ttl.Tracks.insert_self _ _ now _ t ht
          · intro t ht j hj
            have hk : ns ++ ":" ++ j ≠ ns ++ ":" ++ jti :=
              fun e => hj (key_injective (.redis ns keys) e)
            have := congrFun (Ttl.purge_purge ht keys) (ns ++ ":" ++ j)
            simpa [live, table, key, Ttl.purge, hk] using this

/-- Only the Redis store refuses, and only an expiry that is not positive. -/
theorem register_error {st : ReplayStore} {now : ℚ} {jti : String} {ttl : ℤ} {e : Exc}
    (h : st.register_if_unused now jti ttl = .error e) :
    ttl ≤ 0 ∧ e.kind = .other "ResponseError" := by
  cases st with
  | in_memory entries =>
      simp only [register_if_unused] at h
      split at h <;> simp at h
  | redis ns keys =>
      simp only [register_if_unused] at h
      split at h
      · rename_i hle
        simp only [Except.error.injEq] at h
        exact ⟨hle, by rw [← h]⟩
      · split at h <;> simp at h

end ReplayStore

end AegisOs
