/-
# `AegisOs.Governance.Base64` — base64 is read back

`_b64url_encode` and `_b64url_decode` of `session_mgr.py`.  A byte string is
its groups of six bits (`sextets`), each written as a character of the
alphabet; the padding behind them is all that `rstrip` takes off
(`b64url_encode_eq`), and it depends on their number only, so that the decoder
can put it back.

The decoder is followed quad by quad: four characters in the middle of a text
(`a2b_loop_quad`), two or three with the recomputed padding at its end.
-/
import AegisOs.Governance.Jwk
import Mathlib.Data.List.Nodup

namespace AegisOs

/-! ## The alphabet -/

theorem b64_char_eq {n : ℕ} (hn : n < b64_alphabet.length) : b64_char n = b64_alphabet[n] := by
  simp [b64_char, List.getD, hn]

theorem length_b64_alphabet : b64_alphabet.length = 64 := by decide

theorem nodup_b64_alphabet : b64_alphabet.Nodup := by decide +kernel

theorem b64_char_mem {n : ℕ} (hn : n < 64) : b64_char n ∈ b64_alphabet := by
  have hn' : n < b64_alphabet.length := length_b64_alphabet ▸ hn
  rw [b64_char_eq hn']
  exact List.getElem_mem hn'

/-- The alphabet is ASCII; it has neither the padding nor the characters that it renames. -/
theorem b64_char_clean {n : ℕ} (hn : n < 64) : b64_char n ≠ '=' ∧ b64_char n ≠ '+' ∧
    b64_char n ≠ '/' ∧ (b64_char n).toNat ≤ 127 := by
  have hall : b64_alphabet.all
      (fun c => decide (c ≠ '=' ∧ c ≠ '+' ∧ c ≠ '/' ∧ c.toNat ≤ 127)) = true := by decide +kernel
  exact of_decide_eq_true (List.all_eq_true.mp hall _ (b64_char_mem hn))

theorem b64_char_ne_pad {n : ℕ} (hn : n < 64) : b64_char n ≠ '=' := (b64_char_clean hn).1

/-- A character of the alphabet is read as its place there. -/
theorem b64_value_char {n : ℕ} (hn : n < 64) : b64_value (b64_char n) = some n := by
  obtain ⟨-, hplus, hslash, -⟩ := b64_char_clean hn
  have hn' : n < b64_alphabet.length := length_b64_alphabet ▸ hn
  rw [b64_value, if_neg hplus, if_neg hslash, List.idxOf?_eq_some_iff]
  refine ⟨hn', (b64_char_eq hn').symm, fun j hj heq => ?_⟩
  rw [b64_char_eq hn'] at heq
  exact hj.ne ((List.Nodup.getElem_inj_iff nodup_b64_alphabet).mp heq)

/-! ## Encoding -/

/-- The six-bit groups of a byte string, the last one filled up with zeros. -/
def sextets : Bytes → List ℕ
  | [] => []
  | [a] => [a.toNat / 4, a.toNat % 4 * 16]
  | [a, b] => [a.toNat / 4, a.toNat % 4 * 16 + b.toNat / 16, b.toNat % 16 * 4]
  | a :: b :: c :: rest =>
      a.toNat / 4 :: (a.toNat % 4 * 16 + b.toNat / 16) :: (b.toNat % 16 * 4 + c.toNat / 64) ::
        (c.toNat % 64) :: sextets rest

theorem sextets_lt : ∀ (bs : Bytes), ∀ n ∈ sextets bs, n < 64
  | [] => by simp [sextets]
  | [a] => by
      have := a.toNat_lt
      simp only [sextets, List.mem_cons, List.not_mem_nil, or_false]
      omega
  | [a, b] => by
      have := a.toNat_lt
      have := b.toNat_lt
      simp only [sextets, List.mem_cons, List.not_mem_nil, or_false]
      omega
  | a :: b :: c :: rest => by
      have := a.toNat_lt
      have := b.toNat_lt
      have := c.toNat_lt
      intro n hn
      simp only [sextets, List.mem_cons] at hn
      rcases hn with rfl | rfl | rfl | rfl | hn
      any_goals omega
      exact sextets_lt rest n hn

theorem urlsafe_b64encode_eq : ∀ bs : Bytes, ∃ k,
    urlsafe_b64encode bs = (sextets bs).map b64_char ++ List.replicate k '='
  | [] => ⟨0, rfl⟩
  | [_] => ⟨2, rfl⟩
  | [_, _] => ⟨1, rfl⟩
  | _ :: _ :: _ :: rest => by
      obtain ⟨k, hk⟩ := urlsafe_b64encode_eq rest
      exact ⟨k, by simp [urlsafe_b64encode, sextets, hk]⟩

/-- The padding is all that is stripped. -/
theorem b64url_encode_eq (bs : Bytes) :
    b64url_encode bs = String.ofList ((sextets bs).map b64_char) := by
  obtain ⟨k, hk⟩ := urlsafe_b64encode_eq bs
  have hclean : ∀ c ∈ ((sextets bs).map b64_char).reverse, (c == '=') = false := by
    intro c hc
    obtain ⟨n, hn, rfl⟩ := List.mem_map.mp (List.mem_reverse.mp hc)
    simpa using b64_char_ne_pad (sextets_lt bs n hn)
  have hstrip : (((sextets bs).map b64_char).reverse).dropWhile (· == '=') =
      ((sextets bs).map b64_char).reverse := by
    cases h : ((sextets bs).map b64_char).reverse with
    | nil => rfl
    | cons c cs => exact List.dropWhile_cons_of_neg (by simp [hclean c (by rw [h]; exact List.mem_cons_self)])
  unfold b64url_encode
  rw [hk, List.reverse_append, List.reverse_replicate, List.dropWhile_append_of_pos (by simp),
    hstrip, List.reverse_reverse]

/-! ## Decoding -/

section
variable {v leftchar pads : ℕ} (hv : v < 64) (rest : List Char)
include hv

/-- The loop at a character of the alphabet, by its place in the quad. -/
theorem a2b_loop_zero : a2b_loop 0 leftchar pads (b64_char v :: rest) = a2b_loop 1 v 0 rest := by
  rw [a2b_loop, b64_value_char hv]
  · rfl
  · exact b64_char_ne_pad hv

theorem a2b_loop_one : a2b_loop 1 leftchar pads (b64_char v :: rest) =
    (a2b_loop 2 (v % 16) 0 rest).map (UInt8.ofNat (leftchar * 4 + v / 16) :: ·) := by
  rw [a2b_loop, b64_value_char hv]
  · rfl
  · exact b64_char_ne_pad hv

theorem a2b_loop_two : a2b_loop 2 leftchar pads (b64_char v :: rest) =
    (a2b_loop 3 (v % 4) 0 rest).map (UInt8.ofNat (leftchar * 16 + v / 4) :: ·) := by
  rw [a2b_loop, b64_value_char hv]
  · rfl
  · exact b64_char_ne_pad hv

theorem a2b_loop_three : a2b_loop 3 leftchar pads (b64_char v :: rest) =
    (a2b_loop 0 0 0 rest).map (UInt8.ofNat (leftchar * 64 + v) :: ·) := by
  rw [a2b_loop, b64_value_char hv]
  · rfl
  · exact b64_char_ne_pad hv

end

/-- Four characters are three bytes. -/
theorem a2b_loop_quad (a b c : UInt8) (rest : List Char) :
    a2b_loop 0 0 0 ((sextets [a, b, c]).map b64_char ++ rest) =
      (a2b_loop 0 0 0 rest).map fun bs => a :: b :: c :: bs := by
  have ha := a.toNat_lt
  have hb := b.toNat_lt
  have hc := c.toNat_lt
  have hone : a.toNat / 4 * 4 + (a.toNat % 4 * 16 + b.toNat / 16) / 16 = a.toNat := by omega
  have htwo : (a.toNat % 4 * 16 + b.toNat / 16) % 16 * 16 + (b.toNat % 16 * 4 + c.toNat / 64) / 4 =
      b.toNat := by omega
  have hthree : (b.toNat % 16 * 4 + c.toNat / 64) % 4 * 64 + c.toNat % 64 = c.toNat := by omega
  simp only [sextets, List.map_cons, List.map_nil, List.cons_append, List.nil_append]
  rw [a2b_loop_zero (by omega), a2b_loop_one (by omega), a2b_loop_two (by omega),
    a2b_loop_three (by omega), hone, htwo, hthree]
  simp [Function.comp_def]

/-- The padding that `_b64url_decode` computes. -/
def padding (length : ℕ) : List Char := List.replicate ((4 - length % 4) % 4) '='

/-- **The groups of six bits and the padding computed for them are decoded to the bytes.** -/
theorem a2b_loop_sextets : ∀ bs : Bytes,
    a2b_loop 0 0 0 ((sextets bs).map b64_char ++ padding (sextets bs).length) = some bs
  | [] => rfl
  | [a] => by
      have ha := a.toNat_lt
      have hone : a.toNat / 4 * 4 + a.toNat % 4 * 16 / 16 = a.toNat := by omega
      show a2b_loop 0 0 0 (b64_char (a.toNat / 4) :: b64_char (a.toNat % 4 * 16) :: ['=', '=']) = _
      rw [a2b_loop_zero (by omega), a2b_loop_one (by omega), hone]
      simp [a2b_loop]
  | [a, b] => by
      have ha := a.toNat_lt
      have hb := b.toNat_lt
      have hone : a.toNat / 4 * 4 + (a.toNat % 4 * 16 + b.toNat / 16) / 16 = a.toNat := by omega
      have htwo : (a.toNat % 4 * 16 + b.toNat / 16) % 16 * 16 + b.toNat % 16 * 4 / 4 = b.toNat := by
        omega
      show a2b_loop 0 0 0 (b64_char (a.toNat / 4) :: b64_char (a.toNat % 4 * 16 + b.toNat / 16) ::
        b64_char (b.toNat % 16 * 4) :: ['=']) = _
      rw [a2b_loop_zero (by omega), a2b_loop_one (by omega), a2b_loop_two (by omega), hone, htwo]
      simp [a2b_loop]
  | a :: b :: c :: rest => by
      -- a whole quad leaves the padding as it is
      have hpad : padding (sextets (a :: b :: c :: rest)).length = padding (sextets rest).length := by
        simp only [sextets, List.length_cons, padding]
        congr 2
        omega
      have hsplit : sextets (a :: b :: c :: rest) = sextets [a, b, c] ++ sextets rest := rfl
      rw [hpad, hsplit, List.map_append, List.append_assoc, a2b_loop_quad, a2b_loop_sextets rest]
      rfl

theorem b64url_decode_encode (bs : Bytes) : b64url_decode (b64url_encode bs) = .ok bs := by
  have hascii : ((sextets bs).map b64_char ++ padding (sextets bs).length).any
      (fun c => decide (127 < c.toNat)) = false := by
    rw [List.any_eq_false]
    intro c hc
    obtain hc | hc := List.mem_append.mp hc
    · obtain ⟨n, hn, rfl⟩ := List.mem_map.mp hc
      simpa using (b64_char_clean (sextets_lt bs n hn)).2.2.2
    · rw [List.eq_of_mem_replicate hc]
      decide
  rw [b64url_encode_eq, b64url_decode, String.toList_ofList, String.length_ofList, List.length_map,
    ← padding]
  simp only [hascii, a2b_loop_sextets, Bool.false_eq_true, if_false]

theorem b64url_encode_injective : Function.Injective b64url_encode := by
  intro as bs h
  have hdecode := b64url_decode_encode as
  rw [h, b64url_decode_encode bs] at hdecode
  exact (Except.ok.inj hdecode).symm

end AegisOs
