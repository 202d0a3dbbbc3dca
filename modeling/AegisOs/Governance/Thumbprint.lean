/-
# `AegisOs.Governance.Thumbprint` — what a thumbprint says about a key

A thumbprint is the digest of a JSON text of the required members.  Every step
from the members to it can be undone:

    a character      its escape, read back by `read_char`
    a string         the escapes between the quotes        (`separable_json_string`)
    an object        its members in the order of the keys  (`json_dumps_injective`)
    a digest         its base64 text                       (`b64url_encode_injective`)

so that, short of a collision of the digest, thumbprints agree exactly when
the required members do (`thumbprint_identifies_key`).  The key that a proof is
verified under is built from the same members and nothing else
(`public_pem_of_required`).
-/
import AegisOs.Lib.Code
import AegisOs.Governance.Base64
import Mathlib.Data.List.Nodup
import Mathlib.Logic.Equiv.Basic

namespace AegisOs

open Lib.Code Lib.EState

/-! ## Reading an escape -/

/-- The value of a hexadecimal digit. -/
def hex_value (c : Char) : ℕ :=
  if '0' ≤ c ∧ c ≤ '9' then c.toNat - 48 else c.toNat - 87

/-- What a letter after a backslash stands for. -/
def short_escape : List (Char × ℕ) :=
  [('"', 34), ('\\', 92), ('n', 10), ('r', 13), ('t', 9), ('f', 12), ('b', 8)]

/-- Read one UTF-16 code unit of a JSON string. -/
def read_unit : List Char → Option (ℕ × List Char)
  | '\\' :: 'u' :: a :: b :: c :: d :: rest =>
      some (hex_value a * 4096 + hex_value b * 256 + hex_value c * 16 + hex_value d, rest)
  | '\\' :: c :: rest => (short_escape.lookup c).map fun u => (u, rest)
  | c :: rest => some (c.toNat, rest)
  | [] => none

/-- Read one character, which may take two units. -/
def read_char (text : List Char) : Option (Char × List Char) := do
  let (u, rest) ← read_unit text
  if 55296 ≤ u ∧ u < 56320 then
    let (v, rest) ← read_unit rest
    some (Char.ofNat (65536 + (u - 55296) * 1024 + (v - 56320)), rest)
  else some (Char.ofNat u, rest)

theorem hex_value_digitChar : ∀ n < 16, hex_value (Nat.digitChar n) = n := by decide

theorem read_unit_hex4 {n : ℕ} (hn : n < 65536) (rest : List Char) :
    read_unit (['\\', 'u'] ++ hex4 n ++ rest) = some (n, rest) := by
  have hdigit : ∀ k, hex_value (Nat.digitChar (k % 16)) = k % 16 := fun k =>
    hex_value_digitChar _ (Nat.mod_lt _ (by decide))
  simp only [hex4, List.map_cons, List.map_nil, List.cons_append, List.nil_append, read_unit,
    hdigit]
  congr 2
  omega

theorem read_unit_literal {c : Char} (hc : c ≠ '\\') (rest : List Char) :
    read_unit (c :: rest) = some (c.toNat, rest) := by
  unfold read_unit
  split
  · rename_i heq
    exact absurd (List.cons.inj heq).1 hc
  · rename_i heq
    exact absurd (List.cons.inj heq).1 hc
  · rename_i heq
    obtain ⟨rfl, rfl⟩ := List.cons.inj heq
    rfl
  · rename_i heq
    cases heq

/-- No character is a surrogate. -/
theorem toNat_not_surrogate (c : Char) : c.toNat < 55296 ∨ (57343 < c.toNat ∧ c.toNat < 1114112) :=
  c.valid

theorem read_char_of_unit {text rest : List Char} {c : Char}
    (h : read_unit text = some (c.toNat, rest)) : read_char text = some (c, rest) := by
  have hno : ¬(55296 ≤ c.toNat ∧ c.toNat < 56320) := by
    have := toNat_not_surrogate c
    omega
  simp [read_char, h, hno, Char.ofNat_toNat]

theorem read_char_of_pair {text mid rest : List Char} {u v : ℕ} (hu : read_unit text = some (u, mid))
    (hv : read_unit mid = some (v, rest)) (hhigh : 55296 ≤ u ∧ u < 56320) :
    read_char text = some (Char.ofNat (65536 + (u - 55296) * 1024 + (v - 56320)), rest) := by
  simp [read_char, hu, hv, hhigh]

/-- **An escape is read back**, whatever follows. -/
theorem read_char_json_escape (c : Char) (rest : List Char) :
    read_char (json_escape c ++ rest) = some (c, rest) := by
  have hvalid := toNat_not_surrogate c
  unfold json_escape
  split_ifs with h₁ h₂ h₃ h₄ h₅ h₆ h₇ h₈ h₉
  · exact read_char_of_unit (by rw [h₁]; rfl)
  · exact read_char_of_unit (by rw [h₂]; rfl)
  · exact read_char_of_unit (by rw [h₃]; rfl)
  · exact read_char_of_unit (by rw [h₄]; rfl)
  · exact read_char_of_unit (by rw [h₅]; rfl)
  · exact read_char_of_unit (by rw [h₆]; rfl)
  · exact read_char_of_unit (by rw [h₇]; rfl)
  · exact read_char_of_unit (read_unit_literal h₂ rest)
  · exact read_char_of_unit (read_unit_hex4 h₉ rest)
  · -- two units, a high and a low surrogate
    obtain ⟨u, hu⟩ : ∃ u, u = 55296 + (c.toNat - 65536) / 1024 := ⟨_, rfl⟩
    obtain ⟨v, hv⟩ : ∃ v, v = 56320 + (c.toNat - 65536) % 1024 := ⟨_, rfl⟩
    rw [← hu, ← hv, List.append_assoc, List.append_assoc _ ['\\', 'u'], ← List.append_assoc ['\\', 'u']]
    have hfirst := read_unit_hex4 (by omega : u < 65536) (['\\', 'u'] ++ hex4 v ++ rest)
    have hsecond := read_unit_hex4 (by omega : v < 65536) rest
    have hback : 65536 + (u - 55296) * 1024 + (v - 56320) = c.toNat := by omega
    rw [read_char_of_pair hfirst hsecond (by omega), hback, Char.ofNat_toNat]

/-! ## The text of an object -/

theorem separable_json_escape : Separable Set.univ json_escape :=
  separable_of_read read_char fun c _ rest => read_char_json_escape c rest

/-- No escape begins with a quote. -/
theorem spares_quote : Spares '"' Set.univ json_escape := by
  intro c _
  unfold json_escape
  split_ifs with h₁ h₂ h₃ h₄ h₅ h₆ h₇ h₈ h₉
  any_goals exact ⟨'\\', _, rfl, by decide⟩
  exact ⟨c, [], rfl, h₁⟩

theorem separable_json_string : Separable Set.univ json_string := by
  have h := (separable_json_escape.flatMap spares_quote).cons '"'
  intro s _ t _ r r' heq
  obtain ⟨hchars, hrest⟩ := h (fun c _ => Set.mem_univ c) (fun c _ => Set.mem_univ c) heq
  exact ⟨String.toList_inj.mp hchars, hrest⟩

/-- One member, name and value. -/
theorem separable_member : Separable Set.univ
    (fun kv : String × String => json_string kv.1 ++ [':'] ++ json_string kv.2) := by
  have h := separable_json_string.pair (separable_json_string.cons ':')
  intro a _ b _ r r' heq
  exact h (a := a) ⟨Set.mem_univ _, Set.mem_univ _⟩ (b := b) ⟨Set.mem_univ _, Set.mem_univ _⟩
    (by simpa using heq)

/-- **The canonical text determines the members**, in the order of their names. -/
theorem json_dumps_injective {fields fields' : List (String × String)}
    (h : json_dumps fields = json_dumps fields') :
    fields.mergeSort (fun a b => decide (a.1 ≤ b.1)) =
      fields'.mergeSort (fun a b => decide (a.1 ≤ b.1)) := by
  have hspares : Spares '\x7d' Set.univ
      (fun kv : String × String => json_string kv.1 ++ [':'] ++ json_string kv.2) :=
    fun kv _ => ⟨'"', _, rfl, by decide⟩
  have hsep := separable_member.intercalate (by decide : ',' ≠ '\x7d') hspares
  have htext := String.ofList_injective h
  simp only [List.cons_append, List.nil_append, List.cons.injEq, true_and] at htext
  exact hsep.injOn (fun _ _ => Set.mem_univ _) (fun _ _ => Set.mem_univ _) htext

/-! ## The digest -/

theorem toList_loop (bs : ByteArray) (i : ℕ) (r : List UInt8) :
    ByteArray.toList.loop bs i r = r.reverse ++ bs.data.toList.drop i := by
  fun_induction ByteArray.toList.loop bs i r with
  | case1 i r h ih =>
      have hi : i < bs.data.toList.length := h
      have hget : bs.get! i = bs.data.toList[i] := by
        show bs.data[i]! = _
        rw [getElem!_pos bs.data i h]
        rfl
      rw [ih, List.drop_eq_getElem_cons hi, hget]
      simp
  | case2 i r h =>
      have hi : bs.data.toList.length ≤ i := Nat.le_of_not_lt h
      rw [List.drop_eq_nil_of_le hi, List.append_nil]

theorem toUTF8_toList_injective : Function.Injective fun text : String => text.toUTF8.toList := by
  intro s t h
  simp only [ByteArray.toList, toList_loop, List.reverse_nil, List.nil_append, List.drop_zero] at h
  exact String.toByteArray_inj.mp (ByteArray.ext (Array.toList_inj.mp h))

/-- The digest tells texts apart as far as the hash function does. -/
theorem digest_injective {cr : Crypto} (hsha : Function.Injective cr.sha256) :
    Function.Injective cr.digest := by
  intro s t h
  exact toUTF8_toList_injective (hsha (b64url_encode_injective h))

/-! ## Keys -/

/-- Two JWKs have the same type and, for that type, the same required members. -/
structure SameKey (jwk jwk' : Jwk) : Prop where
  kty : jwk.lookup "kty" = jwk'.lookup "kty"
  ec : jwk.lookup "kty" = some "EC" → ∀ name ∈ ["crv", "x", "y"], jwk.lookup name = jwk'.lookup name
  rsa : jwk.lookup "kty" = some "RSA" → ∀ name ∈ ["e", "n"], jwk.lookup name = jwk'.lookup name

section
variable {jwk jwk' fields fields' : Jwk} {cr : Crypto}

theorem item_eq_ok {name v : String} : jwk.item name = .ok v ↔ jwk.lookup name = some v := by
  unfold Jwk.item
  cases jwk.lookup name <;> simp

/-- The two kinds of key, with their required members. -/
theorem required_jwk_fields_eq_ok : required_jwk_fields jwk = .ok fields ↔
    (jwk.lookup "kty" = some "EC" ∧ ∃ crv x y, jwk.lookup "crv" = some crv ∧
      jwk.lookup "x" = some x ∧ jwk.lookup "y" = some y ∧
        fields = [("crv", crv), ("kty", "EC"), ("x", x), ("y", y)]) ∨
    (jwk.lookup "kty" = some "RSA" ∧ ∃ e n, jwk.lookup "e" = some e ∧ jwk.lookup "n" = some n ∧
      fields = [("e", e), ("kty", "RSA"), ("n", n)]) := by
  unfold required_jwk_fields
  by_cases hec : jwk.lookup "kty" = some "EC"
  · rw [if_pos hec]
    simp only [except_bind_eq_ok_iff, item_eq_ok, hec, pure, Except.pure, Except.ok.injEq]
    simp [eq_comm]
  · rw [if_neg hec]
    by_cases hrsa : jwk.lookup "kty" = some "RSA"
    · rw [if_pos hrsa]
      simp only [except_bind_eq_ok_iff, item_eq_ok, hrsa, pure, Except.pure, Except.ok.injEq]
      simp [eq_comm]
    · simp [hec, hrsa]

/-- The required members are listed in the order of their names. -/
theorem sorted_of_required (h : required_jwk_fields jwk = .ok fields) :
    fields.mergeSort (fun a b => decide (a.1 ≤ b.1)) = fields := by
  have hec : "crv" ≤ "kty" ∧ "crv" ≤ "x" ∧ "crv" ≤ "y" ∧ "kty" ≤ "x" ∧ "kty" ≤ "y" ∧ "x" ≤ "y" := by
    decide +kernel
  have hrsa : "e" ≤ "kty" ∧ "e" ≤ "n" ∧ "kty" ≤ "n" := by decide +kernel
  refine List.mergeSort_of_pairwise ?_
  obtain ⟨-, crv, x, y, -, -, -, rfl⟩ | ⟨-, e, n, -, -, rfl⟩ := required_jwk_fields_eq_ok.mp h
  · simp [hec]
  · simp [hrsa]

/-- The required members alone make the same key. -/
theorem public_pem_of_required (h : required_jwk_fields jwk = .ok fields) :
    public_pem_from_jwk cr fields = public_pem_from_jwk cr jwk := by
  obtain ⟨hkty, crv, x, y, hcrv, hx, hy, rfl⟩ | ⟨hkty, e, n, he, hn, rfl⟩ :=
    required_jwk_fields_eq_ok.mp h
  · simp [public_pem_from_jwk, Jwk.item, List.lookup_cons, hkty, hcrv, hx, hy]
  · simp [public_pem_from_jwk, Jwk.item, List.lookup_cons, hkty, he, hn]

theorem required_jwk_fields_eq_iff (h : required_jwk_fields jwk = .ok fields)
    (h' : required_jwk_fields jwk' = .ok fields') : fields = fields' ↔ SameKey jwk jwk' := by
  constructor
  · -- the members can be looked up in the list they were put in
    rintro rfl
    obtain ⟨hkty, crv, x, y, hcrv, hx, hy, rfl⟩ | ⟨hkty, e, n, he, hn, rfl⟩ :=
      required_jwk_fields_eq_ok.mp h
    · obtain ⟨hkty', crv', x', y', hcrv', hx', hy', heq⟩ | ⟨-, _, _, -, -, heq⟩ :=
        required_jwk_fields_eq_ok.mp h'
      · simp only [List.cons.injEq, Prod.mk.injEq, true_and, and_true] at heq
        obtain ⟨rfl, rfl, rfl⟩ := heq
        exact ⟨by rw [hkty, hkty'], by simp [hcrv, hx, hy, hcrv', hx', hy'], by simp [hkty]⟩
      · simp at heq
    · obtain ⟨-, _, _, _, -, -, -, heq⟩ | ⟨hkty', e', n', he', hn', heq⟩ :=
        required_jwk_fields_eq_ok.mp h'
      · simp at heq
      · simp only [List.cons.injEq, Prod.mk.injEq, true_and, and_true] at heq
        obtain ⟨rfl, rfl⟩ := heq
        exact ⟨by rw [hkty, hkty'], by simp [hkty], by simp [he, hn, he', hn']⟩
  · rintro ⟨hkty, hec, hrsa⟩
    suffices hsame : required_jwk_fields jwk = required_jwk_fields jwk' by
      rw [h, h'] at hsame
      exact Except.ok.inj hsame
    unfold required_jwk_fields unsupported_key_type Jwk.item
    rw [← hkty]
    by_cases hk : jwk.lookup "kty" = some "EC"
    · rw [if_pos hk, if_pos hk, hec hk "crv" (by decide), hec hk "x" (by decide),
        hec hk "y" (by decide)]
    · rw [if_neg hk, if_neg hk]
      by_cases hk' : jwk.lookup "kty" = some "RSA"
      · rw [if_pos hk', if_pos hk', hrsa hk' "e" (by decide), hrsa hk' "n" (by decide)]
      · rw [if_neg hk', if_neg hk']

theorem thumbprint_eq_ok {jkt : String} : public_jwk_thumbprint cr jwk = .ok jkt ↔
    ∃ fields, required_jwk_fields jwk = .ok fields ∧ cr.digest (json_dumps fields) = jkt := by
  simp only [public_jwk_thumbprint, except_bind_eq_ok_iff, pure, Except.pure, Except.ok.injEq]

/-- **A thumbprint identifies the key**: it is that of another JWK exactly when the required members
agree, and then both make the same key for verification, or fail alike. -/
theorem thumbprint_identifies_key (hsha : Function.Injective cr.sha256) {jkt jkt' : String}
    (h : public_jwk_thumbprint cr jwk = .ok jkt) (h' : public_jwk_thumbprint cr jwk' = .ok jkt') :
    (jkt = jkt' ↔ SameKey jwk jwk') ∧
      (jkt = jkt' → public_pem_from_jwk cr jwk = public_pem_from_jwk cr jwk') := by
  obtain ⟨fields, hf, rfl⟩ := thumbprint_eq_ok.mp h
  obtain ⟨fields', hf', rfl⟩ := thumbprint_eq_ok.mp h'
  have hfields : cr.digest (json_dumps fields) = cr.digest (json_dumps fields') ↔ fields = fields' := by
    constructor
    · intro heq
      have hsorted := json_dumps_injective (digest_injective hsha heq)
      rwa [sorted_of_required hf, sorted_of_required hf'] at hsorted
    · rintro rfl
      rfl
  refine ⟨hfields.trans (required_jwk_fields_eq_iff hf hf'), ?_⟩
  intro heq
  rw [← public_pem_of_required hf, ← public_pem_of_required hf', hfields.mp heq]

end

/-- A hash function that exchanges one text and its SHA-256 digest. -/
def sample_crypto : Crypto where
  sha256 := Equiv.swap "\x7b\"e\":\"AQAB\",\"kty\":\"RSA\",\"n\":\"sXchDaQ\"\x7d".toUTF8.toList
    [12, 26, 11, 111, 41, 244, 91, 163, 56, 80, 118, 139, 160, 188, 13, 134, 184, 184, 187, 87,
     76, 157, 31, 83, 200, 168, 8, 70, 57, 209, 56, 136]
  ec_public_pem := fun _ _ _ => none
  rsa_public_pem := fun _ _ => none
  public_of_private := fun _ => none

/-- One RSA key, its members in another order and with a key id. -/
theorem thumbprint_of_reordered : ∃ jkt,
    public_jwk_thumbprint sample_crypto [("kty", "RSA"), ("n", "sXchDaQ"), ("e", "AQAB")] = .ok jkt ∧
    public_jwk_thumbprint sample_crypto
      [("e", "AQAB"), ("kid", "k1"), ("n", "sXchDaQ"), ("kty", "RSA")] = .ok jkt ∧
    SameKey [("kty", "RSA"), ("n", "sXchDaQ"), ("e", "AQAB")]
      [("e", "AQAB"), ("kid", "k1"), ("n", "sXchDaQ"), ("kty", "RSA")] := by
  have hsha : Function.Injective sample_crypto.sha256 := Equiv.injective _
  exact ⟨_, rfl, rfl, (thumbprint_identifies_key hsha rfl rfl).1.mp rfl⟩

end AegisOs
