/-
# `AegisOs.ControlPlane.DataConverter` — the payload codec

`EncryptedPayloadCodec` of `data_converter.py`.  `encode` replaces the data of
a payload by its encryption and the metadata by two entries of its own: the
label that marks an encrypted payload, and the encoding the payload had.
`decode` undoes this from those two entries.

Fernet is a parameter.  An encryption draws a nonce and reads the clock, so
the `n`-th encryption is one of a sequence; a token that does not authenticate
decrypts to nothing.

Of the metadata only the encoding survives a round trip, and a payload that
has none comes back with one: `decode_encode_iff`.
-/
import AegisOs.Governance.Jwk
import Mathlib.Data.Finmap

namespace AegisOs.EncryptedPayloadCodec

/-- A `bytes` literal. -/
def ascii (s : String) : Bytes := s.toList.map fun c => UInt8.ofNat c.toNat

/-- `temporalio.api.common.v1.Payload`; the metadata is a protobuf `map<string, bytes>`. -/
structure Payload where
  metadata : Finmap fun _ : String => Bytes
  data : Bytes

/-- `Fernet(key)`. -/
structure Fernet where
  encrypt : ℕ → Bytes → Bytes
  decrypt : Bytes → Option Bytes

/-- What was encrypted is decrypted. -/
def Fernet.Lawful (F : Fernet) : Prop := ∀ n data, F.decrypt (F.encrypt n data) = some data

/-- `_ENCRYPTED_ENCODING`. -/
def ENCRYPTED_ENCODING : Bytes := ascii "binary/aegis-encrypted"

/-- `_ORIGINAL_ENCODING_KEY`. -/
def ORIGINAL_ENCODING_KEY : String := "aegis/original-encoding"

/-- The default of both lookups. -/
def json_plain : Bytes := ascii "json/plain"

/-- The payload carries the label. -/
def encrypted (p : Payload) : Prop := p.metadata.lookup "encoding" = some ENCRYPTED_ENCODING

instance (p : Payload) : Decidable (encrypted p) := inferInstanceAs (Decidable (_ = _))

section
variable (F : Fernet)

/-- The body of the loop of `encode`. -/
def encode_payload (n : ℕ) (p : Payload) : Payload :=
  if encrypted p then p
  else
    { metadata := (Finmap.singleton "encoding" ENCRYPTED_ENCODING).insert ORIGINAL_ENCODING_KEY
        ((p.metadata.lookup "encoding").getD json_plain)
      data := F.encrypt n p.data }

/-- `encode`, where `n` encryptions have been made before. -/
def encode : ℕ → List Payload → List Payload
  | _, [] => []
  | n, p :: payloads => encode_payload F n p :: encode (n + 1) payloads

/-- The body of the loop of `decode`. -/
def decode_payload (p : Payload) : Except Exc Payload :=
  if ¬encrypted p then .ok p
  else
    match F.decrypt p.data with
    | none => .error ⟨.other "DataConverterError",
        "Failed to decrypt Temporal payload: key mismatch or corrupted data. Verify AEGIS_TEMPORAL_ENCRYPTION_KEY is consistent across all workers."⟩
    | some decrypted_data => .ok
        { metadata := Finmap.singleton "encoding"
            ((p.metadata.lookup ORIGINAL_ENCODING_KEY).getD json_plain)
          data := decrypted_data }

/-- `decode`. -/
def decode (payloads : List Payload) : Except Exc (List Payload) := payloads.mapM (decode_payload F)

end

/-! ## The round trip -/

/-- What comes back: the data, and the encoding alone. -/
def restored (p : Payload) : Payload where
  metadata := Finmap.singleton "encoding" ((p.metadata.lookup "encoding").getD json_plain)
  data := p.data

section
variable {F : Fernet} (hF : F.Lawful)
include hF

theorem decode_encode_payload (n : ℕ) {p : Payload} (hp : ¬encrypted p) :
    decode_payload F (encode_payload F n p) = .ok (restored p) := by
  unfold encode_payload
  rw [if_neg hp]
  generalize hm : (p.metadata.lookup "encoding").getD json_plain = original_encoding
  have hne : "encoding" ≠ ORIGINAL_ENCODING_KEY := by decide
  unfold decode_payload
  rw [if_neg]
  · dsimp only
    rw [hF n p.data, Finmap.lookup_insert]
    simp [restored, hm]
  · refine not_not.mpr ?_
    unfold encrypted
    dsimp only
    rw [Finmap.lookup_insert_of_ne _ hne, Finmap.lookup_singleton_eq]

theorem decode_encode (payloads : List Payload) (hp : ∀ p ∈ payloads, ¬encrypted p) (n : ℕ) :
    decode F (encode F n payloads) = .ok (payloads.map restored) := by
  induction payloads generalizing n with
  | nil => rfl
  | cons p payloads ih =>
      have hfirst := decode_encode_payload hF n (hp p List.mem_cons_self)
      have hrest : (encode F (n + 1) payloads).mapM (decode_payload F) = .ok (payloads.map restored) :=
        ih (fun q hq => hp q (List.mem_cons_of_mem p hq)) (n + 1)
      show (encode_payload F n p :: encode F (n + 1) payloads).mapM (decode_payload F) = _
      rw [List.mapM_cons, hfirst, hrest]
      rfl

end

theorem restored_eq_self_iff (p : Payload) : restored p = p ↔ p.metadata.keys = {"encoding"} := by
  obtain ⟨metadata, data⟩ := p
  constructor
  · intro h
    have hm : Finmap.singleton "encoding" ((metadata.lookup "encoding").getD json_plain) = metadata :=
      congrArg Payload.metadata h
    rw [← hm]
    exact Finmap.keys_singleton _ _
  · intro hkeys
    have hkey : ∀ key, key ∈ metadata ↔ key = "encoding" := by
      intro key
      rw [← Finmap.mem_keys, hkeys, Finset.mem_singleton]
    obtain ⟨encoding, hencoding⟩ := Finmap.mem_iff.mp ((hkey "encoding").mpr rfl)
    have hm : Finmap.singleton "encoding" encoding = metadata := by
      refine Finmap.ext_lookup fun key => ?_
      by_cases hk : key = "encoding"
      · rw [hk, Finmap.lookup_singleton_eq, hencoding]
      · rw [Finmap.lookup_eq_none.mpr (mt (hkey key).mp hk), Finmap.lookup_eq_none]
        exact mt (Finmap.mem_singleton _ _ _).mp hk
    unfold restored
    simp only [hencoding, Option.getD_some, hm]

/-- **The round trip.**  Payloads that do not carry the label come back unchanged exactly when each of
them has an encoding and no other metadata. -/
theorem decode_encode_iff {F : Fernet} (hF : F.Lawful) (n : ℕ) {payloads : List Payload}
    (hp : ∀ p ∈ payloads, ¬encrypted p) :
    decode F (encode F n payloads) = .ok payloads ↔
      ∀ p ∈ payloads, p.metadata.keys = {"encoding"} := by
  rw [decode_encode hF payloads hp n]
  constructor
  · intro h p hmem
    have hmap : payloads.map restored = payloads.map id := by
      rw [List.map_id]
      exact Except.ok.inj h
    exact (restored_eq_self_iff p).mp (List.map_inj_left.mp hmap p hmem)
  · intro h
    have hmap : payloads.map restored = payloads.map id :=
      List.map_inj_left.mpr fun p hmem => (restored_eq_self_iff p).mpr (h p hmem)
    rw [hmap, List.map_id]

/-! ### Two payloads -/

/-- A cipher that only marks what it has encrypted with the version byte of a token. -/
def markFernet : Fernet where
  encrypt := fun _ data => 0x80 :: data
  decrypt := fun
    | 0x80 :: data => some data
    | _ => none

theorem markFernet_lawful : markFernet.Lawful := fun _ _ => rfl

/-- What the converter of JSON makes of a text. -/
def jsonPayload : Payload where
  metadata := Finmap.singleton "encoding" (ascii "json/plain")
  data := ascii "\"hello\""

/-- What the converter of protobuf messages makes of a message: its type is an entry too. -/
def protobufPayload : Payload where
  metadata := (Finmap.singleton "encoding" (ascii "json/protobuf")).insert "messageType"
    (ascii "google.protobuf.StringValue")
  data := ascii "\"hello\""

theorem jsonPayload_returns : decode markFernet (encode markFernet 0 [jsonPayload]) = .ok [jsonPayload] := by
  refine (decode_encode_iff markFernet_lawful 0 ?_).mpr ?_
  · intro p hmem
    rw [List.mem_singleton.mp hmem]
    decide
  · intro p hmem
    rw [List.mem_singleton.mp hmem]
    exact Finmap.keys_singleton _ _

/-- The type of the message does not come back. -/
theorem message_type_lost : ¬encrypted protobufPayload ∧
    decode markFernet (encode markFernet 0 [protobufPayload]) ≠ .ok [protobufPayload] := by
  have hplain : ¬encrypted protobufPayload := by
    unfold encrypted protobufPayload
    rw [Finmap.lookup_insert_of_ne _ (by decide), Finmap.lookup_singleton_eq]
    decide
  refine ⟨hplain, ?_⟩
  rw [decode_encode markFernet_lawful _ (by simpa using hplain) 0]
  intro h
  have hkeys := (restored_eq_self_iff protobufPayload).mp (List.singleton_injective (Except.ok.inj h))
  have hmem : "messageType" ∈ protobufPayload.metadata :=
    Finmap.mem_of_lookup_eq_some (Finmap.lookup_insert _)
  rw [← Finmap.mem_keys, hkeys] at hmem
  exact absurd hmem (by decide)

end AegisOs.EncryptedPayloadCodec
