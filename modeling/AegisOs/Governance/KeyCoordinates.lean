/-
# `AegisOs.Governance.KeyCoordinates` — a generated key is read back

`generate_dpop_key_pair` writes the coordinates of a P-256 key as 32 bytes in
base64 without padding; `_public_pem_from_jwk` reads them back.  Two layers:

    bytes       base64, padding stripped and put back      (`b64url_decode_encode`)
    integers    fixed-width big-endian bytes               (`int_from_bytes_to_bytes`)

What comes from the `cryptography` package is the private key: its PEM and the
coordinates of its public key.
-/
import AegisOs.Lib.FixedWidth
import AegisOs.Governance.Thumbprint
import AegisOs.Governance.Issuance

namespace AegisOs

open Lib Lib.EState

/-! ## Building the key pair -/

/-- `n.to_bytes(length, "big")`. -/
def to_bytes (n length : ℕ) : Except Exc Bytes :=
  if n < 256 ^ length then .ok (numeral 256 UInt8.ofNat length n)
  else .error ⟨.other "OverflowError", "int too big to convert"⟩

/-- `ec.generate_private_key(ec.SECP256R1())`: the PEM, and the public numbers. -/
structure PrivateKey where
  private_key_pem : String
  x : ℕ
  y : ℕ

/-- The body of `generate_dpop_key_pair`, once a key is generated. -/
def dpop_key_pair (key : PrivateKey) : Except Exc (String × Jwk) := do
  let field_size := 32
  let x ← to_bytes key.x field_size
  let y ← to_bytes key.y field_size
  return (key.private_key_pem,
    [("kty", "EC"), ("crv", "P-256"), ("x", b64url_encode x), ("y", b64url_encode y)])

/-- `int.from_bytes(_b64url_decode(jwk[name]), "big")`. -/
def Jwk.coordinate (jwk : Jwk) (name : String) : Except Exc ℕ := do
  let text ← jwk.item name
  let bs ← b64url_decode text
  return int_from_bytes bs

/-! ## Coordinates -/

theorem int_from_bytes_to_bytes {n length : ℕ} (h : n < 256 ^ length) :
    ∃ bs, to_bytes n length = .ok bs ∧ int_from_bytes bs = n := by
  have hval : ∀ d < 256, (UInt8.ofNat d).toNat = d := fun d hd => by
    rw [UInt8.toNat_ofNat', Nat.mod_eq_of_lt hd]
  exact ⟨_, if_pos h, foldl_numeral UInt8.toNat (by decide) hval h⟩

section
variable {jwk : Jwk} {x y : ℕ}

theorem coordinate_eq_ok {name : String} : jwk.coordinate name = .ok x ↔
    ∃ text bs, jwk.lookup name = some text ∧ b64url_decode text = .ok bs ∧ int_from_bytes bs = x := by
  simp only [Jwk.coordinate, except_bind_eq_ok_iff, item_eq_ok, pure, Except.pure, Except.ok.injEq,
    exists_and_left]

/-- A P-256 JWK is read as the key with its coordinates. -/
theorem public_pem_of_coordinates {cr : Crypto} (hkty : jwk.lookup "kty" = some "EC")
    (hcrv : jwk.lookup "crv" = some "P-256") (hx : jwk.coordinate "x" = .ok x)
    (hy : jwk.coordinate "y" = .ok y) (pem : String) :
    public_pem_from_jwk cr jwk = .ok pem ↔ cr.ec_public_pem .SECP256R1 x y = some pem := by
  obtain ⟨_, _, hxtext, hxbytes, rfl⟩ := coordinate_eq_ok.mp hx
  obtain ⟨_, _, hytext, hybytes, rfl⟩ := coordinate_eq_ok.mp hy
  have hcurve : curve_from_name "P-256" = .ok .SECP256R1 := rfl
  unfold public_pem_from_jwk Jwk.item
  rw [if_pos hkty, hcrv, hxtext, hytext]
  simp only [bind, Except.bind, hcurve, hxbytes, hybytes]
  cases cr.ec_public_pem .SECP256R1 _ _ <;> simp

end

/-- The code reads a JWK as the key: its coordinates, and the PEM of the numbers they are. -/
structure Jwk.ReadsAs (jwk : Jwk) (key : PrivateKey) : Prop where
  x : jwk.coordinate "x" = .ok key.x
  y : jwk.coordinate "y" = .ok key.y
  pem : ∀ cr pem, public_pem_from_jwk cr jwk = .ok pem ↔
    cr.ec_public_pem .SECP256R1 key.x key.y = some pem

theorem dpop_key_pair_eq_ok {key : PrivateKey} {pair : String × Jwk} : dpop_key_pair key = .ok pair ↔
    ∃ x, to_bytes key.x 32 = .ok x ∧ ∃ y, to_bytes key.y 32 = .ok y ∧
      (key.private_key_pem, [("kty", "EC"), ("crv", "P-256"), ("x", b64url_encode x),
        ("y", b64url_encode y)]) = pair := by
  simp only [dpop_key_pair, except_bind_eq_ok_iff, pure, Except.pure, Except.ok.injEq]

/-- **A key pair is built from any coordinates that fit, and read back.** -/
theorem dpop_key_pair_readsAs {key : PrivateKey} (hx : key.x < 2 ^ 256) (hy : key.y < 2 ^ 256) :
    ∃ jwk, dpop_key_pair key = .ok (key.private_key_pem, jwk) ∧ jwk.ReadsAs key := by
  have hpow : (256 : ℕ) ^ 32 = 2 ^ 256 := by norm_num
  obtain ⟨x, hxbytes, hxval⟩ := int_from_bytes_to_bytes (hpow.symm ▸ hx)
  obtain ⟨y, hybytes, hyval⟩ := int_from_bytes_to_bytes (hpow.symm ▸ hy)
  let jwk : Jwk := [("kty", "EC"), ("crv", "P-256"), ("x", b64url_encode x), ("y", b64url_encode y)]
  have hcx : jwk.coordinate "x" = .ok key.x :=
    coordinate_eq_ok.mpr ⟨_, x, rfl, b64url_decode_encode x, hxval⟩
  have hcy : jwk.coordinate "y" = .ok key.y :=
    coordinate_eq_ok.mpr ⟨_, y, rfl, b64url_decode_encode y, hyval⟩
  exact ⟨jwk, dpop_key_pair_eq_ok.mpr ⟨x, hxbytes, y, hybytes, rfl⟩, hcx, hcy,
    fun cr pem => public_pem_of_coordinates rfl rfl hcx hcy pem⟩

/-- A pair that was built is one to which a token can be bound, if its private key signs. -/
theorem goodPair_of_built {Tok : Type} {E : Env Tok} {key : PrivateKey} {pair : String × Jwk}
    (h : dpop_key_pair key = .ok pair) (hsigns : ∀ p, ∃ proof, E.jose.encode
      { typ := some "dpop+jwt", alg := some "ES256", jwk := some pair.2 } p pair.1 = some proof) :
    GoodPair E pair := by
  obtain ⟨x, -, y, -, rfl⟩ := dpop_key_pair_eq_ok.mp h
  exact ⟨⟨_, rfl⟩, hsigns⟩

/-- **Base64 and coordinates round-trip.**  Every byte string is decoded from its text; and whatever
key with coordinates below 2^256 `generate_dpop_key_pair` has generated, the JWK that it returns is
read back as the same two integers. -/
theorem base64_coordinates_round_trip (data : Bytes) (key : PrivateKey) (hx : key.x < 2 ^ 256)
    (hy : key.y < 2 ^ 256) :
    b64url_decode (b64url_encode data) = .ok data ∧
    ∃ jwk, dpop_key_pair key = .ok (key.private_key_pem, jwk) ∧ jwk.ReadsAs key ∧
      ∀ (Tok : Type) (s : SessionManager Tok), dpop_key_pair key = .ok (s.key_pairs s.keys_drawn) →
        ∃ s', generate_dpop_key_pair s = .ok (key.private_key_pem, jwk) s' := by
  obtain ⟨jwk, hjwk, hreads⟩ := dpop_key_pair_readsAs hx hy
  refine ⟨b64url_decode_encode data, jwk, hjwk, hreads, fun Tok s hs =>
    ⟨{ s with keys_drawn := s.keys_drawn + 1 }, ?_⟩⟩
  rw [hjwk, Except.ok.injEq] at hs
  rw [generate_dpop_key_pair, ← hs]

/-- Coordinates with leading zero bytes. -/
theorem base64_coordinates_round_trip_small :
    b64url_decode (b64url_encode [0, 255]) = .ok [0, 255] ∧
    ∃ jwk, dpop_key_pair ⟨"pem", 1, 2 ^ 248⟩ = .ok ("pem", jwk) ∧
      jwk.ReadsAs ⟨"pem", 1, 2 ^ 248⟩ ∧
      ∀ (Tok : Type) (s : SessionManager Tok),
        dpop_key_pair ⟨"pem", 1, 2 ^ 248⟩ = .ok (s.key_pairs s.keys_drawn) →
          ∃ s', generate_dpop_key_pair s = .ok ("pem", jwk) s' :=
  base64_coordinates_round_trip [0, 255] ⟨"pem", 1, 2 ^ 248⟩ (by norm_num) (by norm_num)

end AegisOs
