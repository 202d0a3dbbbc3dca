/-
# `AegisOs.Governance.Jwk` — public keys as JSON Web Keys

The key helpers of `session_mgr.py`: URL-safe base64 without padding, the
RFC 7638 members of a public JWK, its thumbprint, and the PEM a proof is
verified under.  `Crypto` is what the code takes from `hashlib` and from the
`cryptography` package: a digest, and the construction of a public key from
its numbers, which rejects numbers that are not a key.

A JWK is the list of its members; the code only looks members up by name.
-/
import AegisOs.Basic

namespace AegisOs

/-- A byte string. -/
abbrev Bytes : Type := List UInt8

/-! ## Base64 -/

/-- The URL-safe alphabet. -/
def b64_alphabet : List Char :=
  "ABCDEFGHIJKLMNOPQRSTUVWXYZabcdefghijklmnopqrstuvwxyz0123456789-_".toList

def b64_char (n : ℕ) : Char := b64_alphabet.getD n '='

/-- The value of a character; the decoder also takes the characters of the plain alphabet that the
URL-safe one renames. -/
def b64_value (c : Char) : Option ℕ :=
  if c = '+' then some 62 else if c = '/' then some 63 else b64_alphabet.idxOf? c

/-- `base64.urlsafe_b64encode`, padding included. -/
def urlsafe_b64encode : Bytes → List Char
  | [] => []
  | [a] =>
      [b64_char (a.toNat / 4), b64_char (a.toNat % 4 * 16), '=', '=']
  | [a, b] =>
      [b64_char (a.toNat / 4), b64_char (a.toNat % 4 * 16 + b.toNat / 16),
        b64_char (b.toNat % 16 * 4), '=']
  | a :: b :: c :: rest =>
      b64_char (a.toNat / 4) :: b64_char (a.toNat % 4 * 16 + b.toNat / 16) ::
        b64_char (b.toNat % 16 * 4 + c.toNat / 64) :: b64_char (c.toNat % 64) ::
        urlsafe_b64encode rest

/-- The loop of `binascii.a2b_base64`: position in the quad, bits carried over, pads seen.
Characters outside the alphabet are skipped, and a completed pad sequence ends the input. -/
def a2b_loop : (quad_pos leftchar pads : ℕ) → List Char → Option Bytes
  | quad_pos, _, _, [] => if quad_pos = 0 then some [] else none
  | quad_pos, leftchar, pads, '=' :: rest =>
      if 2 ≤ quad_pos then
        if 4 ≤ quad_pos + (pads + 1) then some [] else a2b_loop quad_pos leftchar (pads + 1) rest
      else a2b_loop quad_pos leftchar pads rest
  | quad_pos, leftchar, pads, c :: rest =>
      match b64_value c with
      | none => a2b_loop quad_pos leftchar pads rest
      | some v =>
          match quad_pos with
          | 0 => a2b_loop 1 v 0 rest
          | 1 => (a2b_loop 2 (v % 16) 0 rest).map (UInt8.ofNat (leftchar * 4 + v / 16) :: ·)
          | 2 => (a2b_loop 3 (v % 4) 0 rest).map (UInt8.ofNat (leftchar * 16 + v / 4) :: ·)
          | _ => (a2b_loop 0 0 0 rest).map (UInt8.ofNat (leftchar * 64 + v) :: ·)

/-- `_b64url_encode`. -/
def b64url_encode (data : Bytes) : String :=
  String.ofList ((urlsafe_b64encode data).reverse.dropWhile (· == '=')).reverse

/-- `_b64url_decode`: a non-ASCII text is a `ValueError`, a bad quad a `binascii.Error`. -/
def b64url_decode (data : String) : Except Exc Bytes :=
  let chars := data.toList ++ List.replicate ((4 - data.length % 4) % 4) '='
  if chars.any (fun c => 127 < c.toNat) then
    .error ⟨.ValueError, "string argument should contain only ASCII characters"⟩
  else match a2b_loop 0 0 0 chars with
    | some bs => .ok bs
    | none => .error ⟨.other "binascii.Error", []⟩

/-- `int.from_bytes(bs, "big")`. -/
def int_from_bytes (bs : Bytes) : ℕ := bs.foldl (fun acc b => acc * 256 + b.toNat) 0

/-! ## JSON text of a flat object -/

def hex4 (n : ℕ) : List Char :=
  [n / 4096 % 16, n / 256 % 16, n / 16 % 16, n % 16].map Nat.digitChar

/-- One character of a JSON string, with `ensure_ascii`. -/
def json_escape (c : Char) : List Char :=
  if c = '"' then ['\\', '"']
  else if c = '\\' then ['\\', '\\']
  else if c = '\n' then ['\\', 'n']
  else if c = '\r' then ['\\', 'r']
  else if c = '\t' then ['\\', 't']
  else if c.toNat = 12 then ['\\', 'f']
  else if c.toNat = 8 then ['\\', 'b']
  else if 32 ≤ c.toNat ∧ c.toNat ≤ 126 then [c]
  else if c.toNat < 65536 then ['\\', 'u'] ++ hex4 c.toNat
  else
    ['\\', 'u'] ++ hex4 (55296 + (c.toNat - 65536) / 1024) ++
      ['\\', 'u'] ++ hex4 (56320 + (c.toNat - 65536) % 1024)

def json_string (s : String) : List Char := ['"'] ++ s.toList.flatMap json_escape ++ ['"']

/-- `json.dumps(d, sort_keys=True, separators=(",", ":"))` for a dict of strings. -/
def json_dumps (fields : List (String × String)) : String :=
  let sorted := fields.mergeSort (fun a b => decide (a.1 ≤ b.1))
  let members := sorted.map (fun kv => json_string kv.1 ++ [':'] ++ json_string kv.2)
  String.ofList (['\x7b'] ++ [','].intercalate members ++ ['\x7d'])

/-! ## Keys -/

/-- The members of a public JWK. -/
abbrev Jwk : Type := List (String × String)

/-- The curves `_curve_from_name` knows. -/
inductive Curve where
  | SECP256R1 | SECP384R1 | SECP521R1
  deriving DecidableEq

/-- `hashlib` and `cryptography`. -/
structure Crypto where
  sha256 : Bytes → Bytes
  /-- The PEM of `EllipticCurvePublicNumbers(x, y, curve).public_key()`. -/
  ec_public_pem : Curve → ℕ → ℕ → Option String
  /-- The PEM of `RSAPublicNumbers(e, n).public_key()`. -/
  rsa_public_pem : (e n : ℕ) → Option String
  /-- The public PEM of a private PEM. -/
  public_of_private : String → Option String

/-- `jwk[name]`. -/
def Jwk.item (jwk : Jwk) (name : String) : Except Exc String :=
  match jwk.lookup name with
  | some v => .ok v
  | none => .error ⟨.KeyError, name⟩

/-- `_curve_from_name`. -/
def curve_from_name (curve_name : String) : Except Exc Curve :=
  if curve_name = "P-256" then .ok .SECP256R1
  else if curve_name = "P-384" then .ok .SECP384R1
  else if curve_name = "P-521" then .ok .SECP521R1
  else .error ⟨.ValueError, [.lit "Unsupported JWK curve: ", .repr curve_name]⟩

def unsupported_key_type (jwk : Jwk) : Exc :=
  ⟨.ValueError, [.lit "Unsupported JWK key type: ",
    match jwk.lookup "kty" with | some kty => .repr kty | none => .lit "None"]⟩

/-- `_required_jwk_fields`. -/
def required_jwk_fields (jwk : Jwk) : Except Exc Jwk :=
  if jwk.lookup "kty" = some "EC" then do
    let crv ← jwk.item "crv"
    let kty ← jwk.item "kty"
    let x ← jwk.item "x"
    let y ← jwk.item "y"
    return [("crv", crv), ("kty", kty), ("x", x), ("y", y)]
  else if jwk.lookup "kty" = some "RSA" then do
    let e ← jwk.item "e"
    let kty ← jwk.item "kty"
    let n ← jwk.item "n"
    return [("e", e), ("kty", kty), ("n", n)]
  else .error (unsupported_key_type jwk)

/-- `_public_pem_from_jwk`. -/
def public_pem_from_jwk (cr : Crypto) (jwk : Jwk) : Except Exc String :=
  let checked : Option String → Except Exc String
    | some pem => .ok pem
    | none => .error ⟨.ValueError, "Invalid key numbers"⟩
  if jwk.lookup "kty" = some "EC" then do
    let curve ← curve_from_name (← jwk.item "crv")
    let x ← b64url_decode (← jwk.item "x")
    let y ← b64url_decode (← jwk.item "y")
    checked (cr.ec_public_pem curve (int_from_bytes x) (int_from_bytes y))
  else if jwk.lookup "kty" = some "RSA" then do
    let e ← b64url_decode (← jwk.item "e")
    let n ← b64url_decode (← jwk.item "n")
    checked (cr.rsa_public_pem (int_from_bytes e) (int_from_bytes n))
  else .error (unsupported_key_type jwk)

/-- The digest of a text, in base64. -/
def Crypto.digest (cr : Crypto) (text : String) : String :=
  b64url_encode (cr.sha256 text.toUTF8.toList)

/-- `SessionManager.public_jwk_thumbprint`. -/
def public_jwk_thumbprint (cr : Crypto) (jwk : Jwk) : Except Exc String := do
  let fields ← required_jwk_fields jwk
  return cr.digest (json_dumps fields)

end AegisOs
