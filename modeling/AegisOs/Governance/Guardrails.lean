/-
# `AegisOs.Governance.Guardrails` — masking and injection filters

`guardrails.py`.  A text is normalised once, in four steps, and then each of
five expressions is looked for and replaced in turn; the six expressions of the
injection filter are looked for in the text as it comes in.

**What comes from outside.**  `Unicode` is the part of Python's Unicode tables
that the code sees: which characters beyond ASCII are letters or digits, and
NFKC.  ASCII is not left to the tables, so the classes compute on it.  Texts
are of Unicode scalar values.

**Classes.**  Under `re.IGNORECASE` the ranges `[A-Za-z]` also take in the four
characters whose case partners are ASCII letters, and a letter of a literal
matches its case partners.
-/
import AegisOs.Basic
import AegisOs.Lib.Redact

namespace AegisOs

open Lib

structure MaskResult where
  text : String
  found_types : List String
  deriving DecidableEq

/-- `Guardrails`. -/
structure Guardrails where
  mask_pii : String → Except Exc MaskResult
  check_prompt_injection : String → Except Exc Unit

/-- `Guardrails.scrub`. -/
def Guardrails.scrub (g : Guardrails) (text : String) : Except Exc MaskResult := g.mask_pii text

/-- The Unicode tables, and what the code's use of NFKC rests on: ASCII is normal, and a bracket
combines with nothing on either side of it. -/
structure Unicode where
  /-- `str.isalnum` and `str.isdecimal`, beyond ASCII. -/
  alnum : Char → Bool
  decimal : Char → Bool
  /-- `unicodedata.normalize("NFKC", text)`. -/
  nfkc : List Char → List Char
  nfkc_ascii : ∀ x, (∀ c ∈ x, c.toNat < 128) → nfkc x = x
  nfkc_open : ∀ x y, nfkc (x ++ '[' :: y) = nfkc x ++ '[' :: nfkc y
  nfkc_close : ∀ x y, nfkc (x ++ ']' :: y) = nfkc x ++ ']' :: nfkc y

namespace Guardrails

open Regex

/-! ## Classes of characters -/

/-- The code point lies between the two. -/
def within (lo hi : ℕ) (c : Char) : Bool := lo ≤ c.toNat && c.toNat ≤ hi

def ascii_digit (c : Char) : Bool := within 48 57 c

def ascii_letter (c : Char) : Bool := within 65 90 c || within 97 122 c

/-- `\s`: the characters with `str.isspace`. -/
def space (c : Char) : Bool :=
  within 9 13 c || within 28 32 c || c.toNat == 0x85 || c.toNat == 0xA0 || c.toNat == 0x1680 ||
    within 0x2000 0x200A c || within 0x2028 0x2029 c || c.toNat == 0x202F || c.toNat == 0x205F ||
    c.toNat == 0x3000

section
variable (U : Unicode)

/-- `\w`. -/
def word (c : Char) : Bool :=
  if c.toNat < 128 then ascii_digit c || ascii_letter c || c == '_' else U.alnum c

/-- `\d`. -/
def digit (c : Char) : Bool := if c.toNat < 128 then ascii_digit c else U.decimal c

end

/-- `[A-Za-z]` under `IGNORECASE`. -/
def letter (c : Char) : Bool :=
  ascii_letter c || c.toNat == 0x130 || c.toNat == 0x131 || c.toNat == 0x17F || c.toNat == 0x212A

/-- A letter of a literal under `IGNORECASE`; it is given in lower case. -/
def same_letter (l c : Char) : Bool :=
  c == l || c == l.toUpper || (l == 'i' && (c.toNat == 0x130 || c.toNat == 0x131)) ||
    (l == 's' && c.toNat == 0x17F) || (l == 'k' && c.toNat == 0x212A)

/-- One of the characters of the text. -/
def among (text : String) (c : Char) : Bool := text.toList.contains c

/-! ## Normalisation -/

/-- `_INVISIBLE_RE`. -/
def invisible (c : Char) : Bool :=
  c.toNat == 0xAD || within 0x200B 0x200F c || within 0x2028 0x2029 c || within 0x202A 0x202E c ||
    within 0x2060 0x2064 c || c.toNat == 0xFEFF

/-- The value of a hexadecimal digit. -/
def hex_value (c : Char) : Option ℕ :=
  if within 48 57 c then some (c.toNat - 48)
  else if within 65 70 c then some (c.toNat - 55)
  else if within 97 102 c then some (c.toNat - 87)
  else none

/-- The byte of an escape, when the text behind a `%` begins with two hexadecimal digits. -/
def escaped : List Char → Option ℕ
  | h :: l :: _ => (hex_value h).bind fun a => (hex_value l).map fun b => 16 * a + b
  | _ => none

/-- What `unquote` makes of a text before it decodes: bytes, and the characters beyond ASCII, which
it leaves as they are.  `k` characters of the present escape are still to be passed over. -/
def units : ℕ → List Char → List (ℕ ⊕ Char)
  | _, [] => []
  | k + 1, _ :: cs => units k cs
  | 0, c :: cs =>
      if c = '%' then
        match escaped cs with
        | some byte => .inl byte :: units 2 cs
        | none => .inl c.toNat :: units 0 cs
      else if c.toNat < 128 then .inl c.toNat :: units 0 cs
      else .inr c :: units 0 cs

/-- A UTF-8 sequence begun: the bytes still to come, the value so far and the range of the next byte,
which is one of continuation bytes. -/
structure Begun where
  missing : ℕ
  value : ℕ
  lo : ℕ
  hi : ℕ
  continuation : 128 ≤ lo

/-- What stands for an ill-formed sequence. -/
def replacement : Char := '\uFFFD'

/-- A byte where a sequence may begin. -/
def lead (byte : ℕ) : List Char × Option Begun :=
  if byte < 0x80 then ([Char.ofNat byte], none)
  else if 0xC2 ≤ byte ∧ byte ≤ 0xDF then ([], some ⟨1, byte - 0xC0, 0x80, 0xBF, by decide⟩)
  else if byte = 0xE0 then ([], some ⟨2, 0, 0xA0, 0xBF, by decide⟩)
  else if byte = 0xED then ([], some ⟨2, 0xD, 0x80, 0x9F, by decide⟩)
  else if 0xE1 ≤ byte ∧ byte ≤ 0xEF then ([], some ⟨2, byte - 0xE0, 0x80, 0xBF, by decide⟩)
  else if byte = 0xF0 then ([], some ⟨3, 0, 0x90, 0xBF, by decide⟩)
  else if 0xF1 ≤ byte ∧ byte ≤ 0xF3 then ([], some ⟨3, byte - 0xF0, 0x80, 0xBF, by decide⟩)
  else if byte = 0xF4 then ([], some ⟨3, 4, 0x80, 0x8F, by decide⟩)
  else ([replacement], none)

/-- The next byte; one that does not continue the sequence begun ends it and is read again. -/
def feed : Option Begun → ℕ → List Char × Option Begun
  | none, byte => lead byte
  | some s, byte =>
      if s.lo ≤ byte ∧ byte ≤ s.hi then
        let value := s.value * 64 + (byte - 0x80)
        if s.missing = 1 then ([Char.ofNat value], none)
        else ([], some ⟨s.missing - 1, value, 0x80, 0xBF, by decide⟩)
      else (replacement :: (lead byte).1, (lead byte).2)

/-- A sequence that goes no further. -/
def unfinished : Option Begun → List Char
  | none => []
  | some _ => [replacement]

/-- `bytes.decode("utf-8", "replace")`, run of bytes by run of bytes. -/
def decode : Option Begun → List (ℕ ⊕ Char) → List Char
  | s, [] => unfinished s
  | s, .inl byte :: us => (feed s byte).1 ++ decode (feed s byte).2 us
  | s, .inr c :: us => unfinished s ++ c :: decode none us

/-- `urllib.parse.unquote`. -/
def unquote (text : List Char) : List Char := decode none (units 0 text)

/-- `_AT_WS_RE`. -/
def at_ws : Regex Char :=
  let blank := among " \t\n\r"
  cat [.many blank, .one (· == '@'), .many blank]

/-- `_normalize`. -/
def normalize (U : Unicode) (text : List Char) : List Char :=
  let text := text.filter (fun c => !invisible c)
  let text := U.nfkc text
  let text := unquote text
  sub (word U) at_ws ['@'] text

/-! ## The expressions -/

/-- A character of a literal. -/
def lit (c : Char) : Regex Char := .one (· == c)

section
variable (U : Unicode)

def email : Framed Char where
  core := cat
    [some_ (fun c => letter c || ascii_digit c || among "._%+-" c), lit '@',
      some_ (fun c => letter c || ascii_digit c || among ".-" c), .many space, lit '.', .many space,
      .one letter, some_ letter]
  isLocal := rfl
  consumes := by decide

def ssn : Framed Char where
  core :=
    let sep := some_ fun c => space c || c == '-'
    cat
      [.notAhead (choice
          [cat [lit '0', lit '0', lit '0'], cat [lit '6', lit '6', lit '6'],
            cat [lit '9', .one (digit U), .one (digit U)]]),
        times 3 (.one (digit U)), sep, .notAhead (cat [lit '0', lit '0']),
        times 2 (.one (digit U)), sep, .notAhead (cat [lit '0', lit '0', lit '0', lit '0']),
        times 4 (.one (digit U))]
  isLocal := rfl
  consumes := Nat.succ_pos _

def credit_card : Framed Char where
  core := cat
    [times 3 (.seq (times 4 (.one (digit U))) (opt (.one fun c => space c || c == '-'))),
      times 4 (.one (digit U))]
  isLocal := rfl
  consumes := Nat.succ_pos _

def phone_us : Framed Char where
  core :=
    let sep := opt (.one fun c => space c || among "-." c)
    cat
      [opt (cat [lit '+', lit '1', sep]), opt (lit '('), times 3 (.one (digit U)), opt (lit ')'),
        sep, times 3 (.one (digit U)), sep, times 4 (.one (digit U))]
  isLocal := rfl
  consumes := Nat.succ_pos _

/-- A number up to 255, with leading zeros. -/
def octet : Regex Char :=
  choice
    [cat [lit '2', lit '5', .one (within 48 53)], cat [lit '2', .one (within 48 52), .one (digit U)],
      cat [opt (.one (within 48 49)), .one (digit U), opt (.one (digit U))]]

def ip_address : Framed Char where
  core := cat [times 3 (cat [octet U, .many space, lit '.', .many space]), octet U]
  isLocal := rfl
  consumes := Nat.succ_pos _

/-- `_PII_PATTERNS`. -/
def pii_patterns : List (String × Framed Char) :=
  [("email", email), ("ssn", ssn U), ("credit_card", credit_card U), ("phone_us", phone_us U),
    ("ip_address", ip_address U)]

end

/-- `f"[REDACTED-{label.upper()}]"`. -/
def redaction (label : String) : List Char :=
  '[' :: ("REDACTED-".toList ++ label.toList.map Char.toUpper ++ [']'])

/-- An expression of the injection filter, with its source text. -/
structure InjectionPattern where
  pattern : String
  regex : Regex Char

/-- A word of a literal. -/
def phrase (text : String) : Regex Char := cat (text.toList.map fun l => .one (same_letter l))

/-- `\s+`. -/
def gap : Regex Char := some_ space

/-- `_INJECTION_PATTERNS`. -/
def injection_patterns : List InjectionPattern :=
  [⟨"ignore\\s+(all\\s+)?previous\\s+instructions",
      cat [phrase "ignore", gap, opt (cat [phrase "all", gap]), phrase "previous", gap,
        phrase "instructions"]⟩,
    ⟨"disregard\\s+(all\\s+)?prior\\s+(instructions|rules)",
      cat [phrase "disregard", gap, opt (cat [phrase "all", gap]), phrase "prior", gap,
        choice [phrase "instructions", phrase "rules"]]⟩,
    ⟨"you\\s+are\\s+now\\s+(?:a|an)\\s+",
      cat [phrase "you", gap, phrase "are", gap, phrase "now", gap,
        choice [phrase "a", phrase "an"], gap]⟩,
    ⟨"act\\s+as\\s+(?:if\\s+)?(?:you\\s+are\\s+)?(?:a|an)\\s+",
      cat [phrase "act", gap, phrase "as", gap, opt (cat [phrase "if", gap]),
        opt (cat [phrase "you", gap, phrase "are", gap]), choice [phrase "a", phrase "an"], gap]⟩,
    ⟨"jailbreak", phrase "jailbreak"⟩,
    ⟨"DAN\\s+mode", cat [phrase "dan", gap, phrase "mode"]⟩]

/-! ## The methods -/

section
variable (U : Unicode)

/-- The loop of `mask_pii`, over the patterns that are left. -/
def mask_loop : List (String × Framed Char) → List Char → List String → List Char × List String
  | [], text, found => (text, found)
  | (label, pattern) :: patterns, text, found =>
      if search (word U) pattern.regex [] text then
        mask_loop patterns (sub (word U) pattern.regex (redaction label) text) (found ++ [label])
      else mask_loop patterns text found

/-- `mask_pii`. -/
def masked (text : String) : MaskResult :=
  let result := mask_loop U (pii_patterns U) (normalize U text.toList) []
  ⟨String.ofList result.1, result.2⟩

/-- The first expression of the injection filter that is found. -/
def injection (text : String) : Option InjectionPattern :=
  injection_patterns.find? fun p => search (word U) p.regex [] text.toList

/-- The repository's `Guardrails`. -/
def standard : Guardrails where
  mask_pii text := .ok (masked U text)
  check_prompt_injection text :=
    match injection U text with
    | some p => .error ⟨.PromptInjectionError,
        [.lit "Potential prompt injection detected: matched pattern '", .lit p.pattern, .lit "'"]⟩
    | none => .ok ()

end

end Guardrails

end AegisOs
