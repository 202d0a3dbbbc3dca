/-
# `AegisOs.Lib.JsonSchema` — documents and the schemas that describe them

A schema is a conjunction of keywords.  A keyword has an opinion on the values of one
type only and lets every other value pass, so a schema that wants a type says so.

| | |
| :-- | :-- |
| `valid` | the validator |
| `valid_object_iff` | what it is for an object to be valid: nothing missing, each member valid |
| `dict` | the members of an object that is built from pairs, of which the later one wins |

`format` is an annotation and has no place here.  A `pattern` is a sequence of classes
between `^` and `$`.
-/
import Mathlib.Data.List.Basic
import Mathlib.Data.List.Nodup
import Mathlib.Data.Rat.Defs
import Mathlib.Algebra.Order.Ring.Rat

namespace AegisOs.Lib

inductive Json where
  | null
  | bool (b : Bool)
  | num (q : ℚ)
  | str (s : String)
  | arr (elems : List Json)
  | obj (members : List (String × Json))

inductive JsonType where
  | string | integer | array | object
  deriving DecidableEq

namespace Json

/-- The type of a value, among those a schema of this module can ask for. -/
def HasType : JsonType → Json → Bool
  | .string, .str _ => true
  | .integer, .num q => decide (q.den = 1)
  | .array, .arr _ => true
  | .object, .obj _ => true
  | _, _ => false

/-- The later pair of a name wins. -/
def dict {β : Type} : List (String × β) → List (String × β)
  | [] => []
  | kv :: rest => if kv.1 ∈ rest.map Prod.fst then dict rest else kv :: dict rest

theorem dict_of_nodup {β : Type} {pairs : List (String × β)} (h : (pairs.map Prod.fst).Nodup) :
    dict pairs = pairs := by
  induction pairs with
  | nil => rfl
  | cons kv rest ih =>
      rw [List.map_cons, List.nodup_cons] at h
      rw [dict, if_neg h.1, ih h.2]

end Json

inductive Schema where
  | any
  | never
  | type (t : JsonType)
  | enum (values : List String)
  | minLength (n : ℕ)
  | minimum (n : ℤ)
  | pattern (classes : List (Char → Bool))
  | items (s : Schema)
  | object (required : List String) (properties : List (String × Schema)) (additional : Schema)
  | allOf (keywords : List Schema)

namespace Schema

/-- A text that is one character of each class. -/
def fullmatch : List (Char → Bool) → List Char → Bool
  | [], [] => true
  | p :: ps, c :: cs => p c && fullmatch ps cs
  | _, _ => false

mutual

def valid : Schema → Json → Bool
  | .any, _ => true
  | .never, _ => false
  | .type t, v => v.HasType t
  | .enum values, .str s => decide (s ∈ values)
  | .enum _, _ => false
  | .minLength n, .str s => decide (n ≤ s.length)
  | .minLength _, _ => true
  | .minimum n, .num q => decide ((n : ℚ) ≤ q)
  | .minimum _, _ => true
  | .pattern classes, .str s => fullmatch classes s.toList
  | .pattern _, _ => true
  | .items s, .arr elems => elems.all fun v => s.valid v
  | .items _, _ => true
  | .object required properties additional, .obj members =>
      required.all (fun k => decide (k ∈ members.map Prod.fst)) &&
        members.all fun kv => validMember properties kv.1 kv.2 (additional.valid kv.2)
  | .object _ _ _, _ => true
  | .allOf keywords, v => validAll keywords v

/-- A member is valid for the property of its name, or else for `additionalProperties`. -/
def validMember : List (String × Schema) → String → Json → Bool → Bool
  | [], _, _, additional => additional
  | (k, s) :: properties, name, v, additional =>
      if name = k then s.valid v else validMember properties name v additional

def validAll : List Schema → Json → Bool
  | [], _ => true
  | s :: keywords, v => s.valid v && validAll keywords v

end

/-- The schema a member of this name has to conform to. -/
def member (properties : List (String × Schema)) (additional : Schema) (name : String) : Schema :=
  ((properties.find? fun p => decide (name = p.1)).map Prod.snd).getD additional

theorem validMember_eq (properties : List (String × Schema)) (additional : Schema) (name : String)
    (v : Json) : validMember properties name v (additional.valid v) =
      (member properties additional name).valid v := by
  induction properties with
  | nil => rfl
  | cons p properties ih =>
      rw [validMember, member, List.find?_cons]
      by_cases h : name = p.1
      · simp [h]
      · simpa [h, member] using ih

@[simp] theorem valid_allOf_cons (s : Schema) (keywords : List Schema) (v : Json) :
    (allOf (s :: keywords)).valid v = (s.valid v && (allOf keywords).valid v) := by
  simp [valid, validAll]

@[simp] theorem valid_allOf_nil (v : Json) : (allOf []).valid v = true := rfl

/-- **When an object is valid.** -/
theorem valid_object_iff {required : List String} {properties : List (String × Schema)}
    {additional : Schema} {members : List (String × Json)} :
    (object required properties additional).valid (.obj members) = true ↔
      (∀ k ∈ required, k ∈ members.map Prod.fst) ∧
        ∀ kv ∈ members, (member properties additional kv.1).valid kv.2 = true := by
  simp only [valid, validMember_eq, Bool.and_eq_true, List.all_eq_true, decide_eq_true_eq]

theorem valid_items_strs (l : List String) :
    (items (type .string)).valid (.arr (l.map Json.str)) = true := by
  simp [valid, Json.HasType]

theorem fullmatch_append {ps qs : List (Char → Bool)} {cs ds : List Char}
    (h : fullmatch ps cs = true) (h' : fullmatch qs ds = true) :
    fullmatch (ps ++ qs) (cs ++ ds) = true := by
  induction ps generalizing cs with
  | nil =>
      cases cs with
      | nil => exact h'
      | cons c cs => cases h
  | cons p ps ih =>
      cases cs with
      | nil => cases h
      | cons c cs =>
          rw [fullmatch, Bool.and_eq_true] at h
          rw [List.cons_append, List.cons_append, fullmatch, h.1, ih h.2, Bool.true_and]

/-- `p{n}` matches `n` characters of the class. -/
theorem fullmatch_replicate {p : Char → Bool} {cs : List Char} (h : ∀ c ∈ cs, p c = true) :
    fullmatch (List.replicate cs.length p) cs = true := by
  induction cs with
  | nil => rfl
  | cons c cs ih =>
      rw [List.length_cons, List.replicate_succ, fullmatch, h c List.mem_cons_self, Bool.true_and]
      exact ih fun d hd => h d (List.mem_cons_of_mem _ hd)

/-- A text matches itself. -/
theorem fullmatch_self (cs : List Char) :
    fullmatch (cs.map fun c d => decide (d = c)) cs = true := by
  induction cs with
  | nil => rfl
  | cons c cs ih => rw [List.map_cons, fullmatch, ih, decide_eq_true rfl, Bool.true_and]

end Schema

end AegisOs.Lib
