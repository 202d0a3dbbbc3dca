/-
# `AegisOs.Lib.JsonAccess` — documents read without a schema

Code that takes a decoded document apart by the operations of a dynamically typed
language fails where the shape is not the one it has in mind, and each operation in its
own way:

    v.get(name)     AttributeError   unless `v` is an object
    v[name]         TypeError        unless `v` is an object,   KeyError  if it has no such member
    v[0]            TypeError, KeyError, IndexError

and it takes any value where it asks for a condition (`truthy`).  A name that stands in an
object twice has the later value.
-/
import AegisOs.Lib.JsonSchema

namespace AegisOs.Lib.Json

/-- What an access raises. -/
inductive AccessError where
  | AttributeError | KeyError | IndexError | TypeError
  deriving DecidableEq

/-- The member `name`, if there is one. -/
def member (name : String) (members : List (String × Json)) : Option Json :=
  (members.reverse.find? fun kv => kv.1 = name).map Prod.snd

/-- `v.get(name)`. -/
def get (name : String) : Json → Except AccessError (Option Json)
  | .obj members => .ok (member name members)
  | _ => .error .AttributeError

/-- `v[name]`. -/
def item (name : String) : Json → Except AccessError Json
  | .obj members => (member name members).elim (.error .KeyError) .ok
  | _ => .error .TypeError

/-- `v[0]`. -/
def head : Json → Except AccessError Json
  | .arr (v :: _) => .ok v
  | .arr [] => .error .IndexError
  | .str s => s.toList.head?.elim (.error .IndexError) fun c => .ok (.str (String.singleton c))
  | .obj _ => .error .KeyError
  | _ => .error .TypeError

/-- `bool(v)`. -/
def truthy : Json → Bool
  | .null => false
  | .bool b => b
  | .num q => decide (q ≠ 0)
  | .str s => decide (s ≠ "")
  | .arr elems => !elems.isEmpty
  | .obj members => !members.isEmpty

/-- `v + w`, on numbers (`True` is one), texts and lists. -/
def number : Json → Option ℚ
  | .num q => some q
  | .bool b => some (if b then 1 else 0)
  | _ => none

@[inherit_doc number]
def add : Json → Json → Except AccessError Json
  | .str s, .str t => .ok (.str (s ++ t))
  | .arr vs, .arr ws => .ok (.arr (vs ++ ws))
  | v, w => match v.number, w.number with
      | some p, some q => .ok (.num (p + q))
      | _, _ => .error .TypeError

/-- A text. -/
def text : Json → Option String
  | .str s => some s
  | _ => none

/-- A list of texts. -/
def texts : Json → Option (List String)
  | .arr elems => elems.mapM text
  | _ => none

/-! ## Where a value stands -/

/-- The member of an object. -/
def field (name : String) : Json → Option Json
  | .obj members => member name members
  | _ => none

/-- The first of a list. -/
def first : Json → Option Json
  | .arr (v :: _) => some v
  | _ => none

inductive Step where
  | key (name : String)
  | first

def follow : Step → Json → Option Json
  | .key name => field name
  | .first => first

/-- The value at the end of a path. -/
def path : List Step → Json → Option Json
  | [], v => some v
  | step :: steps, v => (follow step v).bind (path steps)

section
variable {name : String} {v w : Json} {members : List (String × Json)}

theorem item_eq_field : v.item name = .ok w ↔ v.field name = some w := by
  cases v with
  | obj members =>
      simp only [item, field]
      cases member name members <;> simp
  | _ => simp [item, field]

/-- An object comes first in a list only. -/
theorem head_eq_obj : v.head = .ok (.obj members) ↔ v.first = some (.obj members) := by
  cases v with
  | arr elems => cases elems <;> simp [head, first]
  | str s => cases hs : s.toList <;> simp [head, first, hs]
  | _ => simp [head, first]

theorem get_eq_ok {x : Option Json} :
    v.get name = .ok x ↔ ∃ members, v = .obj members ∧ member name members = x := by
  cases v <;> simp [get]

theorem item_eq_ok :
    v.item name = .ok w ↔ ∃ members, v = .obj members ∧ member name members = some w := by
  cases v with
  | obj members =>
      simp only [item, obj.injEq, exists_eq_left']
      cases member name members <;> simp
  | _ => simp [item]

@[simp] theorem path_nil : path [] v = some v := rfl

theorem path_key {steps : List Step} :
    path (.key name :: steps) v = some w ↔ ∃ u, v.item name = .ok u ∧ path steps u = some w := by
  simp only [path, follow, Option.bind_eq_some_iff, item_eq_field]

theorem path_first_obj :
    path [.first] v = some (.obj members) ↔ v.head = .ok (.obj members) := by
  rw [head_eq_obj, path, follow, Option.bind_eq_some_iff]
  simp only [path_nil, Option.some.injEq, exists_eq_right]

@[simp] theorem member_nil : member name [] = none := rfl

theorem member_append (members' : List (String × Json)) :
    member name (members ++ members') = (member name members').or (member name members) := by
  unfold member
  rw [List.reverse_append, List.find?_append, Option.map_or]

/-- A member that may be left out. -/
def optional {α : Type} (key : String) (f : α → Json) (a : Option α) : List (String × Json) :=
  a.toList.map fun a => (key, f a)

theorem member_optional {α : Type} {key : String} {f : α → Json} (a : Option α) :
    member name (optional key f a) = if key = name then a.map f else none := by
  cases a with
  | none => simp [optional]
  | some a =>
      by_cases h : key = name
      · simp [optional, member, h]
      · simp [optional, member, h]

theorem text_eq_some {s : String} : v.text = some s ↔ v = .str s := by
  cases v <;> simp [text]

theorem texts_map_str (ss : List String) : texts (.arr (ss.map .str)) = some ss := by
  show (ss.map Json.str).mapM text = some ss
  induction ss with
  | nil => rfl
  | cons s ss ih => simp [List.mapM_cons, text, ih]

end

end AegisOs.Lib.Json
