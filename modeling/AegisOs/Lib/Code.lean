/-
# `AegisOs.Lib.Code` — codes whose words can be told apart

A code writes letters as words.  It is *separable* if a text that begins with
the word of a letter determines the letter and what follows the word; a reader
that gives both back shows it.  Separable codes compose:

    pairs                                     (`Separable.pair`)
    a fixed symbol in front                   (`Separable.cons`)
    sequences up to a stop symbol             (`Separable.flatMap`)
    sequences with a symbol between           (`Separable.intercalate`)

where for sequences no word may begin with the stop symbol.
-/
import Mathlib.Data.Set.Function

namespace AegisOs.Lib.Code

variable {α α' β : Type} {S : Set α} {enc : α → List β}

/-- A text that begins with a word determines the letter and the rest. -/
def Separable (S : Set α) (enc : α → List β) : Prop :=
  ∀ ⦃a⦄, a ∈ S → ∀ ⦃b⦄, b ∈ S → ∀ ⦃r r'⦄, enc a ++ r = enc b ++ r' → a = b ∧ r = r'

/-- No word is empty or begins with `stop`. -/
def Spares (stop : β) (S : Set α) (enc : α → List β) : Prop :=
  ∀ a ∈ S, ∃ c w, enc a = c :: w ∧ c ≠ stop

/-- What a reader gives back can be told apart. -/
theorem separable_of_read (read : List β → Option (α × List β))
    (h : ∀ a ∈ S, ∀ r, read (enc a ++ r) = some (a, r)) : Separable S enc := by
  intro a ha b hb r r' heq
  have : some (a, r) = some (b, r') := by rw [← h a ha r, ← h b hb r', heq]
  simpa using this

theorem Separable.injOn (h : Separable S enc) : Set.InjOn enc S := by
  intro a ha b hb heq
  exact (h ha hb (congrArg (· ++ []) heq)).1

theorem Separable.cons (c : β) (h : Separable S enc) : Separable S (fun a => c :: enc a) := by
  intro a ha b hb r r' heq
  exact h ha hb (List.cons.inj heq).2

/-- One word after another. -/
theorem Separable.pair {S' : Set α'} {enc' : α' → List β} (h : Separable S enc)
    (h' : Separable S' enc') :
    Separable {p : α × α' | p.1 ∈ S ∧ p.2 ∈ S'} (fun p => enc p.1 ++ enc' p.2) := by
  rintro ⟨a, a'⟩ ⟨ha, ha'⟩ ⟨b, b'⟩ ⟨hb, hb'⟩ r r' heq
  rw [List.append_assoc, List.append_assoc] at heq
  obtain ⟨rfl, hrest⟩ := h ha hb heq
  obtain ⟨rfl, rfl⟩ := h' ha' hb' hrest
  exact ⟨rfl, rfl⟩

/-- Words up to a stop symbol. -/
theorem Separable.flatMap {stop : β} (h : Separable S enc) (hs : Spares stop S enc) :
    Separable {l : List α | ∀ a ∈ l, a ∈ S} (fun l => l.flatMap enc ++ [stop]) := by
  intro l hl
  induction l with
  | nil =>
      intro l' hl' r r' heq
      cases l' with
      | nil => exact ⟨rfl, by simpa using heq⟩
      | cons b l' =>
          obtain ⟨c, w, hw, hc⟩ := hs b (hl' b List.mem_cons_self)
          simp only [List.flatMap_nil, List.flatMap_cons, hw, List.nil_append, List.cons_append,
            List.cons.injEq] at heq
          exact absurd heq.1.symm hc
  | cons a l ih =>
      intro l' hl' r r' heq
      have ha := hl a List.mem_cons_self
      cases l' with
      | nil =>
          obtain ⟨c, w, hw, hc⟩ := hs a ha
          simp only [List.flatMap_nil, List.flatMap_cons, hw, List.nil_append, List.cons_append,
            List.cons.injEq] at heq
          exact absurd heq.1 hc
      | cons b l' =>
          simp only [List.flatMap_cons, List.append_assoc] at heq
          obtain ⟨rfl, hrest⟩ := h ha (hl' b List.mem_cons_self) heq
          obtain ⟨rfl, rfl⟩ := ih (fun x hx => hl x (List.mem_cons_of_mem _ hx))
            (fun x hx => hl' x (List.mem_cons_of_mem _ hx)) (by simpa using hrest)
          exact ⟨rfl, rfl⟩

/-- Words with `sep` between them, up to a stop symbol. -/
theorem Separable.intercalate {sep stop : β} (hne : sep ≠ stop) (h : Separable S enc)
    (hs : Spares stop S enc) :
    Separable {l : List α | ∀ a ∈ l, a ∈ S} (fun l => [sep].intercalate (l.map enc) ++ [stop]) := by
  -- the words after the first, each behind its separator
  have htail : Separable {l : List α | ∀ a ∈ l, a ∈ S}
      (fun l => l.flatMap (fun a => sep :: enc a) ++ [stop]) :=
    (h.cons sep).flatMap fun a _ => ⟨sep, enc a, rfl, hne⟩
  have hspell : ∀ (a : α) (l : List α), [sep].intercalate ((a :: l).map enc) =
      enc a ++ l.flatMap (fun a => sep :: enc a) := by
    intro a l
    induction l generalizing a with
    | nil => simp
    | cons b l ih =>
        rw [List.map_cons, List.map_cons, List.intercalate_cons_cons, ← List.map_cons, ih]
        simp
  have hstart : ∀ a ∈ S, ∀ l, ∃ c w, [sep].intercalate ((a :: l).map enc) = c :: w ∧ c ≠ stop := by
    intro a ha l
    obtain ⟨c, w, hw, hc⟩ := hs a ha
    exact ⟨c, w ++ l.flatMap (fun a => sep :: enc a), by rw [hspell, hw, List.cons_append], hc⟩
  intro l hl l' hl' r r' heq
  cases l with
  | nil =>
      cases l' with
      | nil => exact ⟨rfl, by simpa using heq⟩
      | cons b l' =>
          obtain ⟨c, w, hw, hc⟩ := hstart b (hl' b List.mem_cons_self) l'
          simp only [hw, List.map_nil, List.intercalate_nil, List.nil_append, List.cons_append,
            List.cons.injEq] at heq
          exact absurd heq.1.symm hc
  | cons a l =>
      cases l' with
      | nil =>
          obtain ⟨c, w, hw, hc⟩ := hstart a (hl a List.mem_cons_self) l
          simp only [hw, List.map_nil, List.intercalate_nil, List.nil_append, List.cons_append,
            List.cons.injEq] at heq
          exact absurd heq.1 hc
      | cons b l' =>
          simp only [hspell, List.append_assoc] at heq
          obtain ⟨rfl, hrest⟩ := h (hl a List.mem_cons_self) (hl' b List.mem_cons_self) heq
          obtain ⟨rfl, rfl⟩ := htail (fun x hx => hl x (List.mem_cons_of_mem _ hx))
            (fun x hx => hl' x (List.mem_cons_of_mem _ hx)) (by simpa using hrest)
          exact ⟨rfl, rfl⟩

end AegisOs.Lib.Code
