/-!
# Texts in order

Strings compare by their characters, which is also how their UTF-8 octets compare. A set of strings
is a strictly increasing list; a table maps strings to values and lists its entries by strictly
increasing keys, so equal tables have equal lists of entries.
-/

namespace Conformance

namespace Text

/-- A strictly increasing list with `s` added. -/
def insert (s : String) : List String → List String
  | [] => [s]
  | t :: rest =>
    if s < t then s :: t :: rest
    else if s = t then t :: rest
    else t :: insert s rest

/-- The strictly increasing list of the given strings. -/
def setOf (texts : List String) : List String := texts.foldr insert []

/-- The strings in order, repetitions kept. -/
def sort (texts : List String) : List String := texts.mergeSort fun a b => decide (a ≤ b)

theorem lt_of_not_lt_of_ne {s t : String} (h : ¬ s < t) (hne : s ≠ t) : t < s := by
  rcases Decidable.em (t < s) with hlt | hlt
  · exact hlt
  · exact absurd (String.le_antisymm (String.not_lt.1 hlt) (String.not_lt.1 h)) hne

theorem mem_insert {s x : String} {texts : List String} :
    x ∈ insert s texts ↔ x = s ∨ x ∈ texts := by
  induction texts with
  | nil => simp [insert]
  | cons t rest ih =>
    rw [insert]
    split
    · simp
    · split
      · next h => subst h; simp
      · simp [ih, or_left_comm]

theorem mem_setOf {x : String} {texts : List String} : x ∈ setOf texts ↔ x ∈ texts := by
  induction texts with
  | nil => simp [setOf]
  | cons t rest ih =>
    show x ∈ insert t (setOf rest) ↔ _
    rw [mem_insert, ih, List.mem_cons]

theorem pairwise_insert {s : String} {texts : List String}
    (h : texts.Pairwise fun a b => a < b) : (insert s texts).Pairwise fun a b => a < b := by
  induction texts with
  | nil => simp [insert]
  | cons t rest ih =>
    have hrest := List.pairwise_cons.1 h
    rw [insert]
    split
    · next hlt =>
      refine List.pairwise_cons.2 ⟨fun x hx => ?_, h⟩
      rcases List.mem_cons.1 hx with rfl | hx
      · exact hlt
      · exact String.lt_trans hlt (hrest.1 x hx)
    · split
      · exact h
      · next hlt hne =>
        refine List.pairwise_cons.2 ⟨fun x hx => ?_, ih hrest.2⟩
        rcases mem_insert.1 hx with rfl | hx
        · exact lt_of_not_lt_of_ne hlt hne
        · exact hrest.1 x hx

theorem pairwise_setOf (texts : List String) : (setOf texts).Pairwise fun a b => a < b := by
  induction texts with
  | nil => simp [setOf]
  | cons t rest ih => exact pairwise_insert ih

end Text

/-- A map from strings to values. -/
structure Table (α : Type) where
  entries : List (String × α)
  increasing : entries.Pairwise fun a b => a.1 < b.1
  deriving Repr

namespace Table

variable {α : Type}

def empty : Table α := ⟨[], .nil⟩

instance : Inhabited (Table α) := ⟨empty⟩

@[ext] theorem ext {t u : Table α} (h : t.entries = u.entries) : t = u := by
  cases t; cases u; cases h; rfl

instance [DecidableEq α] : DecidableEq (Table α) := fun t u =>
  decidable_of_iff (t.entries = u.entries) ⟨ext, congrArg entries⟩

/-- Increasing entries with the value of `key` replaced by what `f` makes of it. -/
def alterEntries (key : String) (f : Option α → α) : List (String × α) → List (String × α)
  | [] => [(key, f none)]
  | (k, v) :: rest =>
    if key < k then (key, f none) :: (k, v) :: rest
    else if key = k then (k, f (some v)) :: rest
    else (k, v) :: alterEntries key f rest

theorem key_of_mem_alterEntries {key : String} {f : Option α → α} {e : String × α}
    {entries : List (String × α)} (h : e ∈ alterEntries key f entries) :
    e.1 = key ∨ ∃ e' ∈ entries, e'.1 = e.1 := by
  induction entries with
  | nil =>
    rw [alterEntries, List.mem_singleton] at h
    exact .inl (h ▸ rfl)
  | cons head rest ih =>
    obtain ⟨k, v⟩ := head
    rw [alterEntries] at h
    split at h
    · rcases List.mem_cons.1 h with rfl | h
      · exact .inl rfl
      · exact .inr ⟨e, h, rfl⟩
    · split at h
      · next hk =>
        rcases List.mem_cons.1 h with rfl | h
        · exact .inl hk.symm
        · exact .inr ⟨e, List.mem_cons_of_mem _ h, rfl⟩
      · rcases List.mem_cons.1 h with rfl | h
        · exact .inr ⟨_, List.mem_cons_self, rfl⟩
        · rcases ih h with hk | ⟨e', he', hk⟩
          · exact .inl hk
          · exact .inr ⟨e', List.mem_cons_of_mem _ he', hk⟩

theorem pairwise_alterEntries {key : String} {f : Option α → α} {entries : List (String × α)}
    (h : entries.Pairwise fun a b => a.1 < b.1) :
    (alterEntries key f entries).Pairwise fun a b => a.1 < b.1 := by
  induction entries with
  | nil => simp [alterEntries]
  | cons head rest ih =>
    obtain ⟨k, v⟩ := head
    have hrest := List.pairwise_cons.1 h
    rw [alterEntries]
    split
    · next hlt =>
      refine List.pairwise_cons.2 ⟨fun e he => ?_, h⟩
      rcases List.mem_cons.1 he with rfl | he
      · exact hlt
      · exact String.lt_trans hlt (hrest.1 e he)
    · split
      · exact List.pairwise_cons.2 ⟨hrest.1, hrest.2⟩
      · next hlt hne =>
        refine List.pairwise_cons.2 ⟨fun e he => ?_, ih hrest.2⟩
        rcases key_of_mem_alterEntries he with hk | ⟨e', he', hk⟩
        · show k < e.1
          rw [hk]
          exact Text.lt_of_not_lt_of_ne hlt hne
        · show k < e.1
          rw [← hk]
          exact hrest.1 e' he'

/-- The table with the value of `key` replaced by what `f` makes of it. -/
def alter (t : Table α) (key : String) (f : Option α → α) : Table α :=
  ⟨alterEntries key f t.entries, pairwise_alterEntries t.increasing⟩

def insert (t : Table α) (key : String) (value : α) : Table α := t.alter key fun _ => value

def find? (t : Table α) (key : String) : Option α := t.entries.lookup key

def keys (t : Table α) : List String := t.entries.map (·.1)

/-- The table of a list of entries, where a later value of a key replaces an earlier one. -/
def ofList (entries : List (String × α)) : Table α :=
  entries.foldl (fun t (key, value) => t.insert key value) empty

end Table

end Conformance
