import Conformance.CommandLine.Reading
import Conformance.Proofs.Text.Utf8
import Mathlib.Data.List.Forall2

/-!
# What the words of a command say

The words of a command say items one after the other: a positional word, or an option, whose value
is the word after the one that calls it. A word is settled only when the next item comes, so what
was read is not what the words before have said. What it settles to is: after each item that is what
the items so far say, and it does not depend on how they were spelled.
-/

namespace Conformance.CommandLine

open Text.Utf8 (octets)

/-! ### Items and their words -/

/-- The word does not start as options do. -/
def Unhyphened (word : List UInt8) : Prop := word.head? ≠ some hyphen

instance (word : List UInt8) : Decidable (Unhyphened word) :=
  inferInstanceAs (Decidable (word.head? ≠ some hyphen))

/-- One thing that is said to a command. -/
inductive Item where
  | positional (word : List UInt8)
  /-- An option with its value; a switch has an empty one. -/
  | option (k : Key) (value : List UInt8)
  deriving DecidableEq, Repr

namespace Item

def positional? : Item → Option (List UInt8)
  | .positional word => some word
  | .option _ _ => none

/-- The option and its value. -/
def entry? : Item → Option (Key × List UInt8)
  | .positional _ => none
  | .option k value => some (k, value)

/-- The value that the item gives the option `k`. -/
def value? (k : Key) : Item → Option (List UInt8)
  | .positional _ => none
  | .option k' value => if k' = k then some value else none

theorem filterMap_value?_map_option (k k' : Key) (values : List (List UInt8)) :
    (values.map (Item.option k')).filterMap (value? k) = if k' = k then values else [] := by
  rw [List.filterMap_map]
  by_cases hk : k' = k <;> simp [Function.comp_def, value?, hk]

theorem filterMap_value?_flatMap {keys : List Key} (hnodup : keys.Nodup)
    (values : Key → List (List UInt8)) (k : Key) :
    (keys.flatMap fun k' => (values k').map (Item.option k')).filterMap (value? k)
      = if k ∈ keys then values k else [] := by
  induction keys with
  | nil => rfl
  | cons k' keys ih =>
    obtain ⟨hnot, hnodup⟩ := List.nodup_cons.1 hnodup
    rw [List.flatMap_cons, List.filterMap_append, filterMap_value?_map_option, ih hnodup]
    by_cases hk : k' = k
    · subst hk
      simp [hnot]
    · simp [hk, Ne.symm hk]

end Item

/-- A word calls an option by its name or by its letter. -/
inductive Key.CalledBy (k : Key) : List UInt8 → Prop where
  | name : CalledBy k (octets ("--" ++ k.long))
  | letter {c : Char} (h : k.short? = some c) : CalledBy k (octets (String.ofList ['-', c]))

/-- The words that say an item. -/
inductive Item.SaidBy : Item → List (List UInt8) → Prop where
  | positional (word : List UInt8) : SaidBy (.positional word) [word]
  | switch {k : Key} {word : List UInt8} (hkind : k.takesValue = false) (hword : k.CalledBy word) :
      SaidBy (.option k []) [word]
  | option {k : Key} {word : List UInt8} (hkind : k.takesValue = true) (hword : k.CalledBy word)
      (value : List UInt8) : SaidBy (.option k value) [word, value]

theorem Word.ofOctets_of_unhyphened {word : List UInt8} (h : Unhyphened word) :
    Word.ofOctets word = .plain := by
  cases word with
  | nil => rfl
  | cons first rest =>
    unfold ofOctets
    refine if_neg ?_
    rintro rfl
    exact h rfl

theorem Word.ofOctets_name (k : Key) :
    Word.ofOctets (octets ("--" ++ k.long)) = .long (octets k.long) none := by
  cases k <;> decide

theorem Word.ofOctets_letter {k : Key} {c : Char} (h : k.short? = some c) :
    Word.ofOctets (octets (String.ofList ['-', c])) = .cluster [c.toUInt8] := by
  cases k <;> cases h <;> decide

theorem Key.hasName_octets (k k' : Key) : k'.hasName (octets k.long) = true → k' = k := by
  cases k <;> cases k' <;> decide

theorem Key.hasLetter_toUInt8 {k : Key} {c : Char} (h : k.short? = some c) (k' : Key) :
    k'.hasLetter c.toUInt8 = true → k' = k := by
  cases k <;> cases h <;> cases k' <;> decide

theorem find?_eq_some_of_unique {keys : List Key} {p : Key → Bool} {k : Key} (hk : k ∈ keys)
    (hp : p k = true) (hunique : ∀ k', p k' = true → k' = k) : keys.find? p = some k := by
  cases hfind : keys.find? p with
  | none => exact absurd hp (List.find?_eq_none.1 hfind k hk)
  | some k' => rw [hunique k' (List.find?_some hfind)]

/-- The command takes the item, if there is room for it. -/
def Grammar.Takes (g : Grammar) : Item → Prop
  | .positional word => word ≠ [] ∧ Unhyphened word
  | .option k value => k ∈ g.keys ∧ (k.takesValue = true ∨ k.kind = .switch) ∧
      k.kind.check value = .ok () ∧ (k = .engineArg ∨ Unhyphened value)

namespace Reading

variable {g : Grammar} {r s : Reading} {k : Key}

/-! ### What is pending and what it settles to -/

/-- The reading with one item more. -/
def add (r : Reading) : Item → Reading
  | .positional word => { r with positionals := r.positionals ++ [word] }
  | .option k value => { r with values := r.values ++ [(k, value)] }

/-- What was read leaves room for the item. -/
def HasRoom (g : Grammar) (r : Reading) : Item → Prop
  | .positional _ => r.positionals.length < g.positionals
  | .option k _ => k.kind = .texts ∨ r.has k = false

/-- Nothing is pending, and options may follow. -/
def Ready (r : Reading) : Prop := r.pending = .nothing ∧ r.trailing = false

/-- Options may follow, and `s` is what was read when all of it is settled. -/
structure SettlesTo (r s : Reading) : Prop where
  settle_eq : r.settle = .ok s
  trailing : r.trailing = false
  positionalCount_eq : r.positionalCount = s.positionals.length

theorem take_eq_ok {value : List UInt8} (hroom : k.kind = .texts ∨ r.has k = false)
    (hcheck : k.kind.check value = .ok ()) : r.take k value = .ok (r.add (.option k value)) := by
  have hfirst : (k.kind != .texts && r.has k) = false := by
    rcases hroom with hkind | hhas
    · rw [hkind]
      rfl
    · rw [hhas, Bool.and_false]
  rw [take, hfirst, hcheck]
  rfl

theorem Ready.add (h : s.Ready) (i : Item) : (s.add i).Ready := by
  cases i <;> exact h

theorem Ready.settlesTo_self (h : s.Ready) : s.SettlesTo s := by
  obtain ⟨hpending, htrailing⟩ := h
  refine ⟨?_, htrailing, ?_⟩
  · rw [settle, hpending]
  · rw [positionalCount, hpending]

theorem Ready.settlesTo_value (h : s.Ready) {value : List UInt8}
    (hroom : k.kind = .texts ∨ s.has k = false) (hcheck : k.kind.check value = .ok ()) :
    SettlesTo { s with pending := .value k value } (s.add (.option k value)) := by
  have hsame : { s with pending := .nothing } = s := by rw [← h.1]
  refine ⟨?_, h.2, rfl⟩
  rw [settle]
  dsimp only
  rw [hsame]
  exact take_eq_ok hroom hcheck

theorem Ready.settlesTo_positional (h : s.Ready) {word : List UInt8} (hne : word ≠ []) :
    SettlesTo { s with pending := .positional word } (s.add (.positional word)) := by
  have hcheck : Kind.path.check word = .ok () := if_neg (by simpa using hne)
  refine ⟨?_, h.2, ?_⟩
  · rw [settle]
    dsimp only
    rw [hcheck, ← h.1]
    rfl
  · rw [positionalCount, Reading.add, List.length_append]
    rfl

theorem SettlesTo.ne_awaiting (h : r.SettlesTo s) (k : Key) : r.pending ≠ .awaiting k := by
  intro hpending
  have hsettle := h.settle_eq
  rw [settle, hpending] at hsettle
  cases hsettle

/-! ### One word -/

/-- If no option waits for its value, a word is read by how it looks. -/
theorem SettlesTo.step_eq (h : r.SettlesTo s) (word : List UInt8) :
    r.step g word = match Word.ofOctets word with
      | .escape => .ok { r with trailing := true }
      | .long name value? =>
        match g.keys.find? (·.hasName name) with
        | none => .error .unknownArgument
        | some k =>
          if k.takesValue then r.option k value?
          else if value?.isSome then .error .tooManyValues
          else r.switch k
      | .cluster letters => r.cluster g letters
      | .plain => r.positional g word := by
  rw [step, h.trailing]
  cases hpending : r.pending with
  | awaiting k => exact absurd hpending (h.ne_awaiting k)
  | nothing | value | positional => cases Word.ofOctets word <;> rfl

/-- An option is called by its name and by its letter alike. -/
theorem SettlesTo.step_eq_of_calledBy (h : r.SettlesTo s) (hk : k ∈ g.keys) {word : List UInt8}
    (hword : k.CalledBy word) :
    r.step g word = if k.takesValue then r.option k none else r.switch k := by
  cases hword with
  | name =>
    have hfind : g.keys.find? (·.hasName (octets k.long)) = some k :=
      find?_eq_some_of_unique hk (beq_self_eq_true _) k.hasName_octets
    rw [h.step_eq, Word.ofOctets_name]
    dsimp only
    rw [hfind]
    rfl
  | @letter c hc =>
    have hletter : k.hasLetter c.toUInt8 = true := by
      rw [Key.hasLetter, hc]
      exact beq_self_eq_true _
    have hfind : g.keys.find? (·.hasLetter c.toUInt8) = some k :=
      find?_eq_some_of_unique hk hletter (Key.hasLetter_toUInt8 hc)
    rw [h.step_eq, Word.ofOctets_letter hc]
    dsimp only
    rw [cluster, hfind]
    dsimp only
    split
    · rfl
    · exact bind_pure (r.switch k)

theorem SettlesTo.step_switch (h : r.SettlesTo s) (hk : k ∈ g.keys) {word : List UInt8}
    (hword : k.CalledBy word) (hkind : k.kind = .switch) : r.step g word = s.take k [] := by
  have hvalue : k.takesValue = false := by rw [Key.takesValue, hkind]
  rw [h.step_eq_of_calledBy hk hword, hvalue, if_neg Bool.false_ne_true, switch, h.settle_eq, hkind]
  rfl

theorem SettlesTo.step_option (h : r.SettlesTo s) (hk : k ∈ g.keys) {word : List UInt8}
    (hword : k.CalledBy word) (hkind : k.takesValue = true) :
    r.step g word = .ok { s with pending := .awaiting k } := by
  rw [h.step_eq_of_calledBy hk hword, if_pos hkind, option, h.settle_eq]
  rfl

theorem SettlesTo.step_positional (h : r.SettlesTo s) {word : List UInt8} (hplain : Unhyphened word)
    (hroom : s.positionals.length < g.positionals) :
    r.step g word = .ok { s with pending := .positional word } := by
  have hcount : ¬ g.positionals ≤ r.positionalCount := by
    rw [h.positionalCount_eq]
    exact Nat.not_le.2 hroom
  rw [h.step_eq, Word.ofOctets_of_unhyphened hplain]
  dsimp only
  rw [positional, if_neg hcount, h.settle_eq]
  rfl

/-- The word after an option is its value, and an argument of the engine may look like anything. -/
theorem Ready.step_awaiting (h : s.Ready) {value : List UInt8}
    (hvalue : k = .engineArg ∨ Unhyphened value) :
    ({ s with pending := .awaiting k } : Reading).step g value
      = .ok { s with pending := .value k value } := by
  rw [step, if_neg (Bool.eq_false_iff.1 h.2)]
  rcases hvalue with rfl | hplain
  · rfl
  · rw [Word.ofOctets_of_unhyphened hplain]
    cases k <;> rfl

/-! ### One item -/

/-- The words of an item are read as that item, whatever is pending before them. -/
theorem SettlesTo.exists_foldlM_step {i : Item} {words : List (List UInt8)} (h : r.SettlesTo s)
    (hready : s.Ready) (htakes : g.Takes i) (hroom : s.HasRoom g i) (hwords : i.SaidBy words) :
    ∃ r', words.foldlM (step g) r = .ok r' ∧ r'.SettlesTo (s.add i) := by
  cases hwords with
  | positional word =>
    obtain ⟨hne, hplain⟩ := htakes
    refine ⟨_, ?_, hready.settlesTo_positional hne⟩
    rw [List.foldlM_cons, h.step_positional hplain hroom]
    rfl
  | @switch k word hvalue hword =>
    obtain ⟨hk, htaken, hcheck, -⟩ := htakes
    have hkind : k.kind = .switch := htaken.resolve_left (by rw [hvalue]; exact Bool.false_ne_true)
    refine ⟨_, ?_, (hready.add (.option k [])).settlesTo_self⟩
    rw [List.foldlM_cons, h.step_switch hk hword hkind, take_eq_ok hroom hcheck]
    rfl
  | @option k word hkind hword value =>
    obtain ⟨hk, -, hcheck, hvalue⟩ := htakes
    refine ⟨_, ?_, hready.settlesTo_value hroom hcheck⟩
    rw [List.foldlM_cons, h.step_option hk hword hkind]
    show [value].foldlM (step g) { s with pending := .awaiting k } = _
    rw [List.foldlM_cons, hready.step_awaiting hvalue]
    rfl

/-! ### All items -/

/-- What the items say. -/
def ofItems (items : List Item) : Reading :=
  { start with
    values := items.filterMap Item.entry?
    positionals := items.filterMap Item.positional? }

theorem ofItems_concat (items : List Item) (i : Item) :
    ofItems (items ++ [i]) = (ofItems items).add i := by
  cases i <;> simp [ofItems, add, Item.entry?, Item.positional?]

theorem ready_ofItems (items : List Item) : (ofItems items).Ready := ⟨rfl, rfl⟩

theorem valuesOf_ofItems (items : List Item) (k : Key) :
    (ofItems items).valuesOf k = items.filterMap (Item.value? k) := by
  rw [valuesOf, ofItems]
  induction items with
  | nil => rfl
  | cons i items ih =>
    cases i with
    | positional word => exact ih
    | option k' value =>
      by_cases hk : k' = k <;> simpa [Item.entry?, Item.value?, hk] using ih

theorem value?_eq_head? (r : Reading) (k : Key) : r.value? k = (r.valuesOf k).head? := by
  rw [value?, valuesOf]
  induction r.values with
  | nil => rfl
  | cons e rest ih =>
    obtain ⟨k', value⟩ := e
    by_cases hk : k' = k
    · simp [hk]
    · have hkey : (k == k') = false := beq_eq_false_iff_ne.2 (Ne.symm hk)
      simpa [List.lookup_cons, hkey, hk] using ih

theorem has_eq_not_isEmpty (r : Reading) (k : Key) : r.has k = !(r.valuesOf k).isEmpty := by
  rw [has, valuesOf, List.isEmpty_map]
  induction r.values with
  | nil => rfl
  | cons e rest ih =>
    rw [List.any_cons, List.filter_cons, ih]
    cases e.1 == k <;> rfl

end Reading

/-- The command takes the items together: as many positional words as it has, and no option twice
that may be given only once. -/
structure Grammar.Admits (g : Grammar) (items : List Item) : Prop where
  takes : ∀ i ∈ items, g.Takes i
  once : ∀ k : Key, k.kind ≠ .texts → (items.filterMap (Item.value? k)).length ≤ 1
  positionals : (items.filterMap Item.positional?).length = g.positionals

variable {g : Grammar}

/-- Items that a command takes together leave room for each of them. -/
theorem Grammar.Admits.hasRoom {said rest : List Item} {i : Item}
    (h : g.Admits (said ++ i :: rest)) : (Reading.ofItems said).HasRoom g i := by
  cases i with
  | positional word =>
    have hall := h.positionals
    have hword : Item.positional? (.positional word) = some word := rfl
    rw [List.filterMap_append, List.filterMap_cons_some hword, List.length_append,
      List.length_cons] at hall
    show (said.filterMap Item.positional?).length < g.positionals
    omega
  | option k value =>
    by_cases hkind : k.kind = .texts
    · exact .inl hkind
    · have honce := h.once k hkind
      have hvalue : Item.value? k (.option k value) = some value := if_pos rfl
      rw [List.filterMap_append, List.filterMap_cons_some hvalue, List.length_append,
        List.length_cons] at honce
      have hnone : (said.filterMap (Item.value? k)).length = 0 := by omega
      right
      rw [Reading.has_eq_not_isEmpty, Reading.valuesOf_ofItems,
        List.eq_nil_of_length_eq_zero hnone]
      rfl

/-- The words of further items add those items to what was read. -/
theorem Reading.SettlesTo.exists_foldlM_flatten {said items : List Item}
    {pieces : List (List (List UInt8))} (hpieces : List.Forall₂ Item.SaidBy items pieces)
    (h : g.Admits (said ++ items)) {r : Reading} (hr : r.SettlesTo (ofItems said)) :
    ∃ r', pieces.flatten.foldlM (step g) r = .ok r' ∧ r'.SettlesTo (ofItems (said ++ items)) := by
  -- along the items, with `said` what was said before: room for an item depends on it
  induction hpieces generalizing said r with
  | nil =>
    rw [List.append_nil]
    exact ⟨r, rfl, hr⟩
  | @cons i words items pieces hwords _ ih =>
    obtain ⟨r₁, hfirst, hr₁⟩ := hr.exists_foldlM_step (ready_ofItems said)
      (h.takes i (by simp)) h.hasRoom hwords
    rw [← ofItems_concat] at hr₁
    rw [List.append_cons] at h ⊢
    obtain ⟨r₂, hrest, hr₂⟩ := ih h hr₁
    refine ⟨r₂, ?_, hr₂⟩
    rw [List.flatten_cons, List.foldlM_append, hfirst]
    exact hrest

/-- Items that a command takes are read from their words, in whatever order they come. -/
theorem Reading.ofWords_flatten {items : List Item} {pieces : List (List (List UInt8))}
    (h : g.Admits items) (hpieces : List.Forall₂ Item.SaidBy items pieces) :
    ofWords g pieces.flatten = .ok (ofItems items) := by
  have hstart : start.SettlesTo (ofItems []) := (ready_ofItems []).settlesTo_self
  obtain ⟨r, hread, hr⟩ := hstart.exists_foldlM_flatten hpieces h
  have hall : ¬ (ofItems ([] ++ items)).positionals.length < g.positionals :=
    Nat.not_lt.2 (Nat.le_of_eq h.positionals.symm)
  rw [ofWords, hread]
  dsimp only [bind, Except.bind]
  rw [hr.settle_eq]
  exact if_neg hall

end Conformance.CommandLine
