import Conformance.Text.Order
import Mathlib.Data.List.Nodup
import Mathlib.Data.String.Basic
import Mathlib.Algebra.BigOperators.Group.List.Basic
import Mathlib.Algebra.GroupWithZero.Nat

/-!
# What a table maps its keys to

A table is known by `find?`: an entry is listed exactly if its key is mapped to its value, and two
tables that map every key alike are equal. Altering one key leaves the others alone, and changes a
sum over all values by what changed at that key.
-/

namespace Conformance.Table

variable {α : Type}

abbrev Increasing (entries : List (String × α)) : Prop := entries.Pairwise fun a b => a.1 < b.1

theorem lookup_cons_eq_ite {κ : Type} [BEq κ] [LawfulBEq κ] [DecidableEq κ] (key k : κ) (v : α)
    (rest : List (κ × α)) :
    ((k, v) :: rest).lookup key = if key = k then some v else rest.lookup key := by
  rw [List.lookup_cons]
  by_cases hk : key = k
  · simp [hk]
  · rw [beq_eq_false_iff_ne.2 hk, if_neg hk]

theorem lookup_eq_none_of_lt {key k : String} {v : α} {rest : List (String × α)}
    (h : Increasing ((k, v) :: rest)) (hlt : key < k) : ((k, v) :: rest).lookup key = none := by
  rw [List.lookup_eq_none_iff]
  intro e he
  have : key < e.1 := by
    rcases List.mem_cons.1 he with rfl | he
    · exact hlt
    · exact hlt.trans ((List.pairwise_cons.1 h).1 e he)
  simpa using this.ne

theorem lookup_eq_some_iff_mem_of_nodup {κ : Type} [BEq κ] [LawfulBEq κ] [DecidableEq κ]
    {entries : List (κ × α)} (h : (entries.map (·.1)).Nodup) {key : κ} {value : α} :
    entries.lookup key = some value ↔ (key, value) ∈ entries := by
  induction entries with
  | nil => simp
  | cons head rest ih =>
    obtain ⟨k, v⟩ := head
    obtain ⟨hhead, hrest⟩ := List.nodup_cons.1 h
    rw [lookup_cons_eq_ite, List.mem_cons, Prod.mk.injEq]
    by_cases hk : key = k
    · subst hk
      have hnot : (key, value) ∉ rest := fun hmem =>
        hhead (List.mem_map.2 ⟨_, hmem, rfl⟩)
      simp [hnot, eq_comm]
    · simp [hk, ih hrest]

theorem lookup_eq_some_iff_mem {entries : List (String × α)} (h : Increasing entries)
    {key : String} {value : α} : entries.lookup key = some value ↔ (key, value) ∈ entries :=
  lookup_eq_some_iff_mem_of_nodup (List.pairwise_map.2 (h.imp ne_of_lt))

theorem mem_entries_iff {t : Table α} {key : String} {value : α} :
    (key, value) ∈ t.entries ↔ t.find? key = some value :=
  (lookup_eq_some_iff_mem t.increasing).symm

theorem nodup_entries (t : Table α) : t.entries.Nodup :=
  t.increasing.imp fun h he => h.ne (congrArg Prod.fst he)

/-- Two tables that map every key alike are equal. -/
theorem ext_find? {t u : Table α} (h : ∀ key, t.find? key = u.find? key) : t = u := by
  have hmem : ∀ e, e ∈ t.entries ↔ e ∈ u.entries := fun ⟨key, value⟩ => by
    rw [mem_entries_iff, mem_entries_iff, h]
  refine Table.ext (List.Perm.eq_of_pairwise ?_ t.increasing u.increasing
    ((List.perm_ext_iff_of_nodup t.nodup_entries u.nodup_entries).2 hmem))
  intro a b _ _ hab hba
  exact absurd hab hba.asymm

theorem lookup_alterEntries (key : String) (f : Option α → α) (k : String)
    {entries : List (String × α)} (h : Increasing entries) :
    (alterEntries key f entries).lookup k
      = if k = key then some (f (entries.lookup key)) else entries.lookup k := by
  induction entries with
  | nil => rw [alterEntries, lookup_cons_eq_ite, List.lookup_nil, List.lookup_nil]
  | cons head rest ih =>
    obtain ⟨k', v⟩ := head
    rw [alterEntries]
    split
    · next hlt => rw [lookup_cons_eq_ite, lookup_eq_none_of_lt h hlt]
    · split
      · next heq =>
        subst heq
        simp only [lookup_cons_eq_ite, if_true]
        split <;> rfl
      · next hne =>
        rw [lookup_cons_eq_ite, ih (List.pairwise_cons.1 h).2, lookup_cons_eq_ite,
          lookup_cons_eq_ite, if_neg hne]
        by_cases hk : k = k'
        · rw [if_pos hk, if_pos hk, if_neg (hk ▸ Ne.symm hne)]
        · rw [if_neg hk, if_neg hk]

/-- Only the altered key is mapped anew. -/
theorem find?_alter (t : Table α) (key : String) (f : Option α → α) (k : String) :
    (t.alter key f).find? k = if k = key then some (f (t.find? key)) else t.find? k :=
  lookup_alterEntries key f k t.increasing

theorem find?_insert (t : Table α) (key : String) (value : α) (k : String) :
    (t.insert key value).find? k = if k = key then some value else t.find? k :=
  find?_alter t key _ k

/-- Where the value is a function of the key, a table maps just the keys it is made of. -/
theorem find?_ofList_map (f : String → α) (keys : List String) (k : String) :
    (ofList (keys.map fun key => (key, f key))).find? k
      = if k ∈ keys then some (f k) else none := by
  have hfold (t : Table α) :
      ((keys.map fun key => (key, f key)).foldl (fun t e => t.insert e.1 e.2) t).find? k
        = if k ∈ keys then some (f k) else t.find? k := by
    induction keys generalizing t with
    | nil => simp
    | cons key keys ih =>
      rw [List.map_cons, List.foldl_cons, ih, find?_insert]
      by_cases hk : k = key
      · simp [hk]
      · simp [hk]
  exact hfold empty

theorem alterEntries_of_lt {key : String} {f : Option α → α} {entries : List (String × α)}
    (h : ∀ e ∈ entries, e.1 < key) : alterEntries key f entries = entries ++ [(key, f none)] := by
  induction entries with
  | nil => rfl
  | cons head rest ih =>
    obtain ⟨hhead, hrest⟩ := List.forall_mem_cons.1 h
    rw [alterEntries, if_neg hhead.asymm, if_neg hhead.ne', ih hrest, List.cons_append]

/-- The table of its own entries. -/
theorem ofList_entries (t : Table α) : ofList t.entries = t := by
  have hfold (t : Table α) (entries : List (String × α)) (h : Increasing (t.entries ++ entries)) :
      (entries.foldl (fun t e => t.insert e.1 e.2) t).entries = t.entries ++ entries := by
    induction entries generalizing t with
    | nil => rw [List.foldl_nil, List.append_nil]
    | cons e entries ih =>
      have hlast : ∀ e' ∈ t.entries, e'.1 < e.1 :=
        fun e' he' => (List.pairwise_append.1 h).2.2 e' he' e List.mem_cons_self
      have hinsert : (t.insert e.1 e.2).entries = t.entries ++ [e] := alterEntries_of_lt hlast
      rw [List.foldl_cons, ih, hinsert, List.append_assoc]
      · rfl
      · rwa [hinsert, List.append_assoc]
  exact Table.ext (hfold empty t.entries t.increasing)

theorem sum_alterEntries (key : String) (f : Option α → α) (g : α → Nat)
    {entries : List (String × α)} (h : Increasing entries) :
    ((alterEntries key f entries).map fun e => g e.2).sum
        + ((entries.lookup key).map g).getD 0
      = (entries.map fun e => g e.2).sum + g (f (entries.lookup key)) := by
  induction entries with
  | nil => simp [alterEntries]
  | cons head rest ih =>
    obtain ⟨k, v⟩ := head
    rw [alterEntries]
    split
    · next hlt =>
      rw [lookup_eq_none_of_lt h hlt]
      simp only [List.map_cons, List.sum_cons, Option.map_none, Option.getD_none]
      omega
    · split
      · next heq =>
        subst heq
        simp only [List.lookup_cons_self, List.map_cons, List.sum_cons, Option.map_some,
          Option.getD_some]
        omega
      · next hne =>
        have := ih (List.pairwise_cons.1 h).2
        rw [lookup_cons_eq_ite, if_neg hne]
        simp only [List.map_cons, List.sum_cons]
        omega

/-- A sum over the values changes by what changes at the altered key. -/
theorem sum_alter (t : Table α) (key : String) (f : Option α → α) (g : α → Nat) :
    ((t.alter key f).entries.map fun e => g e.2).sum + ((t.find? key).map g).getD 0
      = (t.entries.map fun e => g e.2).sum + g (f (t.find? key)) :=
  sum_alterEntries key f g t.increasing

end Conformance.Table
