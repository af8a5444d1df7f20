import Conformance.Json.Shape
import Mathlib.Data.List.Basic
import Mathlib.Data.List.Nodup
import Mathlib.Data.List.Perm.Basic

/-!
# Records are taken apart as they were put together

What a writer puts into a record under distinct names comes out under those names, in the order in
which the reader asks for them, and a tag in front of a flat record comes off it. So the readers of
the types that are written as records are checked one field at a time.
-/

namespace Conformance

/-- A decoder that takes every element of a list takes the list. -/
theorem mapM_eq_some_map {α β : Type} {f : α → Option β} {g : α → β} {l : List α}
    (h : ∀ a ∈ l, f a = some (g a)) : l.mapM f = some (l.map g) := by
  induction l with
  | nil => rfl
  | cons a l ih =>
    obtain ⟨ha, hl⟩ := List.forall_mem_cons.1 h
    rw [List.mapM_cons, ha, ih hl]
    rfl

theorem mapM_map_eq_some {α β : Type} {f : β → Option α} {g : α → β} {l : List α}
    (h : ∀ a ∈ l, f (g a) = some a) : (l.map g).mapM f = some l := by
  have hcomp : l.mapM (f ∘ g) = some (l.map id) := mapM_eq_some_map h
  rw [List.mapM_map, hcomp, List.map_id]

namespace Json

variable {α : Type}

/-! ### Records -/

theorem members_record (ms : List (String × Json)) : (record ms).members = some ms := by
  rw [record, members]
  exact mapM_map_eq_some fun _ _ => rfl

theorem only_of_mem {ms : List (String × Json)} (h : (ms.map Prod.fst).Nodup) {m : String × Json}
    (hm : m ∈ ms) : only ms m.1 = some (some m.2) := by
  have hmem (x : String × Json) : x ∈ ms.filter (fun x => x.1 == m.1) ↔ x ∈ [m] := by
    rw [List.mem_filter, List.mem_singleton, beq_iff_eq]
    constructor
    · rintro ⟨hx, hname⟩
      exact List.inj_on_of_nodup_map h hx hm hname
    · rintro rfl
      exact ⟨hm, rfl⟩
  have hnodup := (List.Nodup.of_map _ h).filter (fun x => x.1 == m.1)
  have hfilter : ms.filter (fun x => x.1 == m.1) = [m] :=
    List.perm_singleton.1 ((List.perm_ext_iff_of_nodup hnodup (List.nodup_singleton m)).2 hmem)
  rw [only, hfilter]

/-- A record has the fields that it is written with. -/
theorem fields?_record {ms : List (String × Json)} {names : List String}
    (hnames : ms.map Prod.fst = names) (h : names.Nodup) :
    (record ms).fields? names = some (ms.map fun m => some m.2) := by
  subst hnames
  show (record ms).members.bind _ = _
  rw [members_record, Option.bind_some, List.mapM_map]
  exact mapM_eq_some_map fun m hm => only_of_mem h hm

theorem sound_record (ms : List (String × Json)) : (record ms).sound = ms.all (·.2.sound) := by
  rw [record, sound]
  induction ms with
  | nil => rfl
  | cons m ms ih =>
    rw [List.map_cons, soundMembers, ih, List.all_cons, Option.isSome_some, Bool.true_and]

/-! ### Flat records -/

/-- A sound value without items and members. -/
def Scalar (value : Json) : Prop := value.sound = true ∧ value.depth = 0

@[simp] theorem scalar_null : Scalar .null := ⟨rfl, rfl⟩

@[simp] theorem scalar_text (s : String) : (text s).Scalar := ⟨rfl, rfl⟩

theorem scalar_count {n : Nat} (h : n < Word.size) : (count n).Scalar := by
  have hdecimals : Number.decimals n ≤ 20 :=
    (Nat.length_toDigits_le_iff (by decide) (by decide)).2 (Nat.lt_trans h (by decide))
  refine ⟨?_, rfl⟩
  rw [count, sound, Number.finite, Number.fits, Int.natAbs_natCast, if_pos (.inr (by omega))]

theorem depth_record_le {ms : List (String × Json)} (h : ∀ m ∈ ms, m.2.Scalar) :
    (record ms).depth ≤ 1 := by
  rw [record, depth]
  induction ms with
  | nil => simp [depthMembers]
  | cons m ms ih =>
    obtain ⟨hm, hms⟩ := List.forall_mem_cons.1 h
    have := ih hms
    rw [List.map_cons, depthMembers, hm.2]
    omega

/-- A flat record with a tag in front is its tag and the record without it. -/
theorem tagged?_record {tag name : String} {ms : List (String × Json)} {outer : Nat}
    (hnames : (((tag, text name) :: ms).map Prod.fst).Nodup) (h : ∀ m ∈ ms, m.2.Scalar)
    (houter : outer + 1 < depthLimit) :
    (record ((tag, text name) :: ms)).tagged? tag outer = some (name, record ms) := by
  have hwhole : (record ((tag, text name) :: ms)).whole outer = true := by
    have hall : ∀ m ∈ (tag, text name) :: ms, m.2.Scalar :=
      List.forall_mem_cons.2 ⟨scalar_text name, h⟩
    have hdepth := depth_record_le hall
    rw [whole, sound_record, Bool.and_eq_true, decide_eq_true_eq, List.all_eq_true]
    exact ⟨fun m hm => (hall m hm).1, by omega⟩
  have honly : only ((tag, text name) :: ms) tag = some (some (text name)) :=
    only_of_mem hnames List.mem_cons_self
  have hrest : ((tag, text name) :: ms).filter (fun m => m.1 != tag) = ms := by
    have htag : tag ∉ ms.map Prod.fst := (List.nodup_cons.1 hnames).1
    rw [List.filter_cons_of_neg (by simp), List.filter_eq_self]
    intro m hm
    rw [bne_iff_ne]
    exact fun heq => htag (heq ▸ List.mem_map_of_mem hm)
  rw [tagged?, if_pos hwhole]
  · show (record _).members.bind _ = _
    rw [members_record, Option.bind_some]
    show (only _ tag).bind _ = _
    rw [honly, Option.bind_some]
    exact congrArg (fun rest => some (name, record rest)) hrest
  · rintro _ _ ⟨⟩

/-! ### Fields -/

theorem count?_count {n : Nat} (h : n < Word.size) : (count n).count? = some n := by
  rw [count, count?, if_pos ⟨by omega, by omega⟩, Int.toNat_natCast]

theorem optional?_getD_map {decode : Json → Option α} {encode : α → Json}
    (h : ∀ a, encode a ≠ .null) (t : Option α) (hdecode : ∀ a ∈ t, decode (encode a) = some a) :
    optional? decode ((t.map encode).getD .null) = some t := by
  cases t with
  | none => rfl
  | some a =>
    have hdecode := hdecode a rfl
    rw [Option.map_some, Option.getD_some, optional?.eq_2 _ _ (h a), hdecode, Option.map_some]

theorem list?_map {decode : Json → Option α} {encode : α → Json} {l : List α}
    (h : ∀ a ∈ l, decode (encode a) = some a) : list? decode (.array (l.map encode)) = some l := by
  rw [list?, mapM_map_eq_some h]

end Json
end Conformance
