import Conformance.Proofs.Case.Entries
import Mathlib.Data.List.Perm.Basic

/-!
# What a tag does, apart from the fields it does it to

A tag has one effect on the fields, whatever they are, and only a tag `negative` can have none: its
value may be no expectation, which is an error wherever the tag stands. Two effects can be swapped
unless they set the same field, so tags can be put in any order unless a field is set twice.
-/

namespace Conformance.TagHeader

/-! ### Fields and effects -/

/-- A field that holds a text. -/
inductive TextField where
  | name
  | reference
  | assertion
  | description
  deriving DecidableEq, Repr

/-- The tag of a field. -/
def TextField.tag : TextField → String
  | .name => "name"
  | .reference => "section"
  | .assertion => "assertion"
  | .description => "description"

/-- The fields with the text of one set. -/
def TextField.set (value : Option String) (f : Fields) : TextField → Fields
  | .name => { f with name? := value }
  | .reference => { f with reference? := value }
  | .assertion => { f with assertion? := value }
  | .description => { f with description? := value }

/-- What a tag does to the fields. -/
inductive Effect where
  | text (field : TextField) (value : Option String)
  | negative (e : Expectation)
  | strict
  | sloppy
  | nothing

namespace Effect

def apply (f : Fields) : Effect → Fields
  | text field value => field.set value f
  | negative e => { f with expectation? := some e }
  | strict => { f with strict := true }
  | sloppy => { f with sloppy := true }
  | nothing => f

/-- The name of the tag that sets the same field, if a field is set. -/
def sets? : Effect → Option String
  | text field _ => some field.tag
  | negative _ => some "negative"
  | _ => none

/-- Effects can be swapped unless they set the same field. -/
theorem apply_comm {x y : Effect} (h : x.sets? ≠ y.sets? ∨ x.sets? = none) (f : Fields) :
    apply (apply f x) y = apply (apply f y) x := by
  cases x with
  | text field value =>
    cases y with
    | text field' value' =>
      cases field <;> cases field' <;> first | rfl | simp [sets?] at h
    | negative | strict | sloppy | nothing => cases field <;> rfl
  | negative e =>
    cases y with
    | text field => cases field <;> rfl
    | negative => simp [sets?] at h
    | strict | sloppy | nothing => rfl
  | strict | sloppy | nothing =>
    cases y with
    | text field => cases field <;> rfl
    | negative | strict | sloppy | nothing => rfl

end Effect

/-- The value without semicolons, if there is one. -/
def Tag.value? (t : Tag) : Option String :=
  if t.text.isEmpty then none else some (String.ofList t.text)

def Tag.effect (t : Tag) : Except HeaderError Effect :=
  match t.name with
  | "name" => .ok (.text .name t.value?)
  | "section" => .ok (.text .reference t.value?)
  | "assertion" => .ok (.text .assertion t.value?)
  | "description" => .ok (.text .description t.value?)
  | "negative" => (expectation t.text).map .negative
  | "onlyStrict" => .ok .strict
  | "strict_only" => .ok .strict
  | "noStrict" => .ok .sloppy
  | _ => .ok .nothing

theorem Fields.add_eq_effect (f : Fields) (t : Tag) : f.add t = t.effect.map (Effect.apply f) := by
  rw [add]
  split
  case h_5 hname =>
    rw [Tag.effect, hname]
    cases expectation t.text <;> rfl
  case h_9 =>
    rw [Tag.effect]
    split <;> first | rfl | contradiction
  all_goals
    next hname =>
      rw [Tag.effect, hname]
      rfl

theorem Tag.sets?_effect {t : Tag} {x : Effect} (h : t.effect = .ok x) :
    x.sets? = if t.name ∈ fieldNames then some t.name else none := by
  rw [effect] at h
  split at h
  case h_5 hname =>
    rw [hname]
    cases hvalue : expectation t.text with
    | error e =>
      rw [hvalue] at h
      cases h
    | ok e =>
      rw [hvalue] at h
      cases h
      rfl
  case h_9 hname =>
    cases h
    rw [if_neg]
    · rfl
    · simp only [fieldNames, List.mem_cons, List.not_mem_nil, or_false, not_or]
      tauto
  all_goals
    next hname =>
      cases h
      rw [hname]
      rfl

theorem Tag.name_of_effect_eq_error {t : Tag} {e : HeaderError} (h : t.effect = .error e) :
    t.name = "negative" := by
  rw [effect] at h
  split at h
  case h_5 hname => exact hname
  all_goals cases h

/-- Tags can be swapped, errors included, unless they have the same name and set a field. -/
theorem Fields.add_comm {t t' : Tag} (h : t.name = t'.name → t.name ∉ fieldNames) (f : Fields) :
    (f.add t >>= fun f => f.add t') = (f.add t' >>= fun f => f.add t) := by
  simp only [add_eq_effect]
  cases ht : t.effect with
  | error e =>
    cases ht' : t'.effect with
    | error e' =>
      have hname := Tag.name_of_effect_eq_error ht
      have hsame := h (hname.trans (Tag.name_of_effect_eq_error ht').symm)
      exact absurd (by rw [hname]; decide) hsame
    | ok y => rfl
  | ok x =>
    cases ht' : t'.effect with
    | error e' => rfl
    | ok y =>
      have hsets : x.sets? ≠ y.sets? ∨ x.sets? = none := by
        rw [Tag.sets?_effect ht, Tag.sets?_effect ht']
        by_cases hmem : t.name ∈ fieldNames
        · refine .inl fun heq => ?_
          rw [if_pos hmem] at heq
          split at heq
          · exact h (Option.some.inj heq) hmem
          · cases heq
        · exact .inr (if_neg hmem)
      exact congrArg Except.ok (Effect.apply_comm hsets f)

/-! ### Permutations -/

/-- One tag more, unless there was an error before. -/
def addAfter (z : Except HeaderError Fields) (t : Tag) : Except HeaderError Fields :=
  z >>= fun f => f.add t

theorem foldl_addAfter (ts : List Tag) (z : Except HeaderError Fields) :
    ts.foldl addAfter z = z >>= fun f => ts.foldlM Fields.add f := by
  induction ts generalizing z with
  | nil => cases z <;> rfl
  | cons t ts ih =>
    rw [List.foldl_cons, ih]
    cases z <;> rfl

theorem metadata_perm {ts ts' : List Tag} (h : ts.Perm ts')
    (honce : ∀ t ∈ ts, ∀ t' ∈ ts, t.name = t'.name → t.name ∈ fieldNames → t = t') :
    metadata ts = metadata ts' := by
  have hcomm : ∀ t ∈ ts, ∀ t' ∈ ts, ∀ z,
      addAfter (addAfter z t) t' = addAfter (addAfter z t') t := by
    intro t ht t' ht' z
    by_cases heq : t = t'
    · rw [heq]
    · cases z with
      | error e => rfl
      | ok f => exact Fields.add_comm (fun hname hfield => heq (honce t ht t' ht' hname hfield)) f
  have hfold := h.foldl_eq' hcomm (Except.ok {})
  rw [foldl_addAfter, foldl_addAfter] at hfold
  exact congrArg (· >>= Fields.metadata) hfold

end Conformance.TagHeader
