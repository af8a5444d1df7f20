import Conformance.Discovery
import Conformance.Proofs.Text.WellFormed
import Mathlib.Data.List.Lex
import Mathlib.Data.String.Basic
import Mathlib.Order.Defs.LinearOrder

/-!
# Paths below a directory

A path that goes on with a name has the parts it had and that name, however the directory was
spelled: its spelling may be empty, end in a slash or go through dots. So what is compared, and what
a name ends in, depends on the names below the directory alone.

Paths are ordered by their parts, and no two different paths are level: what stands in path order
stands in one order.
-/

namespace Conformance

/-- The name may stand in a directory: it is not empty, goes neither here nor up, and has no slash
and no NUL in it. -/
structure IsFileName (name : FileName) : Prop where
  nonempty : name ≠ []
  not_here : name ≠ [Path.dot]
  not_up : name ≠ [Path.dot, Path.dot]
  no_slash : Path.slash ∉ name
  no_nul : 0 ∉ name

instance (name : FileName) : Decidable (IsFileName name) :=
  decidable_of_iff (name ≠ [] ∧ name ≠ [Path.dot] ∧ name ≠ [Path.dot, Path.dot] ∧
      Path.slash ∉ name ∧ 0 ∉ name)
    ⟨fun ⟨h1, h2, h3, h4, h5⟩ => ⟨h1, h2, h3, h4, h5⟩, fun h => ⟨h.1, h.2, h.3, h.4, h.5⟩⟩

/-- The name is that of a case: something before `.js`, and no fixture, whose name is a text. -/
def IsCaseName (name : FileName) : Prop :=
  (∃ stem, stem ≠ [] ∧ name = stem ++ Text.Utf8.octets ".js") ∧
    ¬ ∃ front : String, name = Text.Utf8.octets (front ++ "_FIXTURE.js")

namespace Path

/-- The path that goes on from `p` with names. -/
def descend (p : Path) (names : List FileName) : Path := names.foldl join p

@[simp] theorem text_ofText (s : String) : (ofText s).text = s := Text.Utf8.lossyText_octets s

/-! ### Segments -/

theorem segments_ne_nil (p : Path) : p.segments ≠ [] := List.splitOn_ne_nil _ _

theorem segments_mk_append (l m : List UInt8) :
    (⟨l ++ slash :: m⟩ : Path).segments = (⟨l⟩ : Path).segments ++ (⟨m⟩ : Path).segments :=
  List.splitOn_append_cons_self ..

theorem segments_of_no_slash {name : FileName} (h : slash ∉ name) :
    (⟨name⟩ : Path).segments = [name] := List.splitOn_eq_singleton h

/-- A name goes on from what `p` has in front of its last slash, or from all of it. -/
theorem exists_segments_join (p : Path) {name : FileName} (hname : slash ∉ name) :
    ∃ front, (p.join name).segments = front ++ [name] ∧
      (p.segments = front ++ [[]] ∨ p.segments = front ∧ p.octets ≠ []) := by
  obtain ⟨octets⟩ := p
  rw [join]
  split
  · next hempty =>
    rw [List.isEmpty_iff] at hempty
    subst hempty
    exact ⟨[], segments_of_no_slash hname, .inl rfl⟩
  · next hempty =>
    rw [List.isEmpty_iff] at hempty
    split
    · next hslash =>
      obtain ⟨l, rfl⟩ := List.getLast?_eq_some_iff.1 hslash
      refine ⟨(⟨l⟩ : Path).segments, ?_, .inl (segments_mk_append l [])⟩
      dsimp only
      rw [List.append_assoc, List.singleton_append, segments_mk_append, segments_of_no_slash hname]
    · refine ⟨(⟨octets⟩ : Path).segments, ?_, .inr ⟨rfl, hempty⟩⟩
      dsimp only
      rw [segments_mk_append, segments_of_no_slash hname]

/-! ### Parts -/

theorem ofSegment_of_isFileName {name : FileName} (h : IsFileName name) :
    Part.ofSegment name = some (.name name) := by
  rw [Part.ofSegment, if_neg (not_or.2 ⟨h.nonempty, h.not_here⟩), if_neg h.not_up]

theorem head?_octets_join (p : Path) {name : FileName} (h : IsFileName name) :
    (p.join name).octets.head? = some slash ↔ p.octets.head? = some slash := by
  obtain ⟨octets⟩ := p
  rw [join]
  cases octets with
  | nil =>
    refine ⟨fun hhead => absurd (List.mem_of_mem_head? hhead) h.no_slash, fun hhead => ?_⟩
    cases hhead
  | cons b rest =>
    rw [if_neg (show ¬ (b :: rest).isEmpty = true from Bool.false_ne_true)]
    split <;> rfl

/-- A path starts as it did when it goes on with a name. -/
theorem lead_join (p : Path) {name : FileName} (h : IsFileName name) :
    (p.join name).lead = p.lead := by
  rw [lead, lead]
  simp only [p.head?_octets_join h]
  obtain ⟨front, hjoin, hp⟩ := p.exists_segments_join h.no_slash
  cases front with
  | nil =>
    have hsegments : p.segments = [[]] := by
      rcases hp with hp | ⟨hp, -⟩
      · exact hp
      · exact absurd hp p.segments_ne_nil
    have hhere : some name ≠ some [dot] := fun heq => h.not_here (Option.some.inj heq)
    have hhere' : some ([] : List UInt8) ≠ some [dot] := by decide
    rw [hjoin, hsegments, List.nil_append, List.head?_cons, List.head?_cons, if_neg hhere,
      if_neg hhere']
  | cons first rest =>
    have hhead : p.segments.head? = some first := by
      rcases hp with hp | ⟨hp, -⟩ <;> rw [hp] <;> rfl
    rw [hjoin, hhead]
    rfl

theorem parts_join (p : Path) {name : FileName} (h : IsFileName name) :
    (p.join name).parts = p.parts ++ [.name name] := by
  obtain ⟨front, hjoin, hp⟩ := p.exists_segments_join h.no_slash
  have hfront : p.segments.filterMap Part.ofSegment = front.filterMap Part.ofSegment := by
    rcases hp with hp | ⟨hp, -⟩
    · rw [hp, List.filterMap_append]
      exact List.append_nil _
    · rw [hp]
  rw [parts, parts, p.lead_join h, hjoin, hfront, List.filterMap_append, ← List.append_assoc]
  simp [ofSegment_of_isFileName h]

theorem parts_descend (p : Path) {names : List FileName} (h : ∀ name ∈ names, IsFileName name) :
    (p.descend names).parts = p.parts ++ names.map .name := by
  induction names generalizing p with
  | nil => exact (List.append_nil _).symm
  | cons name names ih =>
    obtain ⟨hname, hnames⟩ := List.forall_mem_cons.1 h
    rw [descend, List.foldl_cons, ← descend, ih _ hnames, parts_join p hname, List.append_assoc,
      List.map_cons, List.singleton_append]

/-- A chain of names is known by the path that it makes. -/
theorem eq_of_descend (p : Path) {names names' : List FileName}
    (h : ∀ name ∈ names, IsFileName name) (h' : ∀ name ∈ names', IsFileName name)
    (heq : p.descend names = p.descend names') : names = names' := by
  have hparts := congrArg parts heq
  rw [parts_descend p h, parts_descend p h'] at hparts
  exact List.map_injective_iff.2 (fun _ _ => Part.name.inj) (List.append_cancel_left hparts)

theorem descend_concat (p : Path) (names : List FileName) (name : FileName) :
    p.descend (names ++ [name]) = (p.descend names).join name := by
  rw [descend, List.foldl_append]
  rfl

theorem fileName?_join (p : Path) {name : FileName} (h : IsFileName name) :
    (p.join name).fileName? = some name := by
  rw [fileName?, parts_join p h, List.getLast?_concat]

theorem ne_nil_of_mem_parts {p : Path} {name : FileName} (h : .name name ∈ p.parts) :
    name ≠ [] := by
  rw [parts, List.mem_append] at h
  rcases h with hlead | hmem
  · rw [lead] at hlead
    split_ifs at hlead <;> simp at hlead
  · obtain ⟨segment, -, hpart⟩ := List.mem_filterMap.1 hmem
    rw [Part.ofSegment] at hpart
    split at hpart
    · cases hpart
    · next hne =>
      split at hpart
      · cases hpart
      · cases hpart
        exact fun hempty => hne (.inl hempty)

/-! ### Order -/

theorem before_of_parts_append {p q : Path} {part : Part} {parts : List Part}
    (h : q.parts = p.parts ++ part :: parts) : p.Before q := by
  rw [Before, h]
  simpa using List.Lex.append_left Part.Before (.nil (a := part) (l := parts)) p.parts

/-- Of two paths below a directory that with the smaller name comes first. -/
theorem before_of_name_lt {p q : Path} {front rest rest' : List Part} {a b : FileName}
    (hab : a < b) (hp : p.parts = front ++ .name a :: rest)
    (hq : q.parts = front ++ .name b :: rest') : p.Before q := by
  rw [Before, hp, hq]
  have hnames : Part.Before (.name a) (.name b) := hab
  exact List.Lex.append_left Part.Before (.rel hnames) front

instance : Std.Asymm Part.Before where
  asymm a b := by
    cases a with
    | name a =>
      cases b with
      | name b => exact fun h => List.lt_asymm h
      | root | here | up => exact fun h => absurd h (by simp [Part.Before, Part.rank])
    | root | here | up => cases b <;> simp [Part.Before, Part.rank]

instance : Std.Trichotomous Part.Before where
  trichotomous a b hab hba := by
    cases a with
    | name a =>
      cases b with
      | name b => exact congrArg Part.name (List.le_antisymm hba hab)
      | root | here | up => exact absurd hba (by simp [Part.Before, Part.rank])
    | root | here | up => cases b <;> simp_all [Part.Before, Part.rank]

instance : IsOrderConnected UInt8 (· < ·) where
  conn a b c hac := by
    rw [UInt8.lt_iff_toNat_lt] at hac ⊢
    rw [UInt8.lt_iff_toNat_lt]
    omega

instance : IsOrderConnected Part Part.Before where
  conn a b c hac := by
    have hnames : IsOrderConnected (List UInt8) (List.Lex (· < ·)) := inferInstance
    cases a <;> cases b <;> cases c <;>
      first
        | exact hnames.conn _ _ _ hac
        | simp [Part.Before, Part.rank] at hac ⊢

theorem Before.not_same {p q : Path} (h : p.Before q) : ¬ p.Same q := by
  intro hsame
  rw [Before, hsame] at h
  exact irrefl_of (List.Lex Part.Before) q.parts h

/-! ### Names of cases -/

theorem cutName_append {front ending : List UInt8} (hfront : front ≠ []) (hending : dot ∉ ending) :
    cutName (front ++ dot :: ending) = (front, some ending) := by
  have htake : ((front ++ dot :: ending).reverse.takeWhile (· ≠ dot)).reverse = ending := by
    rw [List.reverse_append, List.reverse_cons, List.append_assoc, List.singleton_append,
      List.takeWhile_append_of_pos fun c hc => ?_]
    · simp
    · rw [decide_eq_true_eq]
      rintro rfl
      exact hending (List.mem_reverse.1 hc)
  have hlength : (front ++ dot :: ending).length - ending.length - 1 = front.length := by
    simp only [List.length_append, List.length_cons]
    omega
  have hempty : front.isEmpty = false := by simpa using hfront
  simp only [cutName, htake, hlength, List.take_left, hempty, Bool.false_eq_true, if_false]

theorem exists_of_cutName {name ending : List UInt8} (h : (cutName name).2 = some ending) :
    ∃ front, front ≠ [] ∧ name = front ++ dot :: ending := by
  have hsplit := List.takeWhile_append_dropWhile (p := (· ≠ dot)) (l := name.reverse)
  rw [cutName] at h
  generalize htaken : name.reverse.takeWhile (· ≠ dot) = taken at h hsplit
  cases hdropped : name.reverse.dropWhile (· ≠ dot) with
  | nil =>
    rw [hdropped, List.append_nil] at hsplit
    have hlength := congrArg List.length hsplit
    rw [List.length_reverse] at hlength
    simp [hlength] at h
  | cons c rest =>
    -- the last dot is where taking from the end stopped
    have hdot : c = dot := by
      have := List.head?_dropWhile_not (· ≠ dot) name.reverse
      rw [hdropped] at this
      simpa using this
    have hname : name = rest.reverse ++ dot :: taken.reverse := by
      rw [hdropped, hdot] at hsplit
      rw [← List.reverse_reverse name, ← hsplit]
      simp
    split at h
    · cases h
    · next hfront =>
      cases h
      refine ⟨rest.reverse, fun hnil => hfront ?_, hname⟩
      rw [hname, hnil]
      simp

theorem octets_js : Text.Utf8.octets ".js" = dot :: CaseRoot.caseExtension := by decide

theorem cutName_js {stem : List UInt8} (h : stem ≠ []) :
    cutName (stem ++ Text.Utf8.octets ".js") = (stem, some CaseRoot.caseExtension) := by
  rw [octets_js]
  exact cutName_append h (by decide)

theorem extension?_eq_js_iff {p : Path} {name : FileName} (h : p.fileName? = some name) :
    p.extension? = some CaseRoot.caseExtension ↔
      ∃ stem, stem ≠ [] ∧ name = stem ++ Text.Utf8.octets ".js" := by
  rw [extension?, h, Option.bind_some]
  constructor
  · intro hext
    rw [octets_js]
    exact exists_of_cutName hext
  · rintro ⟨stem, hstem, rfl⟩
    rw [cutName_js hstem]

theorem stem?_of_case {p : Path} {stem : List UInt8}
    (h : p.fileName? = some (stem ++ Text.Utf8.octets ".js")) (hstem : stem ≠ []) :
    p.stem? = some stem := by
  rw [stem?, h, Option.map_some, cutName_js hstem]

/-- A name that is cut leaves something. -/
theorem stem?_ne_nil {p : Path} {stem : List UInt8} (h : p.stem? = some stem) : stem ≠ [] := by
  obtain ⟨name, hname, rfl⟩ := Option.map_eq_some_iff.1 h
  have hne : name ≠ [] := by
    rw [fileName?] at hname
    split at hname
    · next hlast =>
      cases hname
      exact ne_nil_of_mem_parts (List.mem_of_getLast? hlast)
    · cases hname
  rw [cutName]
  split
  · exact hne
  · next hfront => exact fun hnil => hfront (List.isEmpty_iff.2 hnil)

theorem isCaseName_iff {p : Path} {name : FileName} (h : p.fileName? = some name) :
    CaseRoot.isCaseName p = true ↔ IsCaseName name := by
  have hfixture : (Text.Utf8.text? name).any
      (fun name => CaseRoot.fixtureEnding.toList.isSuffixOf name.toList) = true ↔
        ∃ front : String, name = Text.Utf8.octets (front ++ "_FIXTURE.js") := by
    rw [Option.any_eq_true]
    constructor
    · rintro ⟨text, htext, hending⟩
      obtain ⟨front, hfront⟩ := List.isSuffixOf_iff_suffix.1 hending
      refine ⟨String.ofList front, (Text.Utf8.text?_eq_some_iff.1 htext).trans (congrArg _ ?_)⟩
      rw [← String.toList_inj, ← hfront, String.toList_append, String.toList_ofList]
      rfl
    · rintro ⟨front, rfl⟩
      refine ⟨_, Text.Utf8.text?_octets _, List.isSuffixOf_iff_suffix.2 ⟨front.toList, ?_⟩⟩
      exact (String.toList_append ..).symm
  rw [CaseRoot.isCaseName, Bool.and_eq_true, beq_iff_eq, extension?_eq_js_iff h, h,
    Option.bind_some, Bool.not_eq_true', ← Bool.not_eq_true, hfixture]
  rfl

end Path

end Conformance
