import Conformance.CommandLine.Basic
import Conformance.Proofs.CommandLine.Reading
import Conformance.Proofs.Text.Digits

/-!
# The arguments of a run are read as they were said

Root, options and switch can be said in any order, and only the engine's arguments have to keep
theirs. All else is said at most once, so an order does not show in the values that the reading has
for an option, and the arguments are made from those values. An argument of the engine is never
looked at: it may look like an option, or like a command.
-/

namespace Conformance

open Text.Utf8 (octets)

namespace CommandLine

/-! ### Numbers -/

theorem number?_toString {n : Nat} (h : n < Word.size) : number? (toString n) = some n := by
  have hdecimal : (toString n).toList = Nat.toDigits 10 n := by
    rw [Nat.toString_eq_repr, Nat.toList_repr]
  unfold number?
  extract_lets digits
  have hdigits : digits = Nat.toDigits 10 n := by
    dsimp only [digits]
    rw [hdecimal]
    split
    · next rest heq =>
      have hplus : '+' ∈ Nat.toDigits 10 n := by
        rw [heq]
        exact List.mem_cons_self
      exact absurd (Text.isDigit_of_mem_toDigits hplus) (by decide)
    · rfl
  have hne : ¬ (Nat.toDigits 10 n).isEmpty = true := by
    rw [List.isEmpty_iff]
    exact Nat.toDigits_ne_nil
  rw [hdigits, if_neg hne, Text.number?_toDigits, Option.filter_some, if_pos (decide_eq_true h)]

theorem unhyphened_toString (n : Nat) : Unhyphened (octets (toString n)) := by
  obtain ⟨d, digits, hdigits⟩ := List.exists_cons_of_ne_nil (Nat.toDigits_ne_nil (b := 10) (n := n))
  have hd : d.isDigit = true := Text.isDigit_of_mem_toDigits (hdigits ▸ List.mem_cons_self)
  obtain ⟨hlow, hhigh⟩ : 48 ≤ d.val.toNat ∧ d.val.toNat ≤ 57 := by
    simpa [Char.isDigit, UInt32.le_iff_toNat_le] using hd
  have hword : octets (toString n) = d.val.toNat.toUInt8 :: Text.Utf8.encode digits := by
    have hchar : Text.Utf8.encodeChar d = [d.val.toNat.toUInt8] := if_pos (by omega)
    rw [octets, Nat.toString_eq_repr, Nat.toList_repr, hdigits, Text.Utf8.encode, List.flatMap_cons,
      hchar]
    rfl
  rw [Unhyphened, hword, List.head?_cons, ne_eq, Option.some_inj, ← UInt8.toNat_inj,
    Nat.toUInt8, UInt8.toNat_ofNat']
  simp only [hyphen, UInt8.reduceToNat]
  omega

/-! ### The command -/

/-- A run is what the words after its name say. -/
theorem parse_run {words : List (List UInt8)} {r : Reading}
    (h : Reading.ofWords runGrammar words = .ok r) (program : List UInt8) :
    parse (program :: octets "run" :: words) = .ok ⟨r.count, .run (runArguments r)⟩ := by
  have hcount : (if r.count = 0 then Reading.start.count else r.count) = r.count := by
    split
    · next hzero => exact hzero.symm
    · rfl
  have hparse : parse (program :: octets "run" :: words) = (ofCommand .run words).map fun e =>
      ⟨if e.1 = 0 then Reading.start.count else e.1, e.2⟩ := rfl
  have hcommand : ofCommand .run words = .ok (r.count, .run (runArguments r)) := by
    rw [ofCommand, h]
    rfl
  rw [hparse, hcommand]
  simp only [Except.map, hcount]

end CommandLine

namespace RunArguments

open CommandLine (Item Key Kind Reading Unhyphened)

/-! ### Saying arguments -/

/-- The word that says a number. -/
def numeral (n : Nat) : List UInt8 := octets (toString n)

/-- What the arguments say of an option, in order; of a switch, that it is set. -/
def valuesOf (a : RunArguments) : Key → List (List UInt8)
  | .filter => a.filter?.toList.map octets
  | .parallelism => a.overrides.parallelism?.toList.map numeral
  | .timeout => a.overrides.timeoutMs?.toList.map numeral
  | .engine => a.overrides.engine?.toList.map octets
  | .engineArg => a.overrides.engineArgs.map octets
  | .config => a.config?.toList.map Path.octets
  | .maxFailures => a.overrides.maxFailures?.toList.map numeral
  | .json => if a.json then [[]] else []
  | .report => a.report?.toList.map Path.octets
  | .verbose => []
  | .help => []
  | .version => []

/-- The options that arguments can set. -/
def keys : List Key :=
  [.filter, .parallelism, .timeout, .engine, .engineArg, .config, .maxFailures, .json, .report]

/-- The items that say the arguments. -/
def items (a : RunArguments) : List Item :=
  .positional a.root.octets :: keys.flatMap fun k => (a.valuesOf k).map (.option k)

/-- The words say the arguments, in any order but for the engine's arguments, which keep theirs. -/
def SaidBy (a : RunArguments) (words : List (List UInt8)) : Prop :=
  ∃ (order : List Item) (pieces : List (List (List UInt8))), order.Perm a.items ∧
    order.filterMap (Item.value? .engineArg) = a.overrides.engineArgs.map octets ∧
    List.Forall₂ Item.SaidBy order pieces ∧ words = pieces.flatten

/-- The arguments can be said: paths are not empty, nothing but the engine's arguments starts as
options do, and numbers fit in 64 bits. -/
structure Sayable (a : RunArguments) : Prop where
  root : a.root.octets ≠ [] ∧ Unhyphened a.root.octets
  filter : ∀ text ∈ a.filter?, Unhyphened (octets text)
  parallelism : ∀ n ∈ a.overrides.parallelism?, n < Word.size
  timeoutMs : ∀ n ∈ a.overrides.timeoutMs?, n < Word.size
  engine : ∀ text ∈ a.overrides.engine?, Unhyphened (octets text)
  config : ∀ p ∈ a.config?, p.octets ≠ [] ∧ Unhyphened p.octets
  maxFailures : ∀ n ∈ a.overrides.maxFailures?, n < Word.size
  report : ∀ p ∈ a.report?, p.octets ≠ [] ∧ Unhyphened p.octets

variable {a : RunArguments} {order : List Item}

/-! ### What the items say -/

theorem filterMap_positional?_items (a : RunArguments) :
    a.items.filterMap Item.positional? = [a.root.octets] := by
  have hroot : Item.positional? (.positional a.root.octets) = some a.root.octets := rfl
  rw [items, List.filterMap_cons_some hroot, List.filterMap_flatMap]
  simp [Item.positional?]

theorem filterMap_value?_items (a : RunArguments) (k : Key) :
    a.items.filterMap (Item.value? k) = a.valuesOf k := by
  have hroot : Item.value? k (.positional a.root.octets) = none := rfl
  rw [items, List.filterMap_cons_none hroot, Item.filterMap_value?_flatMap (by decide)]
  cases k <;> rfl

/-- Only the engine's arguments are said more than once. -/
theorem length_valuesOf_le_one (a : RunArguments) {k : Key} (hk : k.kind ≠ .texts) :
    (a.valuesOf k).length ≤ 1 := by
  have hoption {α : Type} (o : Option α) : o.toList.length ≤ 1 := by cases o <;> simp
  cases k with
  | engineArg => exact absurd rfl hk
  | json => cases hjson : a.json <;> simp [valuesOf, hjson]
  | filter | parallelism | timeout | engine | config | maxFailures | report =>
    rw [valuesOf, List.length_map]
    exact hoption _
  | verbose | help | version => exact Nat.zero_le 1

/-- Each option takes the values that sayable arguments have for it. -/
theorem Sayable.check_valuesOf (ha : a.Sayable) {k : Key} {value : List UInt8}
    (h : value ∈ a.valuesOf k) :
    k.kind.check value = .ok () ∧ (k = .engineArg ∨ Unhyphened value) := by
  have hnumber {o : Option Nat} (ho : ∀ n ∈ o, n < Word.size)
      (hvalue : value ∈ o.toList.map numeral) :
      Kind.number.check value = .ok () ∧ Unhyphened value := by
    obtain ⟨n, hn, rfl⟩ := List.mem_map.1 hvalue
    refine ⟨?_, CommandLine.unhyphened_toString n⟩
    simp only [Kind.check, numeral, Text.Utf8.text?_octets,
      CommandLine.number?_toString (ho n (Option.mem_toList.1 hn)), Option.isSome_some, if_true]
  have htext {o : Option String} (ho : ∀ text ∈ o, Unhyphened (octets text))
      (hvalue : value ∈ o.toList.map octets) :
      Kind.text.check value = .ok () ∧ Unhyphened value := by
    obtain ⟨text, htext, rfl⟩ := List.mem_map.1 hvalue
    refine ⟨?_, ho text (Option.mem_toList.1 htext)⟩
    rw [Kind.check, Text.Utf8.text?_octets]
    rfl
  have hpath {o : Option Path} (ho : ∀ p ∈ o, p.octets ≠ [] ∧ Unhyphened p.octets)
      (hvalue : value ∈ o.toList.map Path.octets) :
      Kind.path.check value = .ok () ∧ Unhyphened value := by
    obtain ⟨p, hp, rfl⟩ := List.mem_map.1 hvalue
    obtain ⟨hne, hplain⟩ := ho p (Option.mem_toList.1 hp)
    exact ⟨if_neg (by simpa using hne), hplain⟩
  cases k with
  | filter => exact (htext ha.filter h).imp_right .inr
  | engine => exact (htext ha.engine h).imp_right .inr
  | engineArg =>
    obtain ⟨text, -, rfl⟩ := List.mem_map.1 h
    refine ⟨?_, .inl rfl⟩
    rw [Key.kind, Kind.check, Text.Utf8.text?_octets]
    rfl
  | parallelism => exact (hnumber ha.parallelism h).imp_right .inr
  | timeout => exact (hnumber ha.timeoutMs h).imp_right .inr
  | maxFailures => exact (hnumber ha.maxFailures h).imp_right .inr
  | config => exact (hpath ha.config h).imp_right .inr
  | report => exact (hpath ha.report h).imp_right .inr
  | json =>
    rw [valuesOf, List.mem_ite_nil_right, List.mem_singleton] at h
    obtain ⟨-, rfl⟩ := h
    exact ⟨rfl, .inr (by decide)⟩
  | verbose | help | version => cases h

theorem Sayable.takes (ha : a.Sayable) {i : Item} (hi : i ∈ a.items) :
    CommandLine.runGrammar.Takes i := by
  rcases List.mem_cons.1 hi with rfl | hi
  · exact ha.root
  · obtain ⟨k, hk, hi⟩ := List.mem_flatMap.1 hi
    obtain ⟨value, hvalue, rfl⟩ := List.mem_map.1 hi
    have hkeys : ∀ k ∈ keys, k ∈ CommandLine.runGrammar.keys ∧
        (k.takesValue = true ∨ k.kind = .switch) := by decide
    exact ⟨(hkeys k hk).1, (hkeys k hk).2, ha.check_valuesOf hvalue⟩

/-! ### Any order of the items -/

theorem eq_of_perm_of_length_le_one {α : Type} {l l' : List α} (h : l.Perm l')
    (hlength : l'.length ≤ 1) : l = l' := by
  match l', hlength with
  | [], _ => exact h.eq_nil
  | [_], _ => exact List.perm_singleton.1 h

theorem filterMap_positional?_of_perm (hperm : order.Perm a.items) :
    order.filterMap Item.positional? = [a.root.octets] := by
  have hroots := hperm.filterMap Item.positional?
  rw [filterMap_positional?_items] at hroots
  exact List.perm_singleton.1 hroots

/-- An order of the items does not show in what they say of an option. -/
theorem filterMap_value?_of_perm (hperm : order.Perm a.items)
    (hengine : order.filterMap (Item.value? .engineArg) = a.overrides.engineArgs.map octets)
    (k : Key) :
    order.filterMap (Item.value? k) = a.valuesOf k := by
  by_cases hk : k = .engineArg
  · subst hk
    exact hengine
  · have honce : k.kind ≠ .texts := by
      revert hk
      cases k <;> decide
    have hvalues := hperm.filterMap (Item.value? k)
    rw [filterMap_value?_items] at hvalues
    exact eq_of_perm_of_length_le_one hvalues (a.length_valuesOf_le_one honce)

theorem Sayable.admits (ha : a.Sayable) (hperm : order.Perm a.items)
    (hengine : order.filterMap (Item.value? .engineArg) = a.overrides.engineArgs.map octets) :
    CommandLine.runGrammar.Admits order where
  takes i hi := ha.takes (hperm.mem_iff.1 hi)
  once k hk := by
    rw [filterMap_value?_of_perm hperm hengine]
    exact a.length_valuesOf_le_one hk
  positionals := by
    rw [filterMap_positional?_of_perm hperm]
    rfl

/-- Arguments are made from their root and the values of their options. -/
theorem Sayable.runArguments_eq (ha : a.Sayable) {r : Reading}
    (hroot : r.positionals = [a.root.octets]) (hvalues : ∀ k, r.valuesOf k = a.valuesOf k) :
    CommandLine.runArguments r = a := by
  have hfirst (k : Key) : r.value? k = (a.valuesOf k).head? := by rw [r.value?_eq_head?, hvalues]
  have htext (o : Option String) :
      ((o.toList.map octets).head?).map Text.Utf8.lossyText = o := by
    cases o with
    | none => rfl
    | some text => exact congrArg some (Text.Utf8.lossyText_octets text)
  have htexts (l : List String) : (l.map octets).map Text.Utf8.lossyText = l := by
    rw [List.map_map]
    exact (List.map_congr_left fun text _ => Text.Utf8.lossyText_octets text).trans (List.map_id l)
  have hpath (o : Option Path) : ((o.toList.map Path.octets).head?).map Path.mk = o := by
    cases o <;> rfl
  have hnumber {o : Option Nat} (ho : ∀ n ∈ o, n < Word.size) :
      (((o.toList.map numeral).head?).map Text.Utf8.lossyText).bind CommandLine.number? = o := by
    cases o with
    | none => rfl
    | some n =>
      rw [Option.toList_some, List.map_singleton, List.head?_cons, Option.map_some, numeral,
        Text.Utf8.lossyText_octets, Option.bind_some]
      exact CommandLine.number?_toString (ho n rfl)
  have hjson : r.has .json = a.json := by
    rw [r.has_eq_not_isEmpty, hvalues, valuesOf]
    cases a.json <;> rfl
  simp only [CommandLine.runArguments, CommandLine.pathAt, CommandLine.path?, CommandLine.textOf?,
    CommandLine.numberOf?, hfirst, hvalues, hroot, hjson, valuesOf, htext, htexts, hpath,
    hnumber ha.parallelism, hnumber ha.timeoutMs, hnumber ha.maxFailures]
  rfl

/-- The words that say the arguments of a run, in whatever order, are read as those arguments, with
nothing said about how much is logged. The engine's arguments may be any texts. -/
theorem parse_saidBy {words : List (List UInt8)} (ha : a.Sayable) (hwords : a.SaidBy words)
    (program : List UInt8) :
    CommandLine.parse (program :: octets "run" :: words) = .ok ⟨0, .run a⟩ := by
  obtain ⟨order, pieces, hperm, hengine, hpieces, rfl⟩ := hwords
  have hread := Reading.ofWords_flatten (ha.admits hperm hengine) hpieces
  have harguments : CommandLine.runArguments (Reading.ofItems order) = a := by
    refine ha.runArguments_eq (filterMap_positional?_of_perm hperm) fun k => ?_
    rw [Reading.valuesOf_ofItems, filterMap_value?_of_perm hperm hengine]
  rw [CommandLine.parse_run hread, harguments]
  rfl

/-- All options are set. The engine's arguments look like options and a command, and the root like a
command. -/
def everything : RunArguments :=
  { root := .ofText "list"
    filter? := some ""
    config? := some (.ofText "a b.toml")
    overrides := ⟨some 8, some 18446744073709551615, some "qjs", ["--json", "-j", "run"], some 0⟩
    json := true
    report? := some ⟨octets "out" ++ [0xff]⟩ }

/-- Words that say them, in no particular order and with a letter for one option. -/
def everythingWords : List (List UInt8) :=
  ["--engine-arg", "--json", "-j", "8", "list", "--json", "--report"].map octets ++
    [octets "out" ++ [0xff]] ++
    ["--engine-arg", "-j", "--timeout", "18446744073709551615", "--filter", "", "--engine", "qjs",
      "--engine-arg", "run", "--max-failures", "0", "--config", "a b.toml"].map octets

theorem saidBy_everythingWords : everything.SaidBy everythingWords :=
  ⟨[.option .engineArg (octets "--json"), .option .parallelism (octets "8"),
      .positional (octets "list"), .option .json [], .option .report (octets "out" ++ [0xff]),
      .option .engineArg (octets "-j"), .option .timeout (octets "18446744073709551615"),
      .option .filter [], .option .engine (octets "qjs"), .option .engineArg (octets "run"),
      .option .maxFailures (octets "0"), .option .config (octets "a b.toml")],
    _, by decide, by decide,
    .cons (.option rfl .name _) (.cons (.option rfl (.letter rfl) _) (.cons (.positional _)
      (.cons (.switch rfl .name) (.cons (.option rfl .name _) (.cons (.option rfl .name _)
      (.cons (.option rfl .name _) (.cons (.option rfl .name _) (.cons (.option rfl .name _)
      (.cons (.option rfl .name _) (.cons (.option rfl .name _) (.cons (.option rfl .name _)
      .nil))))))))))), by decide⟩

theorem parse_saidBy_everything : everything.Sayable ∧ everything.SaidBy everythingWords ∧
    CommandLine.parse (octets "conformance-runner" :: octets "run" :: everythingWords)
      = .ok ⟨0, .run everything⟩ := by
  have hsayable : everything.Sayable := by constructor <;> decide
  exact ⟨hsayable, saidBy_everythingWords,
    parse_saidBy hsayable saidBy_everythingWords (octets "conformance-runner")⟩

end RunArguments

end Conformance
