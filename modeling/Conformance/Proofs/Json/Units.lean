import Conformance.Proofs.Json.Literal

/-!
# Literals of strings that need not be texts

A string of a script is any sequence of UTF-16 units. Surrogate pairs in it are characters, and a
surrogate without its partner is no character: in a literal it is written as an escape, while all
else is written as in the literal of a text. Read again, such a literal has a text exactly if the
string is the encoding of one, and it is that text.
-/

namespace Conformance.Json.Literal

/-! ### Units -/

/-- The UTF-16 units of a character. -/
def unitsOf (c : Char) : List UInt16 :=
  if c.toNat < 0x10000 then [c.toNat.toUInt16]
  else
    [(0xd800 + (c.toNat - 0x10000) / 0x400).toUInt16,
      (0xdc00 + (c.toNat - 0x10000) % 0x400).toUInt16]

/-- The UTF-16 encoding of a text. -/
def units (text : List Char) : List UInt16 := text.flatMap unitsOf

/-- The character of a surrogate pair. -/
def paired (u v : UInt16) : Char :=
  Char.ofNat (0x10000 + (u.toNat - 0xd800) * 0x400 + (v.toNat - 0xdc00))

/-- A unit that is not in a pair. -/
def Piece.single (u : UInt16) : Piece :=
  if leading u.toNat || trailing u.toNat then .unit u.toNat else .char (Char.ofNat u.toNat)

/-- The characters of a string, with the surrogates that have no partner between them. -/
def pieces : List UInt16 → List Piece
  | [] => []
  | [u] => [.single u]
  | u :: v :: rest =>
    if leading u.toNat && trailing v.toNat then .char (paired u v) :: pieces rest
    else .single u :: pieces (v :: rest)

/-- How a piece of a string is written inside a literal. -/
def Piece.write : Piece → List Char
  | .char c => escape c
  | .unit n => '\\' :: 'u' :: hex4 n

/-- The literal of a string. -/
def writeUnits (m : List UInt16) : List Char := '"' :: ((pieces m).flatMap Piece.write ++ ['"'])

/-! ### Pieces and units -/

theorem leading_iff {n : Nat} : leading n = true ↔ 0xd800 ≤ n ∧ n < 0xdc00 := by
  simp [leading]

theorem trailing_iff {n : Nat} : trailing n = true ↔ 0xdc00 ≤ n ∧ n < 0xe000 := by
  simp [trailing]

theorem toNat_ofNat_of_valid {n : Nat} (h : n < 0xd800 ∨ 0xdfff < n ∧ n < 0x110000) :
    (Char.ofNat n).toNat = n := by
  rw [Char.ofNat, dif_pos h]
  rfl

theorem toNat_toUInt16 {n : Nat} (h : n < 0x10000) : n.toUInt16.toNat = n :=
  Nat.mod_eq_of_lt h

theorem Piece.single_of_not_surrogate {u : UInt16} (h : u.toNat < 0xd800 ∨ 0xdfff < u.toNat) :
    Piece.single u = .char (Char.ofNat u.toNat) := by
  have hleading : leading u.toNat = false := by
    rw [Bool.eq_false_iff, ne_eq, leading_iff]
    omega
  have htrailing : trailing u.toNat = false := by
    rw [Bool.eq_false_iff, ne_eq, trailing_iff]
    omega
  rw [single, hleading, htrailing]
  rfl

theorem pieces_cons_of_not_leading {u : UInt16} (h : leading u.toNat = false)
    (rest : List UInt16) : pieces (u :: rest) = .single u :: pieces rest := by
  cases rest with
  | nil => rfl
  | cons v rest => rw [pieces, h, Bool.false_and, if_neg Bool.false_ne_true]

theorem pieces_unitsOf_append (c : Char) (rest : List UInt16) :
    pieces (unitsOf c ++ rest) = .char c :: pieces rest := by
  have hvalid : c.toNat < 0xd800 ∨ 0xdfff < c.toNat ∧ c.toNat < 0x110000 := c.valid
  rw [unitsOf]
  split
  · next hlow =>
    have hnat := toNat_toUInt16 hlow
    have hleading : leading c.toNat.toUInt16.toNat = false := by
      rw [hnat, Bool.eq_false_iff, ne_eq, leading_iff]
      omega
    rw [List.singleton_append, pieces_cons_of_not_leading hleading,
      Piece.single_of_not_surrogate (by omega), hnat, Char.ofNat_toNat]
  · next hhigh =>
    generalize hoffset : c.toNat - 0x10000 = offset
    have hfirst : (0xd800 + offset / 0x400).toUInt16.toNat = 0xd800 + offset / 0x400 :=
      toNat_toUInt16 (by omega)
    have hsecond : (0xdc00 + offset % 0x400).toUInt16.toNat = 0xdc00 + offset % 0x400 :=
      toNat_toUInt16 (by omega)
    have hleading : leading (0xd800 + offset / 0x400) = true := leading_iff.2 (by omega)
    have htrailing : trailing (0xdc00 + offset % 0x400) = true := trailing_iff.2 (by omega)
    have hvalue : 0x10000 + (0xd800 + offset / 0x400 - 0xd800) * 0x400
        + (0xdc00 + offset % 0x400 - 0xdc00) = c.toNat := by omega
    rw [List.cons_append, List.singleton_append, pieces, hfirst, hsecond, hleading, htrailing,
      Bool.and_self, if_pos rfl, paired, hfirst, hsecond, hvalue, Char.ofNat_toNat]

theorem pieces_units (text : List Char) : pieces (units text) = text.map .char := by
  induction text with
  | nil => rfl
  | cons c text ih =>
    show pieces (unitsOf c ++ units text) = _
    rw [pieces_unitsOf_append, ih, List.map_cons]

/-- The units of a piece of a string. -/
def Piece.units : Piece → List UInt16
  | .char c => unitsOf c
  | .unit n => [n.toUInt16]

theorem Piece.units_single (u : UInt16) : (Piece.single u).units = [u] := by
  have hlt : u.toNat < 0x10000 := u.toNat_lt
  rw [single]
  split
  · exact congrArg (fun v => [v]) UInt16.ofNat_toNat
  · next hneither =>
    rw [Bool.or_eq_true, leading_iff, trailing_iff] at hneither
    have hnat : (Char.ofNat u.toNat).toNat = u.toNat := toNat_ofNat_of_valid (by omega)
    rw [units, unitsOf, hnat, if_pos hlt]
    exact congrArg (fun v => [v]) UInt16.ofNat_toNat

theorem unitsOf_paired {u v : UInt16} (hu : leading u.toNat = true) (hv : trailing v.toNat = true) :
    unitsOf (paired u v) = [u, v] := by
  rw [leading_iff] at hu
  rw [trailing_iff] at hv
  have hnat : (paired u v).toNat
      = 0x10000 + (u.toNat - 0xd800) * 0x400 + (v.toNat - 0xdc00) :=
    toNat_ofNat_of_valid (by omega)
  have hfirst : 0xd800 + ((paired u v).toNat - 0x10000) / 0x400 = u.toNat := by omega
  have hsecond : 0xdc00 + ((paired u v).toNat - 0x10000) % 0x400 = v.toNat := by omega
  rw [unitsOf, if_neg (by omega), hfirst, hsecond]
  exact congrArg₂ (fun u v => [u, v]) UInt16.ofNat_toNat UInt16.ofNat_toNat

/-- The pieces of a string make up the string. -/
theorem flatMap_units_pieces (m : List UInt16) : (pieces m).flatMap Piece.units = m := by
  induction m using pieces.induct with
  | case1 => rfl
  | case2 u => simp [pieces, Piece.units_single]
  | case3 u v rest hpair ih =>
    obtain ⟨hu, hv⟩ := Bool.and_eq_true_iff.1 hpair
    rw [pieces, if_pos hpair, List.flatMap_cons, ih, Piece.units, unitsOf_paired hu hv]
    rfl
  | case4 u v rest hpair ih =>
    rw [pieces, if_neg hpair, List.flatMap_cons, ih, Piece.units_single]
    rfl

/-! ### Texts -/

/-- The character that a piece is, if it is one. -/
def Piece.char? : Piece → Option Char
  | .char c => some c
  | .unit _ => none

/-- The text that a string encodes, if it encodes one. -/
def decode? (m : List UInt16) : Option (List Char) := (pieces m).mapM Piece.char?

theorem mapM_char?_eq_some_iff {ps : List Piece} {text : List Char} :
    ps.mapM Piece.char? = some text ↔ ps = text.map .char := by
  induction ps generalizing text with
  | nil => cases text <;> simp
  | cons p ps ih =>
    rw [List.mapM_cons]
    cases p with
    | char c =>
      cases text with
      | nil => simp [Piece.char?, Option.bind_eq_some_iff]
      | cons d text =>
        simp only [Piece.char?, Option.bind_eq_bind, Option.bind_some, Option.bind_eq_some_iff, ih,
          Option.pure_def, Option.some.injEq, List.cons.injEq, List.map_cons, Piece.char.injEq]
        constructor
        · rintro ⟨_, rfl, rfl, rfl⟩
          exact ⟨rfl, rfl⟩
        · rintro ⟨rfl, rfl⟩
          exact ⟨text, rfl, rfl, rfl⟩
    | unit n => cases text <;> simp [Piece.char?]

/-- A string has a text exactly if it is the encoding of one, which is then that text. -/
theorem decode?_eq_some_iff {m : List UInt16} {text : List Char} :
    decode? m = some text ↔ units text = m := by
  rw [decode?, mapM_char?_eq_some_iff]
  constructor
  · intro hpieces
    have hunits := flatMap_units_pieces m
    rw [hpieces, List.flatMap_map] at hunits
    exact hunits
  · rintro rfl
    exact pieces_units text

/-! ### Reading -/

/-- The piece of a literal that a written piece of a string is read as. -/
def Piece.reread : Piece → Piece
  | .char c => .ofWritten c
  | .unit n => .unit n

theorem piecesFrom_write (held : List Piece) {p : Piece} (h : ∀ n, p = .unit n → n < 0x10000)
    (rest : List Char) :
    piecesFrom held (p.write ++ rest) = piecesFrom (p.reread :: held) rest := by
  cases p with
  | char c => exact piecesFrom_escape held c rest
  | unit n => exact piecesFrom_unit held (h n rfl) rest

theorem lt_of_unit_mem_pieces {m : List UInt16} {n : Nat} (h : .unit n ∈ pieces m) :
    n < 0x10000 := by
  have hsingle {u : UInt16} (h : .unit n = Piece.single u) : n < 0x10000 := by
    rw [Piece.single] at h
    split at h
    · cases h
      exact u.toNat_lt
    · cases h
  induction m using pieces.induct with
  | case1 => cases h
  | case2 u => exact hsingle (List.mem_singleton.1 h)
  | case3 u v rest hpair ih =>
    rw [pieces, if_pos hpair, List.mem_cons] at h
    exact h.elim (fun h => by cases h) ih
  | case4 u v rest hpair ih =>
    rw [pieces, if_neg hpair, List.mem_cons] at h
    exact h.elim hsingle ih

/-- A surrogate is lost if no partner comes after it. -/
theorem join_surrogate_cons {n : Nat} (h : leading n = true ∨ trailing n = true)
    {rest : List Piece} (hrest : leading n = true → ∀ k, rest.head? = some (.unit k) →
      trailing k = false) : join (.unit n :: rest) = none := by
  have hor : (leading n || trailing n) = true := Bool.or_eq_true_iff.2 h
  rcases rest with _ | ⟨_ | k, rest⟩
  · rw [join, if_pos hor]
    simp
  · rw [join, if_pos hor]
    simp
  · have hpair : (leading n && trailing k) = false := by
      cases hleading : leading n with
      | false => rfl
      | true => exact hrest hleading k rfl
    rw [join, hpair, if_neg Bool.false_ne_true, if_pos hor]

theorem head?_reread_pieces {u : UInt16} (h : trailing u.toNat = false) (rest : List UInt16)
    {k : Nat} (hk : ((pieces (u :: rest)).map Piece.reread).head? = some (.unit k)) :
    trailing k = false := by
  have hchar {c : Char} (h : Piece.ofWritten c = .unit k) : trailing k = false := by
    rw [Piece.ofWritten] at h
    split at h
    · next hc =>
      have hlt : c.toNat < 0x20 := hc.2
      cases h
      rw [Bool.eq_false_iff, ne_eq, trailing_iff]
      omega
    · cases h
  have hsingle (h' : (Piece.single u).reread = .unit k) : trailing k = false := by
    rw [Piece.single] at h'
    split at h'
    · cases h'
      exact h
    · exact hchar h'
  cases rest with
  | nil => exact hsingle (Option.some.inj hk)
  | cons v rest =>
    rw [pieces] at hk
    split at hk
    · exact hchar (Option.some.inj hk)
    · exact hsingle (Option.some.inj hk)

theorem join_single_cons (u : UInt16) {rest : List Piece}
    (hrest : leading u.toNat = true → ∀ k, (rest.map Piece.reread).head? = some (.unit k) →
      trailing k = false)
    (ih : join (rest.map Piece.reread) = rest.mapM Piece.char?) :
    join ((Piece.single u :: rest).map Piece.reread)
      = (Piece.single u :: rest).mapM Piece.char? := by
  rw [List.map_cons, List.mapM_cons, Piece.single]
  split
  · next hsurrogate =>
    rw [Piece.reread, join_surrogate_cons (Bool.or_eq_true_iff.1 hsurrogate) hrest]
    rfl
  · rw [Piece.reread, join_ofWritten_cons, ih]
    cases rest.mapM Piece.char? <;> rfl

/-- What is read is put together to the text of the string, if it has one. -/
theorem join_reread_pieces (m : List UInt16) : join ((pieces m).map Piece.reread) = decode? m := by
  rw [decode?]
  induction m using pieces.induct with
  | case1 => rfl
  | case2 u => exact join_single_cons u (fun _ k hk => by cases hk) rfl
  | case3 u v rest hpair ih =>
    rw [pieces, if_pos hpair, List.map_cons, Piece.reread, join_ofWritten_cons, ih, List.mapM_cons]
    cases (pieces rest).mapM Piece.char? <;> rfl
  | case4 u v rest hpair ih =>
    rw [pieces, if_neg hpair]
    refine join_single_cons u (fun hleading k hk => ?_) ih
    have htrailing : trailing v.toNat = false := by
      rw [hleading, Bool.true_and] at hpair
      exact Bool.eq_false_iff.2 hpair
    exact head?_reread_pieces htrailing rest hk

theorem read_writeUnits (m : List UInt16) (rest : List Char) :
    read ((pieces m).flatMap Piece.write ++ '"' :: rest)
      = some ((decode? m).map String.ofList, rest) := by
  have hpiece : ∀ p ∈ pieces m, ∀ held rest,
      piecesFrom held (p.write ++ rest) = piecesFrom (p.reread :: held) rest := by
    intro p hp held rest
    refine piecesFrom_write held (fun n hn => ?_) rest
    subst hn
    exact lt_of_unit_mem_pieces hp
  rw [read, piecesFrom_flatMap hpiece, List.reverse_nil, List.nil_append, Option.map_some]
  simp only [join_reread_pieces]

end Conformance.Json.Literal
