import Rlmesh.Lib.Select
/-!
# Byte quantities

`parse_quantity` scales the digits in 128-bit arithmetic and divides by the power
of ten its fraction stands for. A whole number of bytes written with up to 19
fraction digits never overflows on the way; a longer fraction can, although a
binary unit makes it whole.
-/
open Rlmesh.Lib

namespace Rlmesh.Cli

inductive QuantityError
  | syntaxError | zero | fractional | tooLarge
  deriving DecidableEq, Repr

/-- The suffixes, largest first: binary ones are powers of 1024, decimal ones powers of 1000. -/
def units : List (Text × Nat) :=
  [(['T', 'i'], 2 ^ 40), (['T'], 10 ^ 12), (['G', 'i'], 2 ^ 30), (['G'], 10 ^ 9), (['M', 'i'], 2 ^ 20), (['M'], 10 ^ 6),
    (['K', 'i'], 2 ^ 10), (['K'], 10 ^ 3)]

def splitQuantity (raw : Text) : Option (Text × Text × Nat) :=
  let (number, multiplier) :=
    (units.findSome? (fun unit => (raw.dropSuffix? unit.1).map (fun number => (number, unit.2)))).getD (raw, 1)
  let (whole, fraction) := (splitOnce '.' number).getD (number, [])
  let fractionOk := !number.contains '.' || !fraction.isEmpty
  if !whole.isEmpty && whole.all Char.isDigit && fraction.all Char.isDigit && fractionOk then
    some (whole, fraction, multiplier)
  else none

/-- The number the digits spell. -/
def number (digits : Text) : Nat := Nat.ofDigitChars 10 digits 0

/-- A result of 128-bit arithmetic. -/
def checked128 (n : Nat) : Option Nat := if n < 2 ^ 128 then some n else none

/-- The greatest signed 64-bit integer. -/
def maxBytes : Nat := 2 ^ 63 - 1

/-- The number the digits spell, times the multiplier. -/
def numeratorOf (digits : Text) (multiplier : Nat) : Option Nat :=
  if digits.isEmpty then some 0
  else (checked128 (number digits)).bind (fun n => checked128 (n * multiplier))

def quantityBytes (whole fraction : Text) (multiplier : Nat) : Except QuantityError Nat :=
  let fraction := fraction.rdropWhile (· = '0')
  let scale := (if fraction.length < 2 ^ 32 then some fraction.length else none).bind (fun len => checked128 (10 ^ len))
  let digits := (whole ++ fraction).dropWhile (· = '0')
  match scale, numeratorOf digits multiplier with
  | some scale, some numerator =>
    if numerator = 0 then .error .zero
    else if numerator % scale ≠ 0 then .error .fractional
    else if numerator / scale ≤ maxBytes then .ok (numerator / scale)
    else .error .tooLarge
  | _, _ => .error .tooLarge

def parseQuantity (raw : Text) : Except QuantityError Nat :=
  match splitQuantity raw with
  | none => .error .syntaxError
  | some (whole, fraction, multiplier) => quantityBytes whole fraction multiplier

def formatQuantity (bytes : Nat) : Text :=
  match units.find? (fun unit => bytes > 0 && bytes % unit.2 = 0) with
  | none => Nat.toDigits 10 bytes
  | some (suffix, multiplier) => Nat.toDigits 10 (bytes / multiplier) ++ suffix

/-! ## Digits -/

theorem number_append (a b : Text) : number (a ++ b) = number a * 10 ^ b.length + number b := by
  rw [number, Nat.ofDigitChars_append, Nat.ofDigitChars_eq_ofDigitChars_zero, Nat.mul_comm]
  rfl

@[simp] theorem number_dropWhile (digits : Text) : number (digits.dropWhile (· = '0')) = number digits := by
  induction digits with
  | nil => rfl
  | cons c digits ih =>
    rw [List.dropWhile_cons]
    split
    · rename_i hc
      rw [ih, of_decide_eq_true hc]
      rfl
    · rfl

theorem number_zeros {zeros : Text} (h : ∀ c ∈ zeros, c = '0') : number zeros = 0 := by
  have hdrop : zeros.dropWhile (· = '0') = [] := List.dropWhile_eq_nil_iff.2 (by simpa using h)
  rw [← number_dropWhile, hdrop]
  rfl

/-- Trailing zeros only scale the number. -/
theorem number_rdropWhile (digits : Text) : ∃ zeros,
    digits.length = (digits.rdropWhile (· = '0')).length + zeros ∧
      number digits = number (digits.rdropWhile (· = '0')) * 10 ^ zeros := by
  have hsplit := List.rdropWhile_append_rtakeWhile (p := (· = '0')) (l := digits)
  refine ⟨(digits.rtakeWhile (· = '0')).length, ?_, ?_⟩
  · rw [← List.length_append, hsplit]
  · have hzeros : number (digits.rtakeWhile (· = '0')) = 0 :=
      number_zeros fun c hc => by simpa using List.mem_rtakeWhile_imp hc
    calc number digits = number (digits.rdropWhile (· = '0') ++ digits.rtakeWhile (· = '0')) := by rw [hsplit]
      _ = _ := by rw [number_append, hzeros, Nat.add_zero]

theorem checked128_of_lt {n : Nat} (h : n < 2 ^ 128) : checked128 n = some n := if_pos h

theorem checked128_of_ge {n : Nat} (h : ¬ n < 2 ^ 128) : checked128 n = none := if_neg h

/-- Whether or not there is a digit left, the numerator is the number they spell, if it fits. -/
theorem numeratorOf_eq (digits : Text) {multiplier : Nat} (hpos : 0 < multiplier) :
    numeratorOf digits multiplier = checked128 (number digits * multiplier) := by
  unfold numeratorOf
  cases digits with
  | nil => simp [number, checked128, Nat.ofDigitChars]
  | cons c rest =>
    have hle := Nat.le_mul_of_pos_right (number (c :: rest)) hpos
    by_cases hn : number (c :: rest) < 2 ^ 128
    · simp [checked128_of_lt hn]
    · have hprod : ¬ number (c :: rest) * multiplier < 2 ^ 128 := by omega
      simp [checked128_of_ge hn, checked128_of_ge hprod]

/-- With up to 19 fraction digits the bytes are exact: nothing overflows that a whole number of bytes needs. -/
theorem quantityBytes_eq_ok {whole fraction : Text} {multiplier n : Nat} (hpos : 0 < multiplier)
    (hshort : (fraction.rdropWhile (· = '0')).length ≤ 19) :
    quantityBytes whole fraction multiplier = .ok n ↔
      number (whole ++ fraction.rdropWhile (· = '0')) * multiplier =
        n * 10 ^ (fraction.rdropWhile (· = '0')).length ∧ 1 ≤ n ∧ n ≤ maxBytes := by
  unfold quantityBytes
  generalize fraction.rdropWhile (· = '0') = f at hshort ⊢
  have hscale : 10 ^ f.length ≤ 10 ^ 19 := Nat.pow_le_pow_right (by decide) hshort
  have hpow : 0 < 10 ^ f.length := Nat.pow_pos (by decide)
  have hlen : f.length < 2 ^ 32 := by omega
  simp only [numeratorOf_eq _ hpos, number_dropWhile, hlen, if_true, Option.bind_some]
  generalize 10 ^ f.length = scale at hscale hpow ⊢
  generalize number (whole ++ f) * multiplier = numerator
  rw [checked128_of_lt (by omega : scale < 2 ^ 128)]
  by_cases hbound : numerator < 2 ^ 128
  · rw [checked128_of_lt hbound]
    dsimp only
    constructor
    · intro h
      split_ifs at h with hzero hmod hmax
      cases h
      have hdvd : scale ∣ numerator := Nat.dvd_of_mod_eq_zero (not_not.1 hmod)
      exact ⟨(Nat.div_mul_cancel hdvd).symm, Nat.div_pos (Nat.le_of_dvd (by omega) hdvd) hpow, hmax⟩
    · rintro ⟨rfl, hone, hmax⟩
      have hne : n * scale ≠ 0 := Nat.mul_ne_zero (by omega) (by omega)
      rw [if_neg hne, if_neg (by simp), Nat.mul_div_cancel n hpow, if_pos hmax]
  · -- The product does not fit, so it is no whole number of bytes in range.
    rw [checked128_of_ge hbound]
    refine iff_of_false nofun ?_
    rintro ⟨rfl, -, hmax⟩
    have hsmall : n * scale ≤ maxBytes * 10 ^ 19 := Nat.mul_le_mul hmax hscale
    exact hbound (lt_of_le_of_lt hsmall (by decide))

/-! ## Spellings -/

/-- Digits, optionally a dot and digits, optionally a suffix. -/
structure Spelling where
  whole : Text
  fraction : Option Text
  unit : Option (Text × Nat)
  wholeDigits : whole ≠ [] ∧ ∀ c ∈ whole, c.isDigit = true
  fractionDigits : ∀ digits ∈ fraction, digits ≠ [] ∧ ∀ c ∈ digits, c.isDigit = true
  unitKnown : ∀ u ∈ unit, u ∈ units

namespace Spelling

/-- What stands before the suffix. -/
def decimal (s : Spelling) : Text := s.whole ++ s.fraction.elim [] ('.' :: ·)

def text (s : Spelling) : Text := s.decimal ++ s.unit.elim [] Prod.fst

def multiplier (s : Spelling) : Nat := s.unit.elim 1 Prod.snd

/-- The bytes it stands for, as an exact number. -/
def value (s : Spelling) : ℚ :=
  (number s.whole + number (s.fraction.getD []) / 10 ^ (s.fraction.getD []).length) * s.multiplier

theorem multiplier_pos (s : Spelling) : 0 < s.multiplier := by
  have hall : ∀ u ∈ units, 0 < u.2 := by decide
  unfold multiplier
  cases hu : s.unit with
  | none => exact Nat.one_pos
  | some u => exact hall u (s.unitKnown u hu)

theorem mem_decimal {s : Spelling} {c : Char} (h : c ∈ s.decimal) : c.isDigit = true ∨ c = '.' := by
  rcases List.mem_append.1 h with h | h
  · exact .inl (s.wholeDigits.2 c h)
  · cases hf : s.fraction with
    | none => simp [hf] at h
    | some digits =>
      rw [hf] at h
      rcases List.mem_cons.1 h with rfl | h
      · exact .inr rfl
      · exact .inl ((s.fractionDigits digits hf).2 c h)

/-- The one suffix a spelling ends in is its own. -/
theorem unit_of_suffix {s : Spelling} {u : Text × Nat} (hu : u ∈ units) (h : u.1 <:+ s.text) : s.unit = some u := by
  have hletters : ∀ u ∈ units, u.1 ≠ [] ∧ u.1.all (fun c => !c.isDigit && c != '.') = true := by decide
  have hapart : ∀ u ∈ units, ∀ u' ∈ units, (u.1 <:+ u'.1 ∨ u'.1 <:+ u.1) → u = u' := by decide
  unfold text at h
  cases hown : s.unit with
  | none =>
    -- No letter stands among the digits.
    rw [hown, Option.elim_none, List.append_nil] at h
    obtain ⟨c, hc⟩ := List.exists_mem_of_ne_nil _ (hletters u hu).1
    have hletter := List.all_eq_true.1 (hletters u hu).2 c hc
    rcases mem_decimal (h.subset hc) with hdigit | hdot
    · simp [hdigit] at hletter
    · simp [hdot] at hletter
  | some own =>
    rw [hown, Option.elim_some] at h
    have hboth := List.suffix_or_suffix_of_suffix h (List.suffix_append s.decimal own.1)
    rw [hapart u hu own (s.unitKnown own hown) hboth]

/-- The suffix comes off. -/
theorem findSome?_units (s : Spelling) :
    (units.findSome? (fun unit => (s.text.dropSuffix? unit.1).map (fun number => (number, unit.2)))).getD (s.text, 1) =
      (s.decimal, s.multiplier) := by
  cases hfind : units.findSome? (fun unit => (s.text.dropSuffix? unit.1).map (fun number => (number, unit.2))) with
  | none =>
    -- No suffix fits, so there is none.
    rw [List.findSome?_eq_none_iff] at hfind
    cases hown : s.unit with
    | none => simp [text, multiplier, hown]
    | some own =>
      have hdrop : s.text.dropSuffix? own.1 = some s.decimal :=
        List.dropSuffix?_eq_some_iff.2 ⟨own.1, by simp [text, hown], beq_self_eq_true _⟩
      have := hfind own (s.unitKnown own hown)
      simp [hdrop] at this
  | some found =>
    obtain ⟨u, hu, hfound⟩ := List.exists_of_findSome?_eq_some hfind
    obtain ⟨before, hdrop, rfl⟩ := Option.map_eq_some_iff.1 hfound
    obtain ⟨suffix, htext, hsuffix⟩ := List.dropSuffix?_eq_some_iff.1 hdrop
    obtain rfl := eq_of_beq hsuffix
    have hown := unit_of_suffix hu ⟨before, htext.symm⟩
    have hbefore : s.decimal ++ u.1 = before ++ u.1 := by simpa [text, hown] using htext
    simp [multiplier, hown, List.append_cancel_right hbefore]

theorem splitQuantity_text (s : Spelling) :
    splitQuantity s.text = some (s.whole, s.fraction.getD [], s.multiplier) := by
  have hdot : ∀ c ∈ s.whole, (c != '.') = true := by
    intro c hc
    have := s.wholeDigits.2 c hc
    rw [bne_iff_ne]
    rintro rfl
    cases this
  unfold splitQuantity
  rw [findSome?_units]
  cases hf : s.fraction with
  | none =>
    have hno : '.' ∉ s.whole := fun h => by simpa using hdot _ h
    simpa [decimal, hf, splitOnce, List.dropWhile_eq_nil_iff.2 hdot, hno] using s.wholeDigits
  | some digits =>
    have hdigits := s.fractionDigits digits hf
    simpa [decimal, hf, splitOnce, List.takeWhile_append_of_pos hdot, List.dropWhile_append_of_pos hdot] using
      ⟨s.wholeDigits.1, s.wholeDigits.2, hdigits.2, hdigits.1⟩

/-- A spelling is worth `n` exactly when its digits are, scaled. -/
theorem value_eq_iff (s : Spelling) (n : Nat) :
    s.value = n ↔ number (s.whole ++ (s.fraction.getD []).rdropWhile (· = '0')) * s.multiplier =
      n * 10 ^ ((s.fraction.getD []).rdropWhile (· = '0')).length := by
  obtain ⟨zeros, hlen, hnumber⟩ := number_rdropWhile (s.fraction.getD [])
  rw [value, hnumber, hlen, number_append]
  generalize (s.fraction.getD []).rdropWhile (· = '0') = f
  rw [← Nat.cast_inj (R := ℚ)]
  push_cast
  rw [pow_add]
  field_simp

/-- With up to 19 fraction digits, trailing zeros apart, a spelling is read exactly. -/
theorem parseQuantity_text (s : Spelling) (hshort : ((s.fraction.getD []).rdropWhile (· = '0')).length ≤ 19) (n : Nat) :
    parseQuantity s.text = .ok n ↔ s.value = n ∧ 1 ≤ n ∧ n ≤ maxBytes := by
  rw [parseQuantity, splitQuantity_text, value_eq_iff]
  exact quantityBytes_eq_ok s.multiplier_pos hshort

/-- A count of some unit, as `format_quantity` writes it. -/
def ofCount (count : Nat) (unit : Option (Text × Nat)) (h : ∀ u ∈ unit, u ∈ units) : Spelling where
  whole := Nat.toDigits 10 count
  fraction := none
  unit
  wholeDigits := ⟨Nat.toDigits_ne_nil, fun _ hc => Nat.isDigit_of_mem_toDigits (by decide) (by decide) hc⟩
  fractionDigits := nofun
  unitKnown := h

end Spelling

/-- One and a half gibibytes. -/
def oneAndHalfGi : Spelling where
  whole := ['1']
  fraction := some ['5', '0']
  unit := some (['G', 'i'], 2 ^ 30)
  wholeDigits := ⟨by decide, List.all_eq_true.1 (by decide)⟩
  fractionDigits := by rintro _ ⟨⟩; exact ⟨by decide, List.all_eq_true.1 (by decide)⟩
  unitKnown := by decide

/-- One byte, written as a fraction of a tebibyte: the power of ten of its 40 digits does not fit 128 bits. -/
def fineTi : Spelling where
  whole := ['0']
  fraction := some "0000000000009094947017729282379150390625".toList
  unit := some (['T', 'i'], 2 ^ 40)
  wholeDigits := ⟨by decide, List.all_eq_true.1 (by decide)⟩
  fractionDigits := by rintro _ ⟨⟩; exact ⟨by decide, List.all_eq_true.1 (by decide)⟩
  unitKnown := by decide

end Rlmesh.Cli
