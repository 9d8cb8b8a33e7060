import Mathlib
/-!
# Splitting and selecting

Two functions of the standard library of the source language: a text cut at the
first occurrence of a character, and the last entry of a list with the greatest
key. Where the key is injective the selection is determined by the members of
the list alone.
-/

namespace Rlmesh.Lib

/-! ## Texts -/

/-- A text, as the characters it holds; texts are ordered by code point. -/
abbrev Text := List Char

/-- The characters of the Unicode property `White_Space`. -/
def isWhitespace (c : Char) : Bool :=
  let n := c.toNat
  (9 ≤ n && n ≤ 13) || n == 0x20 || n == 0x85 || n == 0xA0 || n == 0x1680 || (0x2000 ≤ n && n ≤ 0x200A)
    || n == 0x2028 || n == 0x2029 || n == 0x202F || n == 0x205F || n == 0x3000

/-- A text without its leading and trailing whitespace. -/
def trim (s : Text) : Text :=
  (s.dropWhile isWhitespace).rdropWhile isWhitespace

/-- A text cut at the first `c`: what stands before it and what stands after it. -/
def splitOnce (c : Char) (s : Text) : Option (Text × Text) :=
  match s.dropWhile (· != c) with
  | [] => none
  | _ :: after => some (s.takeWhile (· != c), after)

theorem splitOnce_some {c : Char} {s before after : Text} (h : splitOnce c s = some (before, after)) :
    s = before ++ c :: after := by
  unfold splitOnce at h
  split at h
  · cases h
  · rename_i d rest hdrop
    obtain ⟨rfl, rfl⟩ : s.takeWhile (· != c) = before ∧ rest = after := by simpa using h
    have hd : d = c := by
      have := List.head?_dropWhile_not (· != c) s
      simpa [hdrop] using this
    rw [hd] at hdrop
    rw [← hdrop, List.takeWhile_append_dropWhile]

theorem trim_trim (s : Text) : trim (trim s) = trim s := by
  have hfront : (trim s).dropWhile isWhitespace = trim s := by
    rw [List.dropWhile_eq_self_iff]
    intro hlen
    have hfirst : trim s <+: s.dropWhile isWhitespace := List.rdropWhile_prefix ..
    obtain ⟨rest, hrest⟩ := hfirst
    have hpos : 0 < (s.dropWhile isWhitespace).length := by
      rw [← hrest, List.length_append]
      omega
    have hhead := List.dropWhile_get_zero_not isWhitespace s hpos
    have hsame : (trim s)[0] = (s.dropWhile isWhitespace)[0] := by
      simp only [← hrest, List.getElem_append_left hlen]
    rw [hsame]
    exact hhead
  rw [trim, hfront]
  exact List.rdropWhile_idempotent ..

/-! ## Selecting by a key -/

section MaxByKey

variable {α κ : Type} [LinearOrder κ]

/-- The last entry among those whose key is greatest. -/
def maxByKey (key : α → κ) (l : List α) : Option α :=
  l.reverse.argmax key

variable {key : α → κ}

@[simp] theorem maxByKey_eq_none {l : List α} : maxByKey key l = none ↔ l = [] := by
  simp [maxByKey]

/-- Under an injective key the selected entry is the one no other exceeds. -/
theorem maxByKey_eq_some (hkey : Function.Injective key) {l : List α} {m : α} :
    maxByKey key l = some m ↔ m ∈ l ∧ ∀ a ∈ l, key a ≤ key m := by
  constructor
  · intro h
    have hmem := List.argmax_mem h
    refine ⟨List.mem_reverse.1 hmem, fun a ha => ?_⟩
    exact List.le_of_mem_argmax (List.mem_reverse.2 ha) h
  · rintro ⟨hmem, hmax⟩
    cases h : maxByKey key l with
    | none => simp [maxByKey_eq_none.1 h] at hmem
    | some n =>
      have hn := List.argmax_mem h
      have hle := List.le_of_mem_argmax (List.mem_reverse.2 hmem) h
      have hge := hmax n (List.mem_reverse.1 hn)
      rw [hkey (le_antisymm hge hle)]

end MaxByKey

end Rlmesh.Lib
