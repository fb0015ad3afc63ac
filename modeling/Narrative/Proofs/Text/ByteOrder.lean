import Mathlib.Tactic.SplitIfs
import Narrative.Text.Split

/-!
The order of texts and the order of their bytes. Texts are compared character by character, by
code point; stored texts are compared byte by byte. The encoding keeps the order, for of two
characters the one with the smaller code point also has the smaller bytes, wherever they end.
-/

namespace Narrative.Text

/-- The bytes of a text as it is stored. -/
def bytes (s : String) : List UInt8 :=
  s.toByteArray.data.toList

theorem bytes_ofList (text : List Char) :
    bytes (String.ofList text) = text.flatMap String.utf8EncodeChar := by
  simp [bytes, String.toByteArray_ofList, List.utf8Encode]

/-- A byte that is put together from some bits and a mark above them loses none of the two. -/
private theorem toNat_toUInt8_mod {size lead : Nat} (hsize : 0 < size) (h : size + lead ≤ 256)
    (n : Nat) : (n % size + lead).toUInt8.toNat = n % size + lead := by
  have hlt := Nat.mod_lt n hsize
  rw [Nat.toUInt8, UInt8.toNat_ofNat', Nat.mod_eq_of_lt (by omega)]

/-- A code point in groups of six bits, of which a character of four bytes carries four. -/
private theorem eq_sum_groups {n : Nat} (h : n < 0x110000) :
    n = 262144 * (n / 262144 % 8) + 4096 * (n / 4096 % 64) + 64 * (n / 64 % 64) + n % 64 := by
  omega

/-- The smaller of two characters has the smaller bytes, whatever comes after them. -/
theorem utf8EncodeChar_append_lt {c d : Char} (h : c < d) (s t : List UInt8) :
    String.utf8EncodeChar c ++ s < String.utf8EncodeChar d ++ t := by
  have hlt : c.val.toNat < d.val.toNat := h
  have hmax : d.val.toNat < 0x110000 := by
    have hvalid : d.val.toNat.isValidChar := d.valid
    simp only [Nat.isValidChar] at hvalid
    omega
  unfold String.utf8EncodeChar
  generalize c.val.toNat = v at hlt
  generalize d.val.toNat = w at hlt hmax
  have hv := eq_sum_groups (Nat.lt_trans hlt hmax)
  have hw := eq_sum_groups hmax
  dsimp only
  -- one case for each pair of lengths; the larger code point never has fewer bytes
  split_ifs
  all_goals
    simp (disch := decide) only [List.cons_append, List.nil_append, List.cons_lt_cons_iff,
      UInt8.lt_iff_toNat_lt, ← UInt8.toNat_inj, toNat_toUInt8_mod]
    try simp only [UInt8.toNat_ofNat']
    omega

theorem flatMap_utf8EncodeChar_lt {text other : List Char} (h : text < other) :
    text.flatMap String.utf8EncodeChar < other.flatMap String.utf8EncodeChar := by
  induction h with
  | nil =>
      rename_i d other
      have hne : String.utf8EncodeChar d ≠ [] := String.utf8EncodeChar_ne_nil
      obtain ⟨first, others, hd⟩ := List.exists_cons_of_ne_nil hne
      simp [hd]
  | rel hlt => exact utf8EncodeChar_append_lt hlt _ _
  | cons _ ih => exact List.append_left_lt ih

/-- The smaller of two texts has the smaller bytes. -/
theorem bytes_lt_bytes {s t : String} (h : s < t) : bytes s < bytes t := by
  rw [← String.ofList_toList (s := s), ← String.ofList_toList (s := t), bytes_ofList, bytes_ofList]
  exact flatMap_utf8EncodeChar_lt (String.lt_iff.mp h)

end Narrative.Text
