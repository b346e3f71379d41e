import Mathlib.Data.String.Basic
import Mathlib.Tactic.SplitIfs
import StateIntern.Handle

/-! The order of handles. A character with a greater code point has a greater encoding, byte for
byte, so texts in the order of their characters are in the order of their bytes, and handles are in
the byte order of their keys. -/
namespace StateIntern

namespace Text

theorem bytes_ofList (letters : List Char) :
    bytes (String.ofList letters) = letters.flatMap String.utf8EncodeChar := by
  simp [bytes, List.utf8Encode]

/-- The bytes of a smaller character come first, whatever follows. -/
theorem utf8EncodeChar_append_lt {c d : Char} (less : c < d) (u v : List UInt8) :
    String.utf8EncodeChar c ++ u < String.utf8EncodeChar d ++ v := by
  have less : c.val.toNat < d.val.toNat := less
  have small : d.val.toNat < 0x110000 := by
    rcases d.valid with below | ⟨-, below⟩
    · have below : d.val.toNat < 0xd800 := below
      omega
    · exact below
  generalize codeC : c.val.toNat = m at less
  generalize codeD : d.val.toNat = n at less small
  -- a longer encoding begins with a greater byte; those of one length are numbers to the base 64
  simp only [String.utf8EncodeChar, codeC, codeD]
  split_ifs <;>
    simp only [List.cons_append, List.nil_append, List.cons_lt_cons_iff, UInt8.lt_iff_toNat_lt,
      ← UInt8.toNat_inj, UInt8.toNat_ofNat', Nat.reducePow] <;>
    simp (disch := omega) only [Nat.mod_eq_of_lt] <;>
    omega

theorem bytes_ofList_lt {s t : List Char} (less : s < t) :
    bytes (String.ofList s) < bytes (String.ofList t) := by
  simp only [bytes_ofList]
  induction less with
  | @nil d t =>
    have filled : String.utf8EncodeChar d ++ t.flatMap String.utf8EncodeChar ≠ [] := by simp
    obtain ⟨first, rest, same⟩ := List.exists_cons_of_ne_nil filled
    simp only [List.flatMap_nil, List.flatMap_cons, same, List.nil_lt_cons]
  | rel less => exact utf8EncodeChar_append_lt less _ _
  | cons _ ih => exact List.append_left_lt ih

theorem bytes_inj {k l : String} : bytes k = bytes l ↔ k = l := by
  simp [bytes, ByteArray.ext_iff, ← String.toByteArray_inj]

theorem bytes_lt_iff {k l : String} : bytes k < bytes l ↔ k < l := by
  have ascends {k l : String} (less : k < l) : bytes k < bytes l := by
    have ordered := bytes_ofList_lt (String.lt_iff_toList_lt.1 less)
    simpa only [String.ofList_toList] using ordered
  refine ⟨fun less => ?_, ascends⟩
  by_contra other
  rcases (String.not_lt.1 other).lt_or_eq with greater | same
  · exact List.lt_asymm less (ascends greater)
  · rw [same] at less
    exact List.lt_irrefl _ less

end Text

namespace Handle

variable {State : Type} {g h : Handle State}

theorem equal_iff : g.equal h = true ↔ g.key? = h.key? := by simp [equal]

/-- The byte order of keys, where no key at all comes first. -/
theorem order_eq_lt_iff :
    g.order h = .lt ↔ g.key?.map Text.bytes < h.key?.map Text.bytes := by
  unfold order
  cases g.key? <;> cases h.key? <;> simp [Text.bytes_lt_iff, compare_lt_iff_lt]

theorem order_eq_gt_iff :
    g.order h = .gt ↔ h.key?.map Text.bytes < g.key?.map Text.bytes := by
  unfold order
  cases g.key? <;> cases h.key? <;> simp [Text.bytes_lt_iff, compare_gt_iff_gt]

theorem order_eq_eq_iff : g.order h = .eq ↔ g.key? = h.key? := by
  unfold order
  cases g.key? <;> cases h.key? <;> simp

/-- The hash tells keys apart as far as the hashed bytes are told apart. -/
theorem hashed_inj : g.hashed = h.hashed ↔ g.key? = h.key? := by
  unfold hashed
  cases g.key? <;> cases h.key? <;> simp [Text.bytes_inj]

end Handle

end StateIntern
