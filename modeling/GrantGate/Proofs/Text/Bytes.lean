import Mathlib.Data.List.Lex
import Mathlib.Tactic.SplitIfs

namespace GrantGate.Text

def bytes (s : String) : List UInt8 := s.toUTF8.data.toList

/-- Bytes are compared at the first place where they differ, and an end comes before all. -/
def BytesLt (a b : String) : Prop := List.Lex (· < ·) (bytes a) (bytes b)

private theorem bytes_eq (s : String) : bytes s = s.toList.flatMap String.utf8EncodeChar := by
  have encoded : s.toUTF8 = (s.toList.flatMap String.utf8EncodeChar).toByteArray :=
    String.utf8Encode_toList.symm
  rw [bytes, encoded, List.toList_data_toByteArray]

private theorem val_lt (c : Char) : c.val.toNat < 0x110000 := by
  rcases c.valid with h | h
  · omega
  · exact h.2

private theorem lex_encode_of_lt {c d : Char} (h : c < d) (u v : List UInt8) :
    List.Lex (· < ·) (String.utf8EncodeChar c ++ u) (String.utf8EncodeChar d ++ v) := by
  have hc : c.val.toNat < 0x110000 := val_lt c
  have hd : d.val.toNat < 0x110000 := val_lt d
  have hlt : c.val.toNat < d.val.toNat := h
  -- each byte after the first one holds six bits
  have twice (n : Nat) : n / 4096 = n / 64 / 64 := by omega
  have thrice (n : Nat) : n / 262144 = n / 64 / 64 / 64 := by omega
  simp only [String.utf8EncodeChar, twice, thrice]
  split_ifs <;>
    simp (disch := omega) only [List.cons_append, List.nil_append, List.cons_lex_cons_iff,
      UInt8.lt_iff_toNat_lt, ← UInt8.toNat_inj, UInt8.toNat_ofNat', Nat.mod_eq_of_lt] <;>
    omega

private theorem lex_flatMap_of_lex {cs ds : List Char} (h : List.Lex (· < ·) cs ds) :
    List.Lex (· < ·) (cs.flatMap String.utf8EncodeChar) (ds.flatMap String.utf8EncodeChar) := by
  induction h with
  | @nil d ds =>
    obtain ⟨b, bs, first⟩ := List.exists_cons_of_ne_nil (String.utf8EncodeChar_ne_nil (c := d))
    rw [List.flatMap_cons, first]
    exact .nil
  | rel h =>
    rw [List.flatMap_cons, List.flatMap_cons]
    exact lex_encode_of_lt h _ _
  | cons _ ih =>
    rw [List.flatMap_cons, List.flatMap_cons]
    exact ih.append_left _ _

theorem bytesLt_of_lt {a b : String} (h : a < b) : BytesLt a b := by
  rw [BytesLt, bytes_eq, bytes_eq]
  exact lex_flatMap_of_lex h

end GrantGate.Text
