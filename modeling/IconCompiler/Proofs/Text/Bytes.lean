import Mathlib.Data.String.Basic
import Mathlib.Tactic.SplitIfs

/-! # Texts and their bytes

    A text is read back from its bytes (`fromUTF8?_toUTF8`).  The first byte of a
    character tells how many follow, and more bytes belong to larger codes; so of
    two characters the smaller one has the smaller bytes, whatever follows
    (`encoding_append_lt`).  Texts therefore come in the order of their bytes
    (`bytes_lt_bytes`). -/

namespace IconCompiler.Text

theorem fromUTF8?_toUTF8 (text : String) : String.fromUTF8? text.toUTF8 = some text := by
  rw [String.fromUTF8?, String.toUTF8_eq_toByteArray, dif_pos text.isValidUTF8]
  rfl

/-! ## Order -/

/-- The bytes of a text. -/
def bytes (s : String) : List UInt8 :=
  s.toUTF8.data.toList

theorem bytes_eq_flatMap (s : String) : bytes s = s.toList.flatMap String.utf8EncodeChar := by
  have hencoded : s.toUTF8 = (s.toList.flatMap String.utf8EncodeChar).toByteArray :=
    String.utf8Encode_toList.symm
  rw [bytes, hencoded, List.data_toByteArray]

/-- Of two lists of bytes the one with the smaller first byte is smaller; if the
    first bytes are the same, what follows decides. -/
theorem ofNat_cons_lt {a b : Nat} {rest more : List UInt8} (hb : b < 256) (hle : a ≤ b)
    (hsame : a = b → rest < more) : UInt8.ofNat a :: rest < UInt8.ofNat b :: more := by
  rw [List.cons_lt_cons_iff]
  rcases Nat.lt_or_eq_of_le hle with hlt | heq
  · refine .inl (UInt8.lt_iff_toNat_lt.mpr ?_)
    rw [UInt8.toNat_ofNat_of_lt' (Nat.lt_trans hlt hb), UInt8.toNat_ofNat_of_lt' hb]
    exact hlt
  · exact .inr ⟨congrArg UInt8.ofNat heq, hsame heq⟩

/-- The bytes of a smaller character are smaller, whatever follows. -/
theorem encoding_append_lt {c d : Char} (h : c < d) (rest more : List UInt8) :
    String.utf8EncodeChar c ++ rest < String.utf8EncodeChar d ++ more := by
  have hlt : c.val.toNat < d.val.toNat := h
  have hbound : d.val.toNat < 0x110000 := by
    rcases d.valid with hsmall | ⟨-, hlarge⟩
    · exact Nat.lt_trans hsmall (by decide)
    · exact hlarge
  rw [String.utf8EncodeChar, String.utf8EncodeChar]
  generalize c.val.toNat = v at hlt
  generalize d.val.toNat = w at hlt hbound
  -- the smaller code has no more bytes; with fewer of them already the first one is smaller
  split_ifs <;> try omega
  · exact ofNat_cons_lt (by omega) (by omega) fun _ => by omega
  · exact ofNat_cons_lt (by omega) (by omega) fun _ => by omega
  · exact ofNat_cons_lt (by omega) (by omega) fun _ => by omega
  · exact ofNat_cons_lt (by omega) (by omega) fun _ => by omega
  · refine ofNat_cons_lt (by omega) (by omega) fun hfirst => ?_
    exact ofNat_cons_lt (by omega) (by omega) fun _ => by omega
  · exact ofNat_cons_lt (by omega) (by omega) fun _ => by omega
  · exact ofNat_cons_lt (by omega) (by omega) fun _ => by omega
  · refine ofNat_cons_lt (by omega) (by omega) fun hfirst => ?_
    refine ofNat_cons_lt (by omega) (by omega) fun hsecond => ?_
    exact ofNat_cons_lt (by omega) (by omega) fun _ => by omega
  · exact ofNat_cons_lt (by omega) (by omega) fun _ => by omega
  · refine ofNat_cons_lt (by omega) (by omega) fun hfirst => ?_
    refine ofNat_cons_lt (by omega) (by omega) fun hsecond => ?_
    refine ofNat_cons_lt (by omega) (by omega) fun hthird => ?_
    exact ofNat_cons_lt (by omega) (by omega) fun _ => by omega

theorem flatMap_encoding_lt {cs ds : List Char} (h : cs < ds) :
    cs.flatMap String.utf8EncodeChar < ds.flatMap String.utf8EncodeChar := by
  induction cs generalizing ds with
  | nil =>
      cases ds with
      | nil => exact absurd h (List.not_lt_nil _)
      | cons d rest =>
          obtain ⟨first, more, hfirst⟩ :=
            List.exists_cons_of_ne_nil (@String.utf8EncodeChar_ne_nil d)
          rw [List.flatMap_cons, hfirst]
          exact List.nil_lt_cons ..
  | cons c rest ih =>
      cases ds with
      | nil => exact absurd h (List.not_lt_nil _)
      | cons d more =>
          rw [List.flatMap_cons, List.flatMap_cons]
          rcases List.cons_lt_cons_iff.mp h with hlt | ⟨rfl, hrest⟩
          · exact encoding_append_lt hlt _ _
          · exact List.append_left_lt (ih hrest)

/-- A text that comes before another one has the smaller bytes. -/
theorem bytes_lt_bytes {a b : String} (h : a < b) : bytes a < bytes b := by
  rw [bytes_eq_flatMap, bytes_eq_flatMap]
  exact flatMap_encoding_lt (String.lt_iff_toList_lt.mp h)

end IconCompiler.Text
