import WorkItems.Dict
/-!
# The order of texts

Texts are compared by their code points, which is also the order of their bytes in UTF-8
(`lt_iff_bytes_lt`). The encoding of a character starts with a byte that grows with the number of
its bytes, and encodings of one length are the digits of the code point, the highest one first.
-/

namespace WorkItems.Text

/-- The bytes of a text in UTF-8. -/
def bytes (text : String) : List UInt8 := text.toUTF8.data.toList

theorem bytes_eq (text : String) : bytes text = text.toList.flatMap String.utf8EncodeChar := by
  have h : text.toUTF8 = text.toList.utf8Encode := by simp
  rw [bytes, h, List.utf8Encode, List.data_toByteArray]

theorem toList_loop (b : ByteArray) (i : Nat) (acc : List UInt8) :
    ByteArray.toList.loop b i acc = acc.reverse ++ b.data.toList.drop i := by
  have hlength : b.data.toList.length = b.size := Array.length_toList
  induction hn : b.size - i generalizing i acc with
  | zero =>
      rw [ByteArray.toList.loop, if_neg (by omega), List.drop_eq_nil_of_le (by omega),
        List.append_nil]
  | succ n ih =>
      have hi : i < b.data.toList.length := by omega
      have hget : b.get! i = b.data.toList[i] := by
        rw [Array.getElem_toList]
        exact getElem!_pos b.data i hi
      rw [ByteArray.toList.loop, if_pos (by omega), ih _ _ (by omega), List.drop_eq_getElem_cons hi,
        hget]
      simp

/-- The octets of a character. -/
theorem toList_toUTF8_singleton (c : Char) :
    (String.singleton c).toUTF8.toList = String.utf8EncodeChar c := by
  have h := bytes_eq (String.singleton c)
  rw [bytes, String.toList_singleton, List.flatMap_singleton] at h
  rw [ByteArray.toList, toList_loop, ← h]
  rfl

theorem ofNat_lt_ofNat {m n : Nat} (hn : n < 256) (h : m < n) : UInt8.ofNat m < UInt8.ofNat n := by
  rw [UInt8.lt_iff_toNat_lt, UInt8.toNat_ofNat', UInt8.toNat_ofNat', Nat.mod_eq_of_lt hn,
    Nat.mod_eq_of_lt (Nat.lt_trans h hn)]
  exact h

/-- Encodings of four bytes are compared one digit after the other. -/
theorem four_digits_lt {m n : Nat} (hn : n < 1114112) (h : m < n) (r r' : List UInt8) :
    UInt8.ofNat (m / 262144 % 8 + 240) :: UInt8.ofNat (m / 4096 % 64 + 128) ::
        UInt8.ofNat (m / 64 % 64 + 128) :: UInt8.ofNat (m % 64 + 128) :: r <
      UInt8.ofNat (n / 262144 % 8 + 240) :: UInt8.ofNat (n / 4096 % 64 + 128) ::
        UInt8.ofNat (n / 64 % 64 + 128) :: UInt8.ofNat (n % 64 + 128) :: r' := by
  simp only [List.cons_lt_cons_iff]
  rcases Nat.lt_or_ge (m / 262144) (n / 262144) with hlt | h1
  · exact .inl (ofNat_lt_ofNat (by omega) (by omega))
  · have h1 : m / 262144 = n / 262144 := by omega
    refine .inr ⟨by rw [h1], ?_⟩
    rcases Nat.lt_or_ge (m / 4096) (n / 4096) with hlt | h2
    · exact .inl (ofNat_lt_ofNat (by omega) (by omega))
    · have h2 : m / 4096 = n / 4096 := by omega
      refine .inr ⟨by rw [h2], ?_⟩
      rcases Nat.lt_or_ge (m / 64) (n / 64) with hlt | h3
      · exact .inl (ofNat_lt_ofNat (by omega) (by omega))
      · have h3 : m / 64 = n / 64 := by omega
        exact .inr ⟨by rw [h3], .inl (ofNat_lt_ofNat (by omega) (by omega))⟩

/-- The encoding of a greater character is greater, whatever comes behind the two. -/
theorem encode_lt_of_lt {c d : Char} (h : c < d) (r r' : List UInt8) :
    String.utf8EncodeChar c ++ r < String.utf8EncodeChar d ++ r' := by
  have hlt : c.val.toNat < d.val.toNat := h
  have hd : d.val.toNat < 1114112 := by
    rcases d.valid with h | h
    · omega
    · exact h.2
  simp only [String.utf8EncodeChar]
  by_cases hc : c.val.toNat ≤ 65535
  · -- The first bytes differ, or the digits are few enough to compare the numbers at once.
    generalize c.val.toNat = m at *
    generalize d.val.toNat = n at *
    repeat' split
    all_goals
      simp only [List.cons_append, List.cons_lt_cons_iff, UInt8.lt_iff_toNat_lt,
        ← UInt8.toNat_inj, UInt8.toNat_ofNat']
      omega
  · iterate 3 rw [if_neg (by omega)]
    iterate 3 rw [if_neg (by omega)]
    exact four_digits_lt hd hlt r r'

theorem append_lt_append {l as bs : List UInt8} (h : as < bs) : l ++ as < l ++ bs := by
  induction l with
  | nil => exact h
  | cons b l ih => exact List.cons_lt_cons_iff.2 (.inr ⟨rfl, ih⟩)

theorem encode_lt : ∀ {cs ds : List Char}, cs < ds →
    cs.flatMap String.utf8EncodeChar < ds.flatMap String.utf8EncodeChar
  | _, [], h => absurd h (List.not_lt_nil _)
  | [], d :: ds, _ => by
      rw [List.flatMap_nil, List.flatMap_cons]
      cases hd : String.utf8EncodeChar d with
      | nil => exact absurd hd String.utf8EncodeChar_ne_nil
      | cons b bs => exact List.nil_lt_cons ..
  | c :: cs, d :: ds, h => by
      rw [List.flatMap_cons, List.flatMap_cons]
      rcases List.cons_lt_cons_iff.1 h with hlt | ⟨rfl, hlt⟩
      · exact encode_lt_of_lt hlt _ _
      · exact append_lt_append (encode_lt hlt)

/-- Texts are compared as their bytes are. -/
theorem lt_iff_bytes_lt {a b : String} : a < b ↔ bytes a < bytes b := by
  have himp : ∀ {a b : String}, a < b → bytes a < bytes b := by
    intro a b h
    rw [bytes_eq, bytes_eq]
    exact encode_lt h
  refine ⟨himp, fun h => Decidable.byContradiction fun hnot => ?_⟩
  by_cases heq : a = b
  · exact List.lt_irrefl _ (heq ▸ h)
  · exact List.lt_asymm h (himp (Entries.lt_of_not_lt_of_ne hnot heq))

end WorkItems.Text
