import SurfaceBridge.Text.Bytes

set_option autoImplicit false

/-! # The order of bytes

Texts are compared character by character, and characters by their code points. Their bytes in
UTF-8 are in the same order (`lt_iff_bytes_lt`): of two characters, the one with the smaller code
point has the smaller byte at the first place where their bytes differ (`encode_append_lt`).
-/

namespace SurfaceBridge

namespace Text

/-- The bytes of a text in UTF-8. -/
def bytes (s : String) : List UInt8 := s.toUTF8.data.toList

theorem bytes_eq (s : String) : bytes s = s.toList.flatMap String.utf8EncodeChar := by
  have hencode : s.toList.utf8Encode = s.toUTF8 := String.utf8Encode_toList
  rw [bytes, ← hencode, List.utf8Encode, List.data_toByteArray]

/-! ## Characters -/

theorem ofNat_lt_iff {m n : Nat} : UInt8.ofNat m < UInt8.ofNat n ↔ m % 256 < n % 256 := by
  rw [UInt8.lt_iff_toNat_lt, UInt8.toNat_ofNat', UInt8.toNat_ofNat']

theorem ofNat_eq_iff {m n : Nat} : UInt8.ofNat m = UInt8.ofNat n ↔ m % 256 = n % 256 := by
  rw [← UInt8.toNat_inj, UInt8.toNat_ofNat', UInt8.toNat_ofNat']

/-- A character has up to four bytes. The bits of its code point are distributed over them, and the
first byte tells how many there are. -/
theorem exists_bytes (c : Char) :
    (∃ w, w < 128 ∧ c.toNat = w ∧ String.utf8EncodeChar c = [.ofNat w])
      ∨ (∃ w x, 2 ≤ w ∧ w < 32 ∧ x < 64 ∧ c.toNat = 64 * w + x
        ∧ String.utf8EncodeChar c = [.ofNat (w + 192), .ofNat (x + 128)])
      ∨ (∃ w x y, w < 16 ∧ x < 64 ∧ y < 64 ∧ 0x800 ≤ c.toNat
        ∧ c.toNat = 4096 * w + 64 * x + y
        ∧ String.utf8EncodeChar c = [.ofNat (w + 224), .ofNat (x + 128), .ofNat (y + 128)])
      ∨ (∃ w x y z, w < 8 ∧ x < 64 ∧ y < 64 ∧ z < 64 ∧ 0x10000 ≤ c.toNat
        ∧ c.toNat = 262144 * w + 4096 * x + 64 * y + z
        ∧ String.utf8EncodeChar c
          = [.ofNat (w + 240), .ofNat (x + 128), .ofNat (y + 128), .ofNat (z + 128)]) := by
  have hlimit : c.toNat < 0x110000 := by
    have hvalid := c.valid
    unfold UInt32.isValidChar Nat.isValidChar at hvalid
    show c.val.toNat < _
    omega
  have hval : c.val.toNat = c.toNat := rfl
  unfold String.utf8EncodeChar
  dsimp only
  rw [hval]
  by_cases hone : c.toNat ≤ 0x7f
  · exact Or.inl ⟨_, by omega, rfl, if_pos hone⟩
  · rw [if_neg hone]
    by_cases htwo : c.toNat ≤ 0x7ff
    · exact Or.inr (Or.inl ⟨_, _, by omega, by omega, by omega, by omega, if_pos htwo⟩)
    · rw [if_neg htwo]
      by_cases hthree : c.toNat ≤ 0xffff
      · exact Or.inr (Or.inr (Or.inl
          ⟨_, _, _, by omega, by omega, by omega, by omega, by omega, if_pos hthree⟩))
      · exact Or.inr (Or.inr (Or.inr
          ⟨_, _, _, _, by omega, by omega, by omega, by omega, by omega, by omega,
            if_neg hthree⟩))

/-- The bytes of a smaller character come first, whatever follows: it has fewer bytes, or as many,
and then the higher bits of a code point stand in front. -/
theorem encode_append_lt {c d : Char} (h : c < d) (s t : List UInt8) :
    String.utf8EncodeChar c ++ s < String.utf8EncodeChar d ++ t := by
  have hlt : c.toNat < d.toNat := h
  -- one case for each pair of numbers of bytes, in which the first bytes that differ are compared
  rcases exists_bytes c with ⟨w, hw, hc, ec⟩ | ⟨w, x, hw', hw, hx, hc, ec⟩
    | ⟨w, x, y, hw, hx, hy, hc', hc, ec⟩ | ⟨w, x, y, z, hw, hx, hy, hz, hc', hc, ec⟩ <;>
    rcases exists_bytes d with ⟨w', hv, hd, ed⟩ | ⟨w', x', hv', hv, hx', hd, ed⟩
      | ⟨w', x', y', hv, hx', hy', hd', hd, ed⟩
      | ⟨w', x', y', z', hv, hx', hy', hz', hd', hd, ed⟩ <;>
    rw [ec, ed] <;>
    simp only [List.cons_append, List.nil_append, List.cons_lt_cons_iff, ofNat_lt_iff,
      ofNat_eq_iff] <;>
    omega

/-! ## Texts -/

theorem flatMap_encode_lt {s t : List Char} (h : s < t) :
    s.flatMap String.utf8EncodeChar < t.flatMap String.utf8EncodeChar := by
  induction s generalizing t with
  | nil =>
      cases t with
      | nil => exact absurd h (List.lt_irrefl [])
      | cons d t =>
          obtain ⟨b, bs, hb⟩ := List.exists_cons_of_ne_nil (String.utf8EncodeChar_ne_nil (c := d))
          rw [List.flatMap_nil, List.flatMap_cons, hb]
          exact List.nil_lt_cons _ _
  | cons c s ih =>
      cases t with
      | nil => exact absurd h (List.not_lt_nil _)
      | cons d t =>
          rw [List.flatMap_cons, List.flatMap_cons]
          rcases List.cons_lt_cons_iff.1 h with hlt | ⟨rfl, hlt⟩
          · exact encode_append_lt hlt _ _
          · exact List.append_left_lt (ih hlt)

/-- The order of texts is the order of their bytes. -/
theorem lt_iff_bytes_lt {s t : String} : s < t ↔ bytes s < bytes t := by
  have hbytes : ∀ {s t : String}, s < t → bytes s < bytes t := by
    intro s t h
    rw [bytes_eq, bytes_eq]
    exact flatMap_encode_lt (String.lt_iff.1 h)
  refine ⟨hbytes, fun h => ?_⟩
  refine Decidable.byContradiction fun hnot => ?_
  by_cases heq : s = t
  · subst heq
    exact List.lt_irrefl _ h
  · have hlt : t < s := Std.lt_of_le_of_ne (String.not_lt.1 hnot) (Ne.symm heq)
    exact List.lt_asymm h (hbytes hlt)

end Text

end SurfaceBridge
