import RecordFlow.Text.Utf8

/-!
# Utf8 — text written as bytes is read back

A character is written as a first byte and up to three further ones, each of which holds six bits of
its number.  The decoder takes the first byte for what it is, gathers the bits of the others and
ends up with the number of the character (`decodeFrom_char`); so what a text is written as is
decoded as that text (`decode_encode`).
-/

namespace RecordFlow
namespace Utf8

/-! ## The bytes of a text -/

theorem toList_loop (bytes : ByteArray) (i : Nat) (acc : List UInt8) :
    ByteArray.toList.loop bytes i acc = acc.reverse ++ bytes.data.toList.drop i := by
  -- on the bytes that are left
  induction hleft : bytes.size - i generalizing i acc with
  | zero =>
    have hend : ¬ i < bytes.size := by omega
    have hdrop : bytes.data.toList.drop i = [] := by
      refine List.drop_eq_nil_of_le ?_
      rw [Array.length_toList]
      exact Nat.le_of_not_lt hend
    rw [ByteArray.toList.loop, if_neg hend, hdrop, List.append_nil]
  | succ left ih =>
    have hmore : i < bytes.size := by omega
    have hlength : i < bytes.data.toList.length := by
      rw [Array.length_toList]
      exact hmore
    have hbyte : bytes.get! i = bytes.data.toList[i] := by
      have hsize : i < bytes.data.size := hmore
      show bytes.data[i]! = _
      rw [getElem!_pos bytes.data i hsize, Array.getElem_toList]
    rw [ByteArray.toList.loop, if_pos hmore, ih (i + 1) _ (by omega), hbyte,
      List.drop_eq_getElem_cons hlength, List.reverse_cons, List.append_assoc]
    rfl

theorem encode_eq (text : String) :
    encode text = text.toList.flatMap String.utf8EncodeChar := by
  have hbytes : text.toUTF8 = (text.toList.flatMap String.utf8EncodeChar).toByteArray := by
    show text.toByteArray = text.toList.utf8Encode
    exact String.utf8Encode_toList.symm
  rw [encode, hbytes, ByteArray.toList, toList_loop, List.toList_data_toByteArray]
  rfl

/-! ## One byte -/

/-- What the first byte of a character comes to, by its number. -/
theorem begin_ofNat {n : Nat} (hbyte : n < 256) :
    begin (.ofNat n) =
      if n < 0x80 then .char (Char.ofNat n)
      else if n < 0xc2 then .bad
      else if n < 0xe0 then .open ⟨n - 0xc0, 1, 0x80, 0xbf⟩
      else if n = 0xe0 then .open ⟨0, 2, 0xa0, 0xbf⟩
      else if n = 0xed then .open ⟨0xd, 2, 0x80, 0x9f⟩
      else if n < 0xf0 then .open ⟨n - 0xe0, 2, 0x80, 0xbf⟩
      else if n = 0xf0 then .open ⟨0, 3, 0x90, 0xbf⟩
      else if n < 0xf4 then .open ⟨n - 0xf0, 3, 0x80, 0xbf⟩
      else if n = 0xf4 then .open ⟨4, 3, 0x80, 0x8f⟩
      else .bad := by
  have hn : (UInt8.ofNat n).toNat = n := UInt8.toNat_ofNat_of_lt' hbyte
  unfold begin
  rw [hn]

theorem begin_two {v : Nat} (hlow : 127 < v) (hhigh : v ≤ 2047) :
    begin (.ofNat (v / 64 % 32 + 192)) = .open ⟨v / 64, 1, 0x80, 0xbf⟩ := by
  have hlead : v / 64 % 32 + 192 - 192 = v / 64 := by omega
  rw [begin_ofNat (by omega), if_neg (by omega), if_neg (by omega), if_pos (by omega), hlead]

/-- The first of three bytes bounds the second one, so that no character has a longer form than it
needs, and none is a surrogate. -/
theorem begin_three {v : Nat} (hlow : 2047 < v) (hhigh : v ≤ 65535)
    (hvalid : v < 0xd800 ∨ 0xe000 ≤ v) :
    ∃ low high : UInt8, begin (.ofNat (v / 4096 % 16 + 224)) = .open ⟨v / 4096, 2, low, high⟩ ∧
      low.toNat ≤ v / 64 % 64 + 128 ∧ v / 64 % 64 + 128 ≤ high.toNat := by
  rw [begin_ofNat (by omega), if_neg (by omega), if_neg (by omega), if_neg (by omega)]
  split
  case isTrue hleast =>
    have hlead : v / 4096 = 0 := by omega
    rw [hlead]
    refine ⟨_, _, rfl, ?_⟩
    show 160 ≤ _ ∧ _ ≤ 191
    omega
  case isFalse =>
    split
    case isTrue hsurrogates =>
      have hlead : v / 4096 = 0xd := by omega
      rw [hlead]
      refine ⟨_, _, rfl, ?_⟩
      show 128 ≤ _ ∧ _ ≤ 159
      omega
    case isFalse =>
      have hlead : v / 4096 % 16 + 224 - 224 = v / 4096 := by omega
      rw [if_pos (by omega), hlead]
      refine ⟨_, _, rfl, ?_⟩
      show 128 ≤ _ ∧ _ ≤ 191
      omega

/-- The first of four bytes bounds the second one, so that no character has a longer form than it
needs, and none is out of range. -/
theorem begin_four {v : Nat} (hlow : 65535 < v) (hhigh : v < 0x110000) :
    ∃ low high : UInt8, begin (.ofNat (v / 262144 % 8 + 240)) =
        .open ⟨v / 262144, 3, low, high⟩ ∧
      low.toNat ≤ v / 4096 % 64 + 128 ∧ v / 4096 % 64 + 128 ≤ high.toNat := by
  rw [begin_ofNat (by omega), if_neg (by omega), if_neg (by omega), if_neg (by omega),
    if_neg (by omega), if_neg (by omega), if_neg (by omega)]
  split
  case isTrue hleast =>
    have hlead : v / 262144 = 0 := by omega
    rw [hlead]
    refine ⟨_, _, rfl, ?_⟩
    show 144 ≤ _ ∧ _ ≤ 191
    omega
  case isFalse =>
    split
    case isTrue hbetween =>
      have hlead : v / 262144 % 8 + 240 - 240 = v / 262144 := by omega
      rw [hlead]
      refine ⟨_, _, rfl, ?_⟩
      show 128 ≤ _ ∧ _ ≤ 191
      omega
    case isFalse =>
      have hlead : v / 262144 = 4 := by omega
      rw [if_pos (by omega), hlead]
      refine ⟨_, _, rfl, ?_⟩
      show 128 ≤ _ ∧ _ ≤ 143
      omega

/-- A further byte in its range adds its six bits. -/
theorem feed_ofNat {s : Sequence} {bits : Nat} (hbits : bits < 64)
    (hlow : s.low.toNat ≤ bits + 128) (hhigh : bits + 128 ≤ s.high.toNat) :
    s.feed (.ofNat (bits + 128)) =
      if s.missing ≤ 1 then .char (Char.ofNat (s.value * 64 + bits))
      else .open ⟨s.value * 64 + bits, s.missing - 1, 0x80, 0xbf⟩ := by
  have hn : (UInt8.ofNat (bits + 128)).toNat = bits + 128 :=
    UInt8.toNat_ofNat_of_lt' (by show bits + 128 < 256; omega)
  have hin : (decide (UInt8.ofNat (bits + 128) < s.low) ||
      decide (s.high < UInt8.ofNat (bits + 128))) = false := by
    simp only [Bool.or_eq_false_iff, decide_eq_false_iff_not, UInt8.not_lt, UInt8.le_iff_toNat_le,
      hn]
    exact ⟨hlow, hhigh⟩
  have hvalue : bits + 128 - 0x80 = bits := by omega
  unfold Sequence.feed
  rw [hin, hn, hvalue]
  rfl

/-! ## One character -/

section Steps

variable {good read value bits missing : Nat} {acc : List Char} {b low high : UInt8}
  {rest : List UInt8}

theorem decodeFrom_begin {s : Sequence} (hstep : begin b = .open s) :
    decodeFrom good read none acc (b :: rest) = decodeFrom good (read + 1) (some s) acc rest := by
  rw [decodeFrom.eq_def]
  dsimp only
  rw [hstep]

/-- A byte inside a character. -/
theorem decodeFrom_more (hbits : bits < 64) (hlow : low.toNat ≤ bits + 128)
    (hhigh : bits + 128 ≤ high.toNat) :
    decodeFrom good read (some ⟨value, missing + 2, low, high⟩) acc
        (.ofNat (bits + 128) :: rest) =
      decodeFrom good (read + 1) (some ⟨value * 64 + bits, missing + 1, 0x80, 0xbf⟩) acc rest := by
  have hstep := feed_ofNat (s := ⟨value, missing + 2, low, high⟩) hbits hlow hhigh
  rw [if_neg (by simp)] at hstep
  rw [decodeFrom.eq_def]
  dsimp only
  rw [hstep]
  rfl

/-- The byte that finishes a character. -/
theorem decodeFrom_last (hbits : bits < 64) (hlow : low.toNat ≤ bits + 128)
    (hhigh : bits + 128 ≤ high.toNat) :
    decodeFrom good read (some ⟨value, 1, low, high⟩) acc (.ofNat (bits + 128) :: rest) =
      decodeFrom (read + 1) (read + 1) none (Char.ofNat (value * 64 + bits) :: acc) rest := by
  have hstep := feed_ofNat (s := ⟨value, 1, low, high⟩) hbits hlow hhigh
  rw [if_pos (Nat.le_refl 1)] at hstep
  rw [decodeFrom.eq_def]
  dsimp only
  rw [hstep]

end Steps

/-- The numbers of characters leave out the surrogates. -/
theorem toNat_cases (c : Char) : c.toNat < 0xd800 ∨ (0xe000 ≤ c.toNat ∧ c.toNat < 0x110000) := by
  rcases c.valid with hlow | ⟨hhigh, hlimit⟩
  · exact .inl hlow
  · exact .inr ⟨hhigh, hlimit⟩

/-- A character takes up to four bytes, each of which but the first holds six bits. -/
theorem utf8EncodeChar_eq (c : Char) :
    String.utf8EncodeChar c =
      if c.toNat ≤ 127 then [.ofNat c.toNat]
      else if c.toNat ≤ 2047 then [.ofNat (c.toNat / 64 % 32 + 192), .ofNat (c.toNat % 64 + 128)]
      else if c.toNat ≤ 65535 then
        [.ofNat (c.toNat / 4096 % 16 + 224), .ofNat (c.toNat / 64 % 64 + 128),
          .ofNat (c.toNat % 64 + 128)]
      else
        [.ofNat (c.toNat / 262144 % 8 + 240), .ofNat (c.toNat / 4096 % 64 + 128),
          .ofNat (c.toNat / 64 % 64 + 128), .ofNat (c.toNat % 64 + 128)] := rfl

/-- The bytes of a character are decoded as that character. -/
theorem decodeFrom_char (c : Char) (good read : Nat) (acc : List Char) (rest : List UInt8) :
    ∃ read', decodeFrom good read none acc (String.utf8EncodeChar c ++ rest) =
      decodeFrom read' read' none (c :: acc) rest := by
  have hvalid := toNat_cases c
  have hchar : ∀ n, n = c.toNat → Char.ofNat n = c := by
    rintro n rfl
    exact Char.ofNat_toNat c
  rw [utf8EncodeChar_eq]
  generalize c.toNat = v at hvalid hchar
  have hsix : ∀ n, (0x80 : UInt8).toNat ≤ n % 64 + 128 ∧ n % 64 + 128 ≤ (0xbf : UInt8).toNat := by
    intro n
    show 128 ≤ _ ∧ _ ≤ 191
    omega
  have hbits : ∀ n, n % 64 < 64 := fun n => Nat.mod_lt n (by decide)
  split
  case isTrue hone =>
    have hlow : v < 0x80 := by omega
    have hstep : begin (.ofNat v) = .char c := by
      rw [begin_ofNat (by omega), if_pos hlow, hchar v rfl]
    refine ⟨read + 1, ?_⟩
    rw [List.singleton_append, decodeFrom.eq_def]
    dsimp only
    rw [hstep]
  case isFalse hmore =>
    split
    case isTrue htwo =>
      have hfirst := begin_two (v := v) (by omega) htwo
      refine ⟨read + 1 + 1, ?_⟩
      rw [List.cons_append, decodeFrom_begin hfirst, List.singleton_append,
        decodeFrom_last (hbits v) (hsix v).1 (hsix v).2, hchar _ (by omega)]
    case isFalse hmore =>
      split
      case isTrue hthree =>
        rcases begin_three (v := v) (by omega) hthree (by omega) with
          ⟨low, high, hfirst, hlow, hhigh⟩
        refine ⟨read + 1 + 1 + 1, ?_⟩
        rw [List.cons_append, decodeFrom_begin hfirst, List.cons_append,
          decodeFrom_more (hbits _) hlow hhigh, List.singleton_append,
          decodeFrom_last (hbits v) (hsix v).1 (hsix v).2, hchar _ (by omega)]
      case isFalse hmore =>
        rcases begin_four (v := v) (by omega) (by omega) with
          ⟨low, high, hfirst, hlow, hhigh⟩
        refine ⟨read + 1 + 1 + 1 + 1, ?_⟩
        rw [List.cons_append, decodeFrom_begin hfirst, List.cons_append,
          decodeFrom_more (hbits _) hlow hhigh, List.cons_append,
          decodeFrom_more (hbits _) (hsix _).1 (hsix _).2, List.singleton_append,
          decodeFrom_last (hbits v) (hsix v).1 (hsix v).2, hchar _ (by omega)]

theorem decode_encode (text : String) : decode (encode text) = .ok text := by
  have hall : ∀ (cs : List Char) (good read : Nat) (acc : List Char),
      decodeFrom good read none acc (cs.flatMap String.utf8EncodeChar) =
        .ok (acc.reverse ++ cs) := by
    intro cs
    induction cs with
    | nil => intro good read acc; simp [decodeFrom]
    | cons c cs ih =>
      intro good read acc
      rcases decodeFrom_char c good read acc (cs.flatMap String.utf8EncodeChar) with ⟨read', hread⟩
      rw [List.flatMap_cons, hread, ih]
      simp
  rw [decode, encode_eq, hall]
  simp [Except.map]

end Utf8
end RecordFlow
