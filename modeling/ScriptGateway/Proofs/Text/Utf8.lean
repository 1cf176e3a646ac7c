import ScriptGateway.Text.Utf8

/-!
# Decoding what was encoded

The bytes of a text are read back as its characters (`decode?_encode`). A character takes from one
to four bytes; the first one tells how many follow and what bounds the next one has (`Lead`).
-/

set_option autoImplicit false

namespace ScriptGateway.Text

theorem encode_eq_flatMap (s : String) : encode s = s.toList.flatMap String.utf8EncodeChar := by
  rw [encode, String.toUTF8_eq_toByteArray, ← String.utf8Encode_toList]
  exact List.toList_data_toByteArray

theorem utf8EncodeChar_of_ascii {c : Char} (h : c.toNat < 0x80) :
    String.utf8EncodeChar c = [UInt8.ofNat c.toNat] := by
  unfold String.utf8EncodeChar
  rw [Char.toNat_val, if_pos (Nat.le_of_lt_succ h)]

/-! ## First bytes -/

theorem lead?_one {n : Nat} (h : n ≤ 0x7F) : lead? n = some ⟨n, 0, 0, 0⟩ := by
  rw [lead?, if_pos (by omega)]

theorem lead?_two {n : Nat} (hlow : 2 ≤ n) (hhigh : n < 32) :
    lead? (n + 0xC0) = some ⟨n, 1, 0x80, 0xBF⟩ := by
  rw [lead?, if_neg (by omega), if_neg (by omega), if_pos (by omega), Nat.add_sub_cancel]

/-- The bounds of the second byte shut out overlong forms and surrogates. -/
theorem lead?_three {n m : Nat} (hn : n < 16) (hm : m < 64) (hlong : n = 0 → 32 ≤ m)
    (hscalar : n = 13 → m < 32) :
    ∃ low high, lead? (n + 0xE0) = some ⟨n, 2, low, high⟩ ∧ low ≤ m + 0x80 ∧ m + 0x80 ≤ high := by
  rw [lead?, if_neg (by omega), if_neg (by omega), if_neg (by omega)]
  by_cases hzero : n = 0
  · subst hzero
    exact ⟨0xA0, 0xBF, rfl, by omega, by omega⟩
  · by_cases hthirteen : n = 13
    · subst hthirteen
      exact ⟨0x80, 0x9F, rfl, by omega, by omega⟩
    · rw [if_neg (by omega), if_neg (by omega), if_pos (by omega), Nat.add_sub_cancel]
      exact ⟨0x80, 0xBF, rfl, by omega, by omega⟩

/-- The bounds of the second byte shut out overlong forms and what lies beyond the last code
point. -/
theorem lead?_four {n m : Nat} (hn : n < 5) (hm : m < 64) (hlong : n = 0 → 16 ≤ m)
    (hlast : n = 4 → m < 16) :
    ∃ low high, lead? (n + 0xF0) = some ⟨n, 3, low, high⟩ ∧ low ≤ m + 0x80 ∧ m + 0x80 ≤ high := by
  rw [lead?, if_neg (by omega), if_neg (by omega), if_neg (by omega), if_neg (by omega),
    if_neg (by omega), if_neg (by omega)]
  by_cases hzero : n = 0
  · subst hzero
    exact ⟨0x90, 0xBF, rfl, by omega, by omega⟩
  · by_cases hfour : n = 4
    · subst hfour
      exact ⟨0x80, 0x8F, rfl, by omega, by omega⟩
    · rw [if_neg (by omega), if_pos (by omega), Nat.add_sub_cancel]
      exact ⟨0x80, 0xBF, rfl, by omega, by omega⟩

/-! ## Characters -/

theorem toNat_ofNat_byte {n : Nat} (h : n < 256) : (UInt8.ofNat n).toNat = n :=
  UInt8.toNat_ofNat_of_lt h

/-- The bytes of a text in ASCII are ASCII too. -/
theorem encode_ascii {s : String} (h : ∀ c ∈ s.toList, c.toNat < 0x80) :
    ∀ byte ∈ encode s, byte < 0x80 := by
  intro byte hbyte
  rw [encode_eq_flatMap] at hbyte
  obtain ⟨c, hc, hbyte⟩ := List.mem_flatMap.1 hbyte
  rw [utf8EncodeChar_of_ascii (h c hc), List.mem_singleton] at hbyte
  rw [hbyte, UInt8.lt_iff_toNat_lt, toNat_ofNat_byte (Nat.lt_trans (h c hc) (by decide))]
  exact h c hc

/-- A byte that follows adds its share. -/
theorem readTail_follower {low high bits n : Nat} (m : Nat) (hn : n < 64) (hlow : low ≤ n + 0x80)
    (hhigh : n + 0x80 ≤ high) (bs : List UInt8) :
    readTail (m + 1) low high bits (UInt8.ofNat (n + 0x80) :: bs) =
      readTail m 0x80 0xBF (bits * 64 + n) bs := by
  have hbyte : (UInt8.ofNat (n + 0x80)).toNat = n + 0x80 := toNat_ofNat_byte (by omega)
  rw [readTail, hbyte, Nat.add_sub_cancel]
  simp [hlow, hhigh]

theorem decodeEach_cons {n v : Nat} {l : Lead} {bs rest : List UInt8} (hn : n < 256)
    (hlead : lead? n = some l)
    (htail : readTail l.more l.low l.high l.bits bs = (some v, rest)) :
    decodeEach (UInt8.ofNat n :: bs) = some (Char.ofNat v) :: decodeEach rest := by
  rw [decodeEach, toNat_ofNat_byte hn, hlead]
  simp only [htail, Option.map_some]

theorem decodeEach_two {a b : Nat} (hlow : 2 ≤ a) (ha : a < 32) (hb : b < 64) (bs : List UInt8) :
    decodeEach (UInt8.ofNat (a + 0xC0) :: UInt8.ofNat (b + 0x80) :: bs) =
      some (Char.ofNat (a * 64 + b)) :: decodeEach bs := by
  refine decodeEach_cons (by omega) (lead?_two hlow ha) ?_
  exact readTail_follower 0 hb (show 0x80 ≤ b + 0x80 by omega) (show b + 0x80 ≤ 0xBF by omega) bs

theorem decodeEach_three {a b c : Nat} (ha : a < 16) (hb : b < 64) (hc : c < 64)
    (hlong : a = 0 → 32 ≤ b) (hscalar : a = 13 → b < 32) (bs : List UInt8) :
    decodeEach (UInt8.ofNat (a + 0xE0) :: UInt8.ofNat (b + 0x80) :: UInt8.ofNat (c + 0x80) :: bs) =
      some (Char.ofNat ((a * 64 + b) * 64 + c)) :: decodeEach bs := by
  obtain ⟨low, high, hlead, hlow, hhigh⟩ := lead?_three ha hb hlong hscalar
  refine decodeEach_cons (by omega) hlead ?_
  exact (readTail_follower 1 hb hlow hhigh _).trans
    (readTail_follower 0 hc (by omega) (by omega) bs)

theorem decodeEach_four {a b c d : Nat} (ha : a < 5) (hb : b < 64) (hc : c < 64) (hd : d < 64)
    (hlong : a = 0 → 16 ≤ b) (hlast : a = 4 → b < 16) (bs : List UInt8) :
    decodeEach (UInt8.ofNat (a + 0xF0) :: UInt8.ofNat (b + 0x80) :: UInt8.ofNat (c + 0x80) ::
        UInt8.ofNat (d + 0x80) :: bs) =
      some (Char.ofNat (((a * 64 + b) * 64 + c) * 64 + d)) :: decodeEach bs := by
  obtain ⟨low, high, hlead, hlow, hhigh⟩ := lead?_four ha hb hlong hlast
  refine decodeEach_cons (by omega) hlead ?_
  exact (readTail_follower 2 hb hlow hhigh _).trans
    ((readTail_follower 1 hc (by omega) (by omega) _).trans
      (readTail_follower 0 hd (by omega) (by omega) bs))

theorem decodeEach_utf8EncodeChar (c : Char) (bs : List UInt8) :
    decodeEach (String.utf8EncodeChar c ++ bs) = some c :: decodeEach bs := by
  have hscalar : c.toNat < 0xD800 ∨ 0xDFFF < c.toNat ∧ c.toNat < 0x110000 := c.valid
  have hback : Char.ofNat c.toNat = c := Char.ofNat_toNat c
  unfold String.utf8EncodeChar
  simp only [Char.toNat_val]
  generalize c.toNat = v at hscalar hback ⊢
  subst hback
  -- the shares of the bytes add up to the code point
  have htwo : v / 64 * 64 + v % 64 = v := by omega
  have hthree : (v / 4096 * 64 + v / 64 % 64) * 64 + v % 64 = v := by omega
  have hfour : ((v / 262144 * 64 + v / 4096 % 64) * 64 + v / 64 % 64) * 64 + v % 64 = v := by omega
  split
  · exact decodeEach_cons (by omega) (lead?_one (by omega)) rfl
  · split
    · rw [Nat.mod_eq_of_lt (by omega : v / 64 < 32)]
      have hread := decodeEach_two (a := v / 64) (b := v % 64) (by omega) (by omega) (by omega) bs
      rwa [htwo] at hread
    · split
      · rw [Nat.mod_eq_of_lt (by omega : v / 4096 < 16)]
        have hread := decodeEach_three (a := v / 4096) (b := v / 64 % 64) (c := v % 64)
          (by omega) (by omega) (by omega) (by omega) (by omega) bs
        rwa [hthree] at hread
      · rw [Nat.mod_eq_of_lt (by omega : v / 262144 < 8)]
        have hread := decodeEach_four (a := v / 262144) (b := v / 4096 % 64) (c := v / 64 % 64)
          (d := v % 64) (by omega) (by omega) (by omega) (by omega) (by omega) (by omega) bs
        rwa [hfour] at hread

/-! ## Texts -/

theorem decodeEach_flatMap (cs : List Char) :
    decodeEach (cs.flatMap String.utf8EncodeChar) = cs.map some := by
  induction cs with
  | nil => simp [decodeEach]
  | cons c cs ih => rw [List.flatMap_cons, decodeEach_utf8EncodeChar, ih, List.map_cons]

theorem decode?_encode (s : String) : decode? (encode s) = some s.toList := by
  rw [decode?, encode_eq_flatMap, decodeEach_flatMap]
  generalize s.toList = cs
  induction cs with
  | nil => rfl
  | cons c cs ih => simp_all [List.mapM_cons]

end ScriptGateway.Text
