/-
What was written as octets is read back.

The octets of a character are its number in pieces of six bits, the first of them with a mark that
tells how many follow (`lead_two`, `lead_three`, `lead_four`). The reader puts the pieces together
again. What it has to be convinced of on the way is that the form is not too long and that the
number is no surrogate: that is what the ranges of the second octet are for, and a character meets
them because it is one and because its number was too large for fewer octets.

So a reader that is in front of a character reads that character and is behind it
(`decodeGaps_encodeChar`), and a text is read from the first character to the last.
-/
import ApiOutline.Text.Utf8

set_option autoImplicit false

namespace ApiOutline.Text

/-! ## First octets -/

/-- An octet below 128 is a character by itself, and none follow it. -/
theorem lead_one {n : Nat} (h : n < 0x80) : lead? n = some ⟨0, 0, 0, n⟩ := by
  unfold lead?
  rw [if_pos h]

/-- One octet follows, and the first one gives five bits. It cannot be less than `0xC2`, since two
octets would be too many then. -/
theorem lead_two {n : Nat} (hlo : 0xC2 ≤ n) (hhi : n ≤ 0xDF) :
    lead? n = some ⟨1, 0x80, 0xBF, n % 0x20⟩ := by
  unfold lead?
  rw [if_neg (by omega), if_pos (by simp only [hlo, hhi, decide_true, Bool.and_self])]

/-- Three octets: behind the first of these first ones the form could be too long, and behind one
of them the number could be a surrogate. -/
theorem lead_three {n : Nat} (hlo : 0xE0 ≤ n) (hhi : n ≤ 0xEF) :
    lead? n = some ⟨2, if n = 0xE0 then 0xA0 else 0x80, if n = 0xED then 0x9F else 0xBF,
      n % 0x10⟩ := by
  by_cases hfirst : n = 0xE0
  · rw [hfirst]
    rfl
  · by_cases hsurrogates : n = 0xED
    · rw [hsurrogates]
      rfl
    · unfold lead?
      simp only [hfirst, hsurrogates, if_false]
      rw [if_neg (by omega), if_neg (by simp only [Bool.and_eq_true, decide_eq_true_eq]; omega),
        if_pos (by simp only [Bool.and_eq_true, decide_eq_true_eq]; omega)]

/-- Four octets: behind the first of these first ones the form could be too long, and behind the
last the number could be too large. -/
theorem lead_four {n : Nat} (hlo : 0xF0 ≤ n) (hhi : n ≤ 0xF4) :
    lead? n = some ⟨3, if n = 0xF0 then 0x90 else 0x80, if n = 0xF4 then 0x8F else 0xBF,
      n % 0x08⟩ := by
  by_cases hfirst : n = 0xF0
  · rw [hfirst]
    rfl
  · by_cases hlast : n = 0xF4
    · rw [hlast]
      rfl
    · unfold lead?
      simp only [hfirst, hlast, if_false]
      rw [if_neg (by omega), if_neg (by simp only [Bool.and_eq_true, decide_eq_true_eq]; omega),
        if_neg (by omega), if_neg (by omega),
        if_neg (by simp only [Bool.and_eq_true, decide_eq_true_eq]; omega),
        if_pos (by simp only [Bool.and_eq_true, decide_eq_true_eq]; omega)]

/-! ## Characters -/

/-- A number that fits an octet is read from it unchanged. -/
theorem toNat_ofNat {n : Nat} (h : n < 0x100) : (UInt8.ofNat n).toNat = n := by
  rw [UInt8.toNat_ofNat', Nat.mod_eq_of_lt h]

/-- An octet that fits gives its six bits. -/
theorem followers_cons {count lo hi bits n : Nat} (hlo : lo ≤ n) (hhi : n ≤ hi) (hn : n < 0x100)
    (rest : List UInt8) :
    followers (count + 1) lo hi bits (UInt8.ofNat n :: rest) =
      followers count 0x80 0xBF (bits * 0x40 + n % 0x40) rest := by
  rw [followers, toNat_ofNat hn, if_pos]
  simp only [hlo, hhi, decide_true, Bool.and_self]

/-- The reader takes the octets that the first one announces, and goes on behind the last it could
use. -/
theorem decodeGaps_cons {n : Nat} {l : Lead} (hn : n < 0x100) (h : lead? n = some l)
    (rest : List UInt8) :
    decodeGaps (UInt8.ofNat n :: rest) =
      (followers l.count l.lo l.hi l.bits rest).1.map Char.ofNat ::
        decodeGaps (followers l.count l.lo l.hi l.bits rest).2 := by
  rw [decodeGaps, toNat_ofNat hn, h]

/-- **A reader in front of a character reads it and is behind it.** The first octet says how many
there are, and each of the others brings six bits. In all four cases the number that is put
together is the one that was taken apart. -/
theorem decodeGaps_encodeChar (c : Char) (rest : List UInt8) :
    decodeGaps (String.utf8EncodeChar c ++ rest) = some c :: decodeGaps rest := by
  obtain ⟨v, hv⟩ : ∃ v, c.val.toNat = v := ⟨_, rfl⟩
  have hchar : Char.ofNat v = c := by
    rw [← hv]
    exact Char.ofNat_toNat c
  have hvalid : v < 0xD800 ∨ 0xDFFF < v ∧ v < 0x110000 := hv ▸ c.valid
  unfold String.utf8EncodeChar
  rw [hv]
  dsimp only
  -- one case for each number of octets; the number is put together again in each
  by_cases hone : v ≤ 0x7F
  · rw [if_pos hone, List.singleton_append, decodeGaps_cons (by omega) (lead_one (by omega))]
    rw [followers, Option.map_some, hchar]
  · rw [if_neg hone]
    by_cases htwo : v ≤ 0x7FF
    · rw [if_pos htwo, List.cons_append, List.singleton_append]
      rw [decodeGaps_cons (by omega) (lead_two (by omega) (by omega))]
      dsimp only
      rw [followers_cons (by omega) (by omega) (by omega), followers, Option.map_some]
      have hnumber : (v / 64 % 0x20 + 0xC0) % 0x20 * 0x40 + (v % 0x40 + 0x80) % 0x40 = v := by omega
      rw [hnumber, hchar]
    · rw [if_neg htwo]
      by_cases hthree : v ≤ 0xFFFF
      · rw [if_pos hthree, List.cons_append, List.cons_append, List.singleton_append]
        rw [decodeGaps_cons (by omega) (lead_three (by omega) (by omega))]
        dsimp only
        rw [followers_cons (by split <;> omega) (by split <;> omega) (by omega),
          followers_cons (by omega) (by omega) (by omega), followers, Option.map_some]
        have hnumber : ((v / 4096 % 0x10 + 0xE0) % 0x10 * 0x40 + (v / 64 % 0x40 + 0x80) % 0x40) *
            0x40 + (v % 0x40 + 0x80) % 0x40 = v := by omega
        rw [hnumber, hchar]
      · rw [if_neg hthree, List.cons_append, List.cons_append, List.cons_append,
          List.singleton_append]
        rw [decodeGaps_cons (by omega) (lead_four (by omega) (by omega))]
        dsimp only
        rw [followers_cons (by split <;> omega) (by split <;> omega) (by omega),
          followers_cons (by omega) (by omega) (by omega),
          followers_cons (by omega) (by omega) (by omega), followers, Option.map_some]
        have hnumber : (((v / 262144 % 0x08 + 0xF0) % 0x08 * 0x40 +
            (v / 4096 % 0x40 + 0x80) % 0x40) * 0x40 + (v / 64 % 0x40 + 0x80) % 0x40) * 0x40 +
              (v % 0x40 + 0x80) % 0x40 = v := by omega
        rw [hnumber, hchar]

/-! ## Texts -/

/-- The octets of an array are listed from a place on, behind those that were listed before. By
induction on the loop as it is defined, up to the end of the array. -/
theorem toList_loop_eq (octets : ByteArray) (i : Nat) (done : List UInt8) :
    ByteArray.toList.loop octets i done = done.reverse ++ octets.data.toList.drop i := by
  induction i, done using ByteArray.toList.loop.induct octets with
  | case1 i done hlt ih =>
    have hi : i < octets.data.toList.length := hlt
    have hget : octets.get! i = octets.data.toList[i] := getElem!_pos octets.data i hlt
    rw [ByteArray.toList.loop, if_pos hlt, ih, List.drop_eq_getElem_cons hi, hget,
      List.reverse_cons, List.append_assoc, List.singleton_append]
  | case2 i done hge =>
    have hi : octets.data.toList.length ≤ i := Nat.not_lt.1 hge
    rw [ByteArray.toList.loop, if_neg hge, List.drop_eq_nil_of_le hi, List.append_nil]

/-- A text is written character by character. -/
theorem encodeUtf8_eq (s : String) : encodeUtf8 s = s.toList.flatMap String.utf8EncodeChar := by
  rw [encodeUtf8, String.toUTF8_eq_toByteArray, ← String.utf8Encode_toList, List.utf8Encode,
    ByteArray.toList, toList_loop_eq, List.toList_data_toByteArray]
  rfl

/-- Characters that were written behind each other are read one by one, and no gap is found
between them. -/
theorem decodeGaps_flatMap (cs : List Char) :
    decodeGaps (cs.flatMap String.utf8EncodeChar) = cs.map some := by
  induction cs with
  | nil => rw [List.flatMap_nil, decodeGaps, List.map_nil]
  | cons c cs ih => rw [List.flatMap_cons, decodeGaps_encodeChar, ih, List.map_cons]

/-- **A text that was written as octets is read back.** -/
theorem decodeUtf8_encodeUtf8 (s : String) : decodeUtf8? (encodeUtf8 s) = some s := by
  have hall : (s.toList.map some).mapM id = some s.toList := by
    rw [List.mapM_map]
    exact (List.mapM_pure (m := Option) (f := id)).trans (congrArg some (List.map_id _))
  rw [decodeUtf8?, encodeUtf8_eq, decodeGaps_flatMap, hall, Option.map_some, String.ofList_toList]

end ApiOutline.Text
