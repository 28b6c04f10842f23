import Telemetry.Text.Base64

/-! Base64 text is read back as the bytes it was written for. -/
namespace Telemetry.Text.Base64

theorem value_letter {n : Nat} (h : n < 64) : value (letter n) = some n := by
  revert n
  decide

theorem letter_ne_pad {n : Nat} (h : n < 64) : letter n ≠ '=' := by
  revert n
  decide

private theorem decodeChars_two {x y : Nat} (hx : x < 64) (hy : y < 64) (hrest : y % 16 = 0) :
    decodeChars [letter x, letter y, '=', '='] = some [UInt8.ofNat (x * 4 + y / 16)] := by
  rw [decodeChars, value_letter hx, value_letter hy]
  simp [hrest]

private theorem decodeChars_three {x y z : Nat} (hx : x < 64) (hy : y < 64) (hz : z < 64)
    (hrest : z % 4 = 0) :
    decodeChars [letter x, letter y, letter z, '='] =
      some [UInt8.ofNat (x * 4 + y / 16), UInt8.ofNat (y % 16 * 16 + z / 4)] := by
  rw [decodeChars, value_letter hx, value_letter hy, value_letter hz]
  · simp [hrest]
  · exact fun h => absurd h (letter_ne_pad hz)

private theorem decodeChars_four {x y z w : Nat} (hx : x < 64) (hy : y < 64) (hz : z < 64) (hw : w < 64)
    (rest : List Char) :
    decodeChars (letter x :: letter y :: letter z :: letter w :: rest) =
      (decodeChars rest).map fun bytes =>
        UInt8.ofNat (x * 4 + y / 16) :: UInt8.ofNat (y % 16 * 16 + z / 4) ::
          UInt8.ofNat (z % 4 * 64 + w) :: bytes := by
  rw [decodeChars, value_letter hx, value_letter hy, value_letter hz, value_letter hw]
  · cases decodeChars rest <;> rfl
  · exact fun h => absurd h (letter_ne_pad hz)
  · exact fun h => absurd h (letter_ne_pad hw)

/-- Each group of letters is read as the bytes it was made of. -/
theorem decodeChars_encodeBytes (bytes : List UInt8) : decodeChars (encodeBytes bytes) = some bytes := by
  induction bytes using encodeBytes.induct with
  | case1 => rfl
  | case2 a =>
    have ha := a.toNat_lt
    rw [encodeBytes, decodeChars_two (by omega) (by omega) (by omega),
      show a.toNat / 4 * 4 + a.toNat % 4 * 16 / 16 = a.toNat by omega, UInt8.ofNat_toNat]
  | case3 a b =>
    have ha := a.toNat_lt
    have hb := b.toNat_lt
    rw [encodeBytes, decodeChars_three (by omega) (by omega) (by omega) (by omega),
      show a.toNat / 4 * 4 + (a.toNat % 4 * 16 + b.toNat / 16) / 16 = a.toNat by omega,
      show (a.toNat % 4 * 16 + b.toNat / 16) % 16 * 16 + b.toNat % 16 * 4 / 4 = b.toNat by omega,
      UInt8.ofNat_toNat, UInt8.ofNat_toNat]
  | case4 a b c rest ih =>
    have ha := a.toNat_lt
    have hb := b.toNat_lt
    have hc := c.toNat_lt
    rw [encodeBytes, decodeChars_four (by omega) (by omega) (by omega) (by omega), ih,
      show a.toNat / 4 * 4 + (a.toNat % 4 * 16 + b.toNat / 16) / 16 = a.toNat by omega,
      show (a.toNat % 4 * 16 + b.toNat / 16) % 16 * 16 + (b.toNat % 16 * 4 + c.toNat / 64) / 4 = b.toNat by
        omega,
      show (b.toNat % 16 * 4 + c.toNat / 64) % 4 * 64 + c.toNat % 64 = c.toNat by omega,
      UInt8.ofNat_toNat, UInt8.ofNat_toNat, UInt8.ofNat_toNat]
    rfl

theorem decode_encode (bytes : List UInt8) : decode (encode bytes) = some bytes := by
  rw [decode, encode, String.toList_ofList, decodeChars_encodeBytes]

end Telemetry.Text.Base64
