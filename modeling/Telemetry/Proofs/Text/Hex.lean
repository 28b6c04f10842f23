import Telemetry.Proofs.Json.Text

/-! Bytes are read back from their hexadecimal text, which consists of lowercase digits. -/
namespace Telemetry.Text

theorem unhexChars_hexByte (b : UInt8) (rest : List Char) :
    unhexChars (hexByte b ++ rest) = (unhexChars rest).map (b :: ·) := by
  have hsize : b.toNat < 256 := b.toNat_lt
  have hhigh : hexValue (hexDigit (b.toNat / 16)) = some (b.toNat / 16) :=
    Json.hexValue_hexDigit (by omega)
  have hlow : hexValue (hexDigit (b.toNat % 16)) = some (b.toNat % 16) :=
    Json.hexValue_hexDigit (Nat.mod_lt _ (by decide))
  have hbyte : UInt8.ofNat (16 * (b.toNat / 16) + b.toNat % 16) = b := by
    rw [Nat.div_add_mod, UInt8.ofNat_toNat]
  rw [hexByte, List.cons_append, List.cons_append, List.nil_append, unhexChars, hhigh, hlow]
  cases unhexChars rest with
  | none => rfl
  | some bytes => exact congrArg (fun byte => some (byte :: bytes)) hbyte

theorem unhex_hex (bytes : List UInt8) : unhex (hex bytes) = some bytes := by
  rw [unhex, hex, String.toList_ofList]
  induction bytes with
  | nil => rfl
  | cons b bytes ih => rw [List.flatMap_cons, unhexChars_hexByte, ih, Option.map_some]

theorem hex_injective : Function.Injective hex := by
  intro a b h
  exact Option.some.inj ((unhex_hex a).symm.trans ((congrArg unhex h).trans (unhex_hex b)))

theorem hexDigit_eq_digitChar {n : Nat} (h : n < 16) : hexDigit n = n.digitChar := by
  revert n
  decide

/-- Every byte is written as its two digits in the base sixteen, lowercase and with leading zeros. -/
theorem toList_hex (bytes : List UInt8) :
    (hex bytes).toList = bytes.flatMap fun b => [(b.toNat / 16).digitChar, (b.toNat % 16).digitChar] := by
  have hbyte (b : UInt8) : hexByte b = [(b.toNat / 16).digitChar, (b.toNat % 16).digitChar] := by
    have hsize : b.toNat < 256 := b.toNat_lt
    rw [hexByte, hexDigit_eq_digitChar (by omega), hexDigit_eq_digitChar (Nat.mod_lt _ (by decide))]
  rw [hex, String.toList_ofList, funext hbyte]

theorem exists_hexDigit {bytes : List UInt8} {c : Char} (h : c ∈ (hex bytes).toList) :
    ∃ n < 16, c = hexDigit n := by
  rw [hex, String.toList_ofList] at h
  obtain ⟨b, -, hc⟩ := List.mem_flatMap.1 h
  have hsize : b.toNat < 256 := b.toNat_lt
  obtain rfl | hc := List.mem_cons.1 hc
  · exact ⟨b.toNat / 16, by omega, rfl⟩
  · obtain rfl := List.mem_singleton.1 hc
    exact ⟨b.toNat % 16, Nat.mod_lt _ (by decide), rfl⟩

end Telemetry.Text
