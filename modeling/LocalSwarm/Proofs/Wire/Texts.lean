import Mathlib.Data.List.Basic
import LocalSwarm.Wire.Field

/-! Texts and their bytes. For ASCII the two correspond character by character, in both directions:
`ofAscii_utf8` and `utf8_ofAscii`. -/
namespace LocalSwarm.Wire

theorem toList_loop (bytes : ByteArray) (i : Nat) (done : Bytes) :
    ByteArray.toList.loop bytes i done = done.reverse ++ bytes.data.toList.drop i := by
  fun_induction ByteArray.toList.loop bytes i done with
  | case1 i done lt ih =>
    have here : i < bytes.data.toList.length := lt
    have byte : bytes.get! i = bytes.data.toList[i] := by
      cases bytes
      exact getElem!_pos (Array.mk _) _ lt
    rw [ih, List.drop_eq_getElem_cons here, byte, List.reverse_cons, List.append_assoc]
    rfl
  | case2 i done ge =>
    rw [List.drop_eq_nil_of_le (Nat.not_lt.1 ge), List.append_nil]

theorem utf8_eq (s : String) : utf8 s = s.toByteArray.data.toList := toList_loop s.toByteArray 0 []

theorem utf8_ofList (cs : List Char) :
    utf8 (String.ofList cs) = cs.flatMap String.utf8EncodeChar := by
  rw [utf8_eq, String.toByteArray_ofList, List.utf8Encode, List.toList_data_toByteArray]

theorem length_utf8 (s : String) : (utf8 s).length = s.utf8ByteSize := by
  rw [utf8_eq]
  rfl

theorem utf8EncodeChar_of_ascii {c : Char} (ascii : c.toNat < 128) :
    String.utf8EncodeChar c = [UInt8.ofNat c.toNat] := by
  have one : c.utf8Size = 1 :=
    Char.utf8Size_eq_one_iff.2 (UInt32.le_iff_toNat_le.2 (Nat.le_of_lt_succ ascii))
  rw [String.utf8EncodeChar_eq_singleton one]
  rfl

theorem utf8_ofList_of_ascii {cs : List Char} (ascii : ∀ c ∈ cs, c.toNat < 128) :
    utf8 (String.ofList cs) = cs.map fun c => UInt8.ofNat c.toNat := by
  rw [utf8_ofList, List.flatMap_congr fun c member => utf8EncodeChar_of_ascii (ascii c member)]
  exact List.flatMap_pure_eq_map _ cs

theorem toNat_ofNat_of_ascii {n : Nat} (ascii : n < 128) : (Char.ofNat n).toNat = n := by
  rw [Char.ofNat, dif_pos (Or.inl (by omega))]
  rfl

/-- An ASCII text is read back from its bytes. -/
theorem ofAscii_utf8 {s : String} (ascii : ∀ c ∈ s.toList, c.toNat < 128) :
    ofAscii (utf8 s) = s := by
  have bytes := utf8_ofList_of_ascii ascii
  rw [String.ofList_toList] at bytes
  have chars : (s.toList.map fun c => UInt8.ofNat c.toNat).map (fun byte => Char.ofNat byte.toNat) =
      s.toList := by
    rw [List.map_map]
    refine (List.map_congr_left fun c member => ?_).trans (List.map_id _)
    have := ascii c member
    rw [Function.comp_apply, UInt8.toNat_ofNat', Nat.mod_eq_of_lt (by omega), Char.ofNat_toNat]
    rfl
  rw [bytes, ofAscii, chars, String.ofList_toList]

theorem isAscii_utf8 {s : String} (ascii : ∀ c ∈ s.toList, c.toNat < 128) :
    isAscii (utf8 s) = true := by
  have bytes := utf8_ofList_of_ascii ascii
  rw [String.ofList_toList] at bytes
  rw [bytes, isAscii, List.all_map, List.all_eq_true]
  intro c member
  have := ascii c member
  rw [Function.comp_apply, decide_eq_true_eq, UInt8.lt_iff_toNat_lt, UInt8.toNat_ofNat']
  exact Nat.lt_of_le_of_lt (Nat.mod_le _ _) this

theorem ascii_ofAscii {bytes : Bytes} (ascii : isAscii bytes = true) :
    ∀ c ∈ (ofAscii bytes).toList, c.toNat < 128 := by
  intro c member
  rw [ofAscii, String.toList_ofList] at member
  obtain ⟨byte, inside, rfl⟩ := List.mem_map.1 member
  have low : byte.toNat < 128 := by
    simpa [UInt8.lt_iff_toNat_lt] using List.all_eq_true.1 ascii byte inside
  rwa [toNat_ofNat_of_ascii low]

/-- ASCII bytes are those of the text that is read from them. -/
theorem utf8_ofAscii {bytes : Bytes} (ascii : isAscii bytes = true) :
    utf8 (ofAscii bytes) = bytes := by
  have low : ∀ byte ∈ bytes, byte.toNat < 128 := by
    simpa [isAscii, UInt8.lt_iff_toNat_lt] using ascii
  have chars := ascii_ofAscii ascii
  rw [ofAscii, String.toList_ofList] at chars
  rw [ofAscii, utf8_ofList_of_ascii chars, List.map_map]
  refine (List.map_congr_left fun byte member => ?_).trans (List.map_id _)
  rw [Function.comp_apply, toNat_ofNat_of_ascii (low byte member), UInt8.ofNat_toNat]
  rfl

end LocalSwarm.Wire
