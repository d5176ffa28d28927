import NewsSearch.Text.Percent
import Mathlib.Data.List.Basic

/-!
# Percent decoding

Decoding undoes encoding, whatever characters a text has. An encoded text has only unreserved
characters and percent signs.
-/

namespace NewsSearch.Text.Percent

/-! ## The decoder -/

/-- The number that a hexadecimal digit stands for, capital or small. -/
def hexValue? (c : Char) : Option Nat :=
  if '0' ≤ c ∧ c ≤ '9' then some (c.toNat - 48)
  else if 'A' ≤ c ∧ c ≤ 'F' then some (c.toNat - 55)
  else if 'a' ≤ c ∧ c ≤ 'f' then some (c.toNat - 87)
  else none

/-- The bytes of an encoded text. After a percent sign there must be two digits. -/
def decodeBytes? : List Char → Option (List UInt8)
  | [] => some []
  | '%' :: high :: low :: cs => do
    let high ← hexValue? high
    let low ← hexValue? low
    return UInt8.ofNat (16 * high + low) :: (← decodeBytes? cs)
  | c :: cs => if c = '%' then none else (decodeBytes? cs).map (String.utf8EncodeChar c ++ ·)

/-- The text that an encoded text stands for, if its bytes are UTF-8. -/
def decode? (cs : List Char) : Option String :=
  (decodeBytes? cs).bind fun bytes => String.fromUTF8? bytes.toByteArray

/-! ## Unreserved characters -/

/-- The letters and digits of ASCII, and four marks. -/
def IsUnreserved (c : Char) : Prop :=
  ('A' ≤ c ∧ c ≤ 'Z') ∨ ('a' ≤ c ∧ c ≤ 'z') ∨ ('0' ≤ c ∧ c ≤ '9') ∨ c ∈ ['-', '_', '.', '~']

theorem isUnreserved_iff {c : Char} : isUnreserved c = true ↔ IsUnreserved c := by
  have hupper : c.isUpper = true ↔ 'A' ≤ c ∧ c ≤ 'Z' := by
    change decide _ = true ↔ _
    rw [decide_eq_true_iff]
    rfl
  have hlower : c.isLower = true ↔ 'a' ≤ c ∧ c ≤ 'z' := by
    change (decide _ && decide _) = true ↔ _
    rw [Bool.and_eq_true, decide_eq_true_iff, decide_eq_true_iff]
    rfl
  have hdigit : c.isDigit = true ↔ '0' ≤ c ∧ c ≤ '9' := by
    change (decide _ && decide _) = true ↔ _
    rw [Bool.and_eq_true, decide_eq_true_iff, decide_eq_true_iff]
    rfl
  change ((c.isUpper || c.isLower || c.isDigit) || c == '-' || c == '_' || c == '.' || c == '~') = true
    ↔ IsUnreserved c
  simp only [Bool.or_eq_true, beq_iff_eq, hupper, hlower, hdigit, IsUnreserved, List.mem_cons,
    List.not_mem_nil, or_false, or_assoc]

/-! ## Bytes -/

theorem hexValue?_hexDigit : ∀ n < 16, hexValue? (hexDigit n) = some n := by decide

theorem isUnreserved_hexDigit : ∀ n < 16, isUnreserved (hexDigit n) = true := by decide

theorem decodeBytes?_encodeByte (b : UInt8) (cs : List Char) :
    decodeBytes? (encodeByte b ++ cs) = (decodeBytes? cs).map (b :: ·) := by
  have hb := b.toNat_lt
  have hsum : UInt8.ofNat (16 * (b.toNat / 16) + b.toNat % 16) = b := by
    rw [Nat.div_add_mod, UInt8.ofNat_toNat]
  simp only [encodeByte, List.cons_append, List.nil_append]
  rw [decodeBytes?, hexValue?_hexDigit _ (by omega), hexValue?_hexDigit _ (by omega)]
  simp only [Option.bind_eq_bind, Option.bind_some, hsum]
  rw [Option.map_eq_bind]
  rfl

theorem decodeBytes?_encodeBytes (bs : List UInt8) (cs : List Char) :
    decodeBytes? (bs.flatMap encodeByte ++ cs) = (decodeBytes? cs).map (bs ++ ·) := by
  induction bs with
  | nil => simp
  | cons b bs ih =>
    rw [List.flatMap_cons, List.append_assoc, decodeBytes?_encodeByte, ih, Option.map_map]
    rfl

/-! ## Characters -/

theorem decodeBytes?_kept {c : Char} (h : c ≠ '%') (cs : List Char) :
    decodeBytes? (c :: cs) = (decodeBytes? cs).map (String.utf8EncodeChar c ++ ·) := by
  rw [decodeBytes?.eq_3, if_neg h]
  intro high low rest hc _
  exact h hc

theorem decodeBytes?_encodeChar (c : Char) (cs : List Char) :
    decodeBytes? (encodeChar isUnreserved c ++ cs) =
      (decodeBytes? cs).map (String.utf8EncodeChar c ++ ·) := by
  unfold encodeChar
  split
  case isTrue hkept =>
    refine decodeBytes?_kept ?_ cs
    rintro rfl
    exact absurd hkept (by decide)
  case isFalse => exact decodeBytes?_encodeBytes _ cs

theorem decodeBytes?_encodeChars (cs : List Char) :
    decodeBytes? (encodeChars isUnreserved cs) = some (cs.flatMap String.utf8EncodeChar) := by
  unfold encodeChars
  induction cs with
  | nil => rfl
  | cons c cs ih =>
    rw [List.flatMap_cons, decodeBytes?_encodeChar, ih]
    rfl

/-! ## Texts -/

theorem fromUTF8?_toByteArray (s : String) : String.fromUTF8? s.toByteArray = some s := by
  unfold String.fromUTF8?
  rw [dif_pos s.isValidUTF8]
  rfl

/-- An encoded text is decoded to the text. -/
theorem decode?_encode (s : String) : decode? (encode s).toList = some s := by
  have hs : (s.toList.flatMap String.utf8EncodeChar).toByteArray = s.toByteArray := by
    rw [← List.utf8Encode, ← String.toByteArray_ofList, String.ofList_toList]
  rw [encode, String.toList_ofList, decode?, decodeBytes?_encodeChars, Option.bind_some, hs,
    fromUTF8?_toByteArray]

/-- What an encoded text has besides percent signs is unreserved. -/
theorem mem_encode {s : String} {c : Char} (h : c ∈ (encode s).toList) :
    isUnreserved c ∨ c = '%' := by
  rw [encode, String.toList_ofList, encodeChars, List.mem_flatMap] at h
  obtain ⟨d, -, hc⟩ := h
  unfold encodeChar at hc
  split at hc
  case isTrue hkept =>
    rw [List.mem_singleton.mp hc]
    exact .inl hkept
  case isFalse =>
    obtain ⟨b, -, hb⟩ := List.mem_flatMap.mp hc
    have hlt := b.toNat_lt
    simp only [encodeByte, List.mem_cons, List.not_mem_nil, or_false] at hb
    rcases hb with rfl | rfl | rfl
    · exact .inr rfl
    · exact .inl (isUnreserved_hexDigit _ (by omega))
    · exact .inl (isUnreserved_hexDigit _ (by omega))

end NewsSearch.Text.Percent
