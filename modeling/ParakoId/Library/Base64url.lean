import ParakoId.Library.CodeUnits

/-! Bytes in the URL-safe alphabet of base64, without padding. -/

namespace Base64url

def DIGITS : CodeUnits := CodeUnits.ofText
  "ABCDEFGHIJKLMNOPQRSTUVWXYZabcdefghijklmnopqrstuvwxyz0123456789-_".toList

def digit (value : Nat) : UInt16 := DIGITS.getD value 0

def encode : List UInt8 → CodeUnits
  | [] => []
  | [first] => [digit (first.toNat / 4), digit (first.toNat % 4 * 16)]
  | [first, second] => [
      digit (first.toNat / 4),
      digit (first.toNat % 4 * 16 + second.toNat / 16),
      digit (second.toNat % 16 * 4)]
  | first :: second :: third :: rest =>
    digit (first.toNat / 4) :: digit (first.toNat % 4 * 16 + second.toNat / 16) ::
      digit (second.toNat % 16 * 4 + third.toNat / 64) :: digit (third.toNat % 64) :: encode rest

def byte (number : Nat) : UInt8 := UInt8.ofNat (number % 256)

def bytes : List Nat → List UInt8
  | first :: second :: third :: fourth :: rest =>
    byte (first * 4 + second / 16) :: byte (second * 16 + third / 4) ::
      byte (third * 64 + fourth) :: bytes rest
  | [first, second, third] => [byte (first * 4 + second / 16), byte (second * 16 + third / 4)]
  | [first, second] => [byte (first * 4 + second / 16)]
  | _ => []

/-- What is no digit is passed over. -/
def decode (text : CodeUnits) : List UInt8 :=
  bytes ((text.map DIGITS.idxOf).filter (· < 64))

theorem idxOf_digit : ∀ value < 64, DIGITS.idxOf (digit value) = value := by decide

theorem byte_eq {number : Nat} {expected : UInt8} (same : number % 256 = expected.toNat) :
    byte number = expected := by
  rw [byte, same, UInt8.ofNat_toNat]

theorem decode_encode (source : List UInt8) : decode (encode source) = source := by
  have kept : ∀ value < 64, ∀ rest : CodeUnits,
      ((digit value :: rest).map DIGITS.idxOf).filter (· < 64) =
        value :: (rest.map DIGITS.idxOf).filter (· < 64) := by
    intro value small rest
    rw [List.map_cons, idxOf_digit value small, List.filter_cons_of_pos (by simpa using small)]
  fun_induction encode source with
  | case1 => rfl
  | case2 first =>
    have bound := first.toNat_lt
    rw [decode, kept _ (by omega), kept _ (by omega)]
    have isFirst : byte (first.toNat / 4 * 4 + first.toNat % 4 * 16 / 16) = first :=
      byte_eq (by omega)
    simp only [List.map_nil, List.filter_nil, bytes, isFirst]
  | case3 first second =>
    have bound := first.toNat_lt
    have secondBound := second.toNat_lt
    have isFirst : byte (first.toNat / 4 * 4 +
        (first.toNat % 4 * 16 + second.toNat / 16) / 16) = first := byte_eq (by omega)
    have isSecond : byte ((first.toNat % 4 * 16 + second.toNat / 16) * 16 +
        second.toNat % 16 * 4 / 4) = second := byte_eq (by omega)
    rw [decode, kept _ (by omega), kept _ (by omega), kept _ (by omega)]
    simp only [List.map_nil, List.filter_nil, bytes, isFirst, isSecond]
  | case4 first second third rest ih =>
    have bound := first.toNat_lt
    have secondBound := second.toNat_lt
    have thirdBound := third.toNat_lt
    have isFirst : byte (first.toNat / 4 * 4 +
        (first.toNat % 4 * 16 + second.toNat / 16) / 16) = first := byte_eq (by omega)
    have isSecond : byte ((first.toNat % 4 * 16 + second.toNat / 16) * 16 +
        (second.toNat % 16 * 4 + third.toNat / 64) / 4) = second := byte_eq (by omega)
    have isThird : byte ((second.toNat % 16 * 4 + third.toNat / 64) * 64 + third.toNat % 64) =
        third := byte_eq (by omega)
    rw [decode] at ih
    rw [decode, kept _ (by omega), kept _ (by omega), kept _ (by omega), kept _ (by omega)]
    simp only [bytes, isFirst, isSecond, isThird, ih]

end Base64url
