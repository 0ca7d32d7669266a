import Mathlib.Tactic.Ring
import Mathlib.Data.List.Basic

set_option autoImplicit false

namespace CouchbaseKv

def bytesBE : Nat → Nat → List UInt8
  | 0, _ => []
  | width + 1, value => bytesBE width (value / 256) ++ [UInt8.ofNat value]

def readBE (bytes : List UInt8) : Nat :=
  bytes.foldl (fun acc byte => acc * 256 + byte.toNat) 0

-- The opaque is copied into the header without htonl: it travels in host (little-endian) order.
def bytesLE (width value : Nat) : List UInt8 := (bytesBE width value).reverse

def readLE (bytes : List UInt8) : Nat := readBE bytes.reverse

@[simp] theorem length_bytesBE (width value : Nat) : (bytesBE width value).length = width := by
  induction width generalizing value with
  | zero => rfl
  | succ width ih => simp [bytesBE, ih]

@[simp] theorem length_bytesLE (width value : Nat) : (bytesLE width value).length = width := by
  simp [bytesLE]

@[simp] theorem readBE_nil : readBE [] = 0 := rfl

theorem readBE_append_byte (bytes : List UInt8) (byte : UInt8) :
    readBE (bytes ++ [byte]) = readBE bytes * 256 + byte.toNat := by
  simp [readBE, List.foldl_append]

theorem toNat_ofNat_byte (value : Nat) : (UInt8.ofNat value).toNat = value % 256 := rfl

@[simp] theorem readBE_bytesBE (width value : Nat) :
    readBE (bytesBE width value) = value % 256 ^ width := by
  induction width generalizing value with
  | zero => simp [bytesBE, Nat.mod_one]
  | succ width ih =>
    rw [bytesBE, readBE_append_byte, ih, toNat_ofNat_byte, pow_succ', Nat.mod_mul]
    ring

@[simp] theorem readLE_bytesLE (width value : Nat) :
    readLE (bytesLE width value) = value % 256 ^ width := by
  simp [readLE, bytesLE]

def storeAt (buffer : List UInt8) (offset : Nat) (value : List UInt8) : List UInt8 :=
  buffer.take offset ++ value ++ buffer.drop (offset + value.length)

theorem length_storeAt {buffer value : List UInt8} {offset : Nat}
    (fits : offset + value.length ≤ buffer.length) :
    (storeAt buffer offset value).length = buffer.length := by
  simp [storeAt]; omega

theorem storeAt_storeAt (buffer value more : List UInt8) (offset next : Nat)
    (adjacent : next = offset + value.length)
    (fits : offset + value.length + more.length ≤ buffer.length) :
    storeAt (storeAt buffer offset value) next more = storeAt buffer offset (value ++ more) := by
  subst adjacent
  have front : (buffer.take offset ++ value).length = offset + value.length := by simp; omega
  have kept : List.take (offset + value.length)
      (buffer.take offset ++ value ++ buffer.drop (offset + value.length)) =
      buffer.take offset ++ value :=
    List.take_left' front
  have dropped : List.drop (offset + value.length + more.length)
      (buffer.take offset ++ value ++ buffer.drop (offset + value.length)) =
      buffer.drop (offset + value.length + more.length) := by
    rw [← front, List.drop_append, List.drop_drop]
  simp only [storeAt, List.length_append, ← Nat.add_assoc]
  rw [kept, dropped]
  simp

theorem storeAt_whole (buffer value : List UInt8) (length : value.length = buffer.length) :
    storeAt buffer 0 value = value := by
  simp [storeAt, length]

def takeBytes (count : Nat) (bytes : List UInt8) : Option (List UInt8 × List UInt8) :=
  if count ≤ bytes.length then some (bytes.take count, bytes.drop count) else none

theorem takeBytes_append {count : Nat} (front rest : List UInt8) (length : front.length = count) :
    takeBytes count (front ++ rest) = some (front, rest) := by
  subst length
  simp [takeBytes]

@[simp] theorem takeBytes_bytesBE_append (width value : Nat) (rest : List UInt8) :
    takeBytes width (bytesBE width value ++ rest) = some (bytesBE width value, rest) :=
  takeBytes_append _ _ (length_bytesBE width value)

@[simp] theorem takeBytes_bytesLE_append (width value : Nat) (rest : List UInt8) :
    takeBytes width (bytesLE width value ++ rest) = some (bytesLE width value, rest) :=
  takeBytes_append _ _ (length_bytesLE width value)

theorem take_append_drop_take_append_drop (bytes : List UInt8) {first second : Nat}
    (ordered : first ≤ second) :
    bytes.take first ++ ((bytes.drop first).take (second - first) ++ bytes.drop second) = bytes := by
  have tail : (bytes.drop first).drop (second - first) = bytes.drop second := by
    rw [List.drop_drop, Nat.add_sub_cancel' ordered]
  rw [← tail, List.take_append_drop, List.take_append_drop]

end CouchbaseKv
