import Mathlib.Data.List.Basic
import Mathlib.Algebra.Order.Ring.Int

set_option autoImplicit false

namespace CouchbaseKv

inductive BufPtr
  | null
  | input
  | heap (size : Nat)
  deriving DecidableEq, Repr

-- outSize is the value the char out_size field holds; text is what the last vsnprintf wrote.
structure PrintBuf where
  inSize : Nat
  outPtr : BufPtr
  outSize : Int
  needFree : Int
  text : List UInt8
  deriving DecidableEq, Repr

def toChar (signedChar : Bool) (v : Int) : Int :=
  if signedChar then (v + 128) % 256 - 128 else v % 256

def charMax (signedChar : Bool) : Int := if signedChar then 127 else 255

-- A char passed as a size_t: sign-extended, modulo 2^64.
def charToSize (c : Int) : Nat := (c % 2 ^ 64).toNat

-- Modelled from the spec: C's vsnprintf; none is an output error.
def vsnprintf (formatted : Option (List UInt8)) (size : Nat) : Int × List UInt8 :=
  match formatted with
  | none => (-1, [])
  | some output => (output.length, if size = 0 then [] else output.take (size - 1) ++ [0])

-- printed k is what the k-th vsnprintf call prints: every call reads the same va_list.
def growLoop (signedChar : Bool) (alloc : Nat → Bool) (printed : Nat → Option (List UInt8)) :
    Nat → PrintBuf → Option (Int × PrintBuf)
  | 0, _ => none
  | fuel + 1, buf =>
    let (rc, text) := vsnprintf (printed 0) (charToSize buf.outSize)
    let buf := { buf with text := text }
    if rc < 0 then some (rc, { buf with outPtr := .null, outSize := 0 })
    else if rc < buf.outSize then some (rc, { buf with needFree := 1 })
    else
      let buf := { buf with outSize := toChar signedChar (buf.outSize * 2) }
      if alloc (charToSize buf.outSize) then
        growLoop signedChar alloc (fun k => printed (k + 1)) fuel
          { buf with outPtr := .heap (charToSize buf.outSize) }
      else some (-1, { buf with outPtr := .null, outSize := 0 })

def wrappedVsnprintf (signedChar : Bool) (alloc : Nat → Bool) (printed : Nat → Option (List UInt8))
    (fuel : Nat) (buf : PrintBuf) : Option (Int × PrintBuf) :=
  let buf := { buf with outPtr := .input, outSize := toChar signedChar buf.inSize, needFree := 0 }
  let (rc, text) := vsnprintf (printed 0) (charToSize buf.outSize)
  let buf := { buf with text := text }
  if rc < 0 then some (rc, { buf with outPtr := .null, outSize := 0 })
  else if rc < buf.outSize then some (rc, buf)
  else
    let buf := { buf with outSize := toChar signedChar ((buf.inSize * 2 % 2 ^ 64 : Nat) : Int) }
    if alloc (charToSize buf.outSize) then
      growLoop signedChar alloc (fun k => printed (k + 1)) fuel
        { buf with outPtr := .heap (charToSize buf.outSize) }
    else some (-1, { buf with outPtr := .null, outSize := 0 })

theorem toChar_le_charMax (signedChar : Bool) (v : Int) : toChar signedChar v ≤ charMax signedChar := by
  cases signedChar <;> simp only [toChar, charMax, Bool.false_eq_true, if_true, if_false] <;> omega

theorem toChar_of_dvd (signedChar : Bool) {v : Int} (wraps : v % 256 = 0) : toChar signedChar v = 0 := by
  cases signedChar <;> simp only [toChar, Bool.false_eq_true, if_true, if_false] <;> omega

theorem charMax_le (signedChar : Bool) : charMax signedChar ≤ 255 := by
  cases signedChar <;> decide

section Diverge

variable (signedChar : Bool) (output : List UInt8)

theorem growLoop_none (fuel : Nat) (buf : PrintBuf)
    (stuck : buf.outSize = 0 ∨ (buf.outSize ≤ charMax signedChar ∧ charMax signedChar ≤ output.length)) :
    growLoop signedChar (fun _ => true) (fun _ => some output) fuel buf = none := by
  induction fuel generalizing buf with
  | zero => rfl
  | succ fuel ih =>
    have nonneg : ¬ (output.length : Int) < 0 := by omega
    have longer : ¬ (output.length : Int) < buf.outSize := by omega
    simp only [growLoop, vsnprintf, nonneg, if_false, longer]
    apply ih
    rcases stuck with zero | ⟨-, long⟩
    · exact .inl (toChar_of_dvd _ (by omega))
    · exact .inr ⟨toChar_le_charMax _ _, long⟩

theorem wrappedVsnprintf_never_returns (buf : PrintBuf)
    (stuck : buf.inSize % 256 = 0 ∨ charMax signedChar ≤ output.length) (fuel : Nat) :
    wrappedVsnprintf signedChar (fun _ => true) (fun _ => some output) fuel buf = none := by
  have doubled : buf.inSize * 2 % 2 ^ 64 % 256 = buf.inSize * 2 % 256 :=
    Nat.mod_mod_of_dvd _ (Nat.pow_dvd_pow 2 (by decide : 8 ≤ 64))
  have nonneg : ¬ (output.length : Int) < 0 := by omega
  have longer : ¬ (output.length : Int) < toChar signedChar buf.inSize := by
    rcases stuck with wraps | long
    · rw [toChar_of_dvd _ (by omega)]; omega
    · have := toChar_le_charMax signedChar buf.inSize
      omega
  simp only [wrappedVsnprintf, vsnprintf, nonneg, if_false, longer]
  apply growLoop_none
  rcases stuck with wraps | long
  · exact .inl (toChar_of_dvd _ (by omega))
  · exact .inr ⟨toChar_le_charMax _ _, long⟩

end Diverge

theorem wrappedVsnprintf_never_returns_256 :
    ((256 : Nat) % 256 = 0 ∨ charMax true ≤ [0x68, 0x65, 0x6c, 0x6c, 0x6f].length) ∧
      ∀ fuel, wrappedVsnprintf true (fun _ => true) (fun _ => some [0x68, 0x65, 0x6c, 0x6c, 0x6f]) fuel
        ⟨256, .null, 0, 0, []⟩ = none :=
  ⟨.inl rfl, wrappedVsnprintf_never_returns true _ ⟨256, .null, 0, 0, []⟩ (.inl rfl)⟩

theorem vsnprintf_fits (output : List UInt8) {c : Int} (fits : (output.length : Int) < c) (bounded : c ≤ 255) :
    vsnprintf (some output) (charToSize c) = ((output.length : Int), output ++ [0]) := by
  have size : charToSize c = c.toNat := by
    simp only [charToSize]
    rw [Int.emod_eq_of_lt (by omega) (by omega)]
  have whole : output.length ≤ c.toNat - 1 := by omega
  simp [vsnprintf, size, List.take_of_length_le whole]
  omega

section Returns

variable {signedChar : Bool} {alloc : Nat → Bool} {rc : Int} {buf' : PrintBuf}

theorem growLoop_returns {fuel : Nat} {printed : Nat → Option (List UInt8)} {buf : PrintBuf}
    (returned : growLoop signedChar alloc printed fuel buf = some (rc, buf')) (ok : 0 ≤ rc)
    (bounded : buf.outSize ≤ charMax signedChar) (entry : buf.outPtr = .heap (charToSize buf.outSize)) :
    ∃ k output, printed k = some output ∧ rc = output.length ∧ rc < buf'.outSize ∧
      buf'.text = output ++ [0] ∧ buf'.outPtr = .heap (charToSize buf'.outSize) ∧ buf'.needFree = 1 ∧
      buf'.inSize = buf.inSize := by
  induction fuel generalizing buf printed with
  | zero => cases returned
  | succ fuel ih =>
    rcases first : printed 0 with _ | output
    · simp only [growLoop, first, vsnprintf] at returned
      simp at returned
      omega
    have nonneg : ¬ (output.length : Int) < 0 := by omega
    by_cases fits : (output.length : Int) < buf.outSize
    · simp only [growLoop, first, vsnprintf_fits output fits (Int.le_trans bounded (charMax_le _)), nonneg,
        fits, if_false, if_true, Option.some.injEq, Prod.mk.injEq] at returned
      obtain ⟨rfl, rfl⟩ := returned
      exact ⟨0, output, first, rfl, fits, rfl, entry, rfl, rfl⟩
    · simp only [growLoop, first, vsnprintf, nonneg, fits, if_false] at returned
      split at returned
      · obtain ⟨k, rest⟩ := ih returned (toChar_le_charMax _ _) rfl
        exact ⟨k + 1, rest⟩
      · simp only [Option.some.injEq, Prod.mk.injEq] at returned
        omega

theorem wrappedVsnprintf_returns {fuel : Nat} {printed : Nat → Option (List UInt8)} {buf : PrintBuf}
    (returned : wrappedVsnprintf signedChar alloc printed fuel buf = some (rc, buf')) (ok : 0 ≤ rc) :
    ∃ k output, printed k = some output ∧ rc = output.length ∧ rc < buf'.outSize ∧
      buf'.text = output ++ [0] ∧ buf'.inSize = buf.inSize ∧
      ((k = 0 ∧ buf'.outPtr = .input ∧ buf'.needFree = 0) ∨
        (0 < k ∧ buf'.outPtr = .heap (charToSize buf'.outSize) ∧ buf'.needFree = 1)) := by
  rcases first : printed 0 with _ | output
  · simp only [wrappedVsnprintf, first, vsnprintf] at returned
    simp at returned
    omega
  have nonneg : ¬ (output.length : Int) < 0 := by omega
  by_cases fits : (output.length : Int) < toChar signedChar buf.inSize
  · simp only [wrappedVsnprintf, first, vsnprintf_fits output fits
      (Int.le_trans (toChar_le_charMax _ _) (charMax_le _)), nonneg, fits, if_false, if_true,
      Option.some.injEq, Prod.mk.injEq] at returned
    obtain ⟨rfl, rfl⟩ := returned
    exact ⟨0, output, first, rfl, fits, rfl, rfl, .inl ⟨rfl, rfl, rfl⟩⟩
  · simp only [wrappedVsnprintf, first, vsnprintf, nonneg, fits, if_false] at returned
    split at returned
    · obtain ⟨k, output', printedK, count, fitsAfter, text, heap, freed, size⟩ :=
        growLoop_returns returned ok (toChar_le_charMax _ _) rfl
      exact ⟨k + 1, output', printedK, count, fitsAfter, text, size, .inr ⟨k.succ_pos, heap, freed⟩⟩
    · simp only [Option.some.injEq, Prod.mk.injEq] at returned
      omega

end Returns

-- in_size 4, the first call printing 12345 and the retries, on the spent va_list, 719822848.
theorem wrappedVsnprintf_returns_retry :
    let printed : Nat → Option (List UInt8) := fun k =>
      if k = 0 then some [0x31, 0x32, 0x33, 0x34, 0x35]
      else some [0x37, 0x31, 0x39, 0x38, 0x32, 0x32, 0x38, 0x34, 0x38]
    wrappedVsnprintf true (fun _ => true) printed 2 ⟨4, .null, 0, 0, []⟩ =
      some (9, ⟨4, .heap 16, 16, 1, [0x37, 0x31, 0x39, 0x38, 0x32, 0x32, 0x38, 0x34, 0x38, 0]⟩) ∧
    (0 : Int) ≤ 9 ∧
    ∃ k output, printed k = some output ∧ (9 : Int) = output.length ∧ (9 : Int) < 16 ∧
      [0x37, 0x31, 0x39, 0x38, 0x32, 0x32, 0x38, 0x34, 0x38, (0 : UInt8)] = output ++ [0] ∧ 4 = 4 ∧
      ((k = 0 ∧ BufPtr.heap 16 = .input ∧ (1 : Int) = 0) ∨
        (0 < k ∧ BufPtr.heap 16 = .heap (charToSize 16) ∧ (1 : Int) = 1)) := by
  intro printed
  have returned : wrappedVsnprintf true (fun _ => true) printed 2 ⟨4, .null, 0, 0, []⟩ =
      some (9, ⟨4, .heap 16, 16, 1, [0x37, 0x31, 0x39, 0x38, 0x32, 0x32, 0x38, 0x34, 0x38, 0]⟩) := by
    decide
  exact ⟨returned, by decide, wrappedVsnprintf_returns returned (by decide)⟩

end CouchbaseKv
