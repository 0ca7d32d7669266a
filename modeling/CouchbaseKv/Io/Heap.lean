import CouchbaseKv.Io.PrintBuf

set_option autoImplicit false

namespace CouchbaseKv

structure Heap where
  live : List Nat
  next : Nat
  fresh : ∀ address ∈ live, address < next

namespace Heap

def empty : Heap := ⟨[], 0, fun _ member => absurd member (List.not_mem_nil _)⟩

def grant (heap : Heap) (kept : List Nat) (within : ∀ address ∈ kept, address ∈ heap.live) : Heap :=
  ⟨heap.next :: kept, heap.next + 1, by
    intro address member
    rcases List.mem_cons.1 member with rfl | member
    · exact Nat.lt_succ_self _
    · exact Nat.lt_succ_of_lt (heap.fresh address (within address member))⟩

def erase (heap : Heap) (address : Nat) : Heap :=
  ⟨heap.live.erase address, heap.next, fun _ member => heap.fresh _ (List.mem_of_mem_erase member)⟩

def malloc (alloc : Nat → Bool) (heap : Heap) (size : Nat) : Option Nat × Heap :=
  if alloc size then (some heap.next, heap.grant heap.live fun _ member => member) else (none, heap)

-- glibc: realloc(p, 0) frees p and returns NULL.
def realloc (alloc : Nat → Bool) (heap : Heap) (address size : Nat) : Option (Option Nat × Heap) :=
  if address ∈ heap.live then
    some (if size = 0 then (none, heap.erase address)
      else if alloc size then
        (some heap.next, heap.grant (heap.live.erase address) fun _ member => List.mem_of_mem_erase member)
      else (none, heap))
  else none

def free (heap : Heap) (address : Nat) : Option Heap :=
  if address ∈ heap.live then some (heap.erase address) else none

@[simp] theorem live_grant (heap : Heap) (kept : List Nat) (within : ∀ address ∈ kept, address ∈ heap.live) :
    (heap.grant kept within).live = heap.next :: kept := rfl

@[simp] theorem live_erase (heap : Heap) (address : Nat) : (heap.erase address).live = heap.live.erase address :=
  rfl

theorem next_not_mem (heap : Heap) {kept : List Nat} (within : ∀ address ∈ kept, address ∈ heap.live) :
    heap.next ∉ kept := fun member => Nat.lt_irrefl _ (heap.fresh _ (within _ member))

theorem free_head {heap : Heap} {address : Nat} {rest : List Nat} (held : heap.live = address :: rest) :
    ∃ freed, heap.free address = some freed ∧ freed.live = rest := by
  refine ⟨_, if_pos (by simp [held]), ?_⟩
  simp [held]

end Heap

inductive HeapOutcome
  | returned (rc : Int) (buf : PrintBuf) (block : Option Nat) (heap : Heap)
  | invalidPointer

def growLoopHeap (signedChar : Bool) (alloc : Nat → Bool) (printed : Nat → Option (List UInt8)) :
    Nat → PrintBuf → Nat → Heap → Option HeapOutcome
  | 0, _, _, _ => none
  | fuel + 1, buf, address, heap =>
    let (rc, text) := vsnprintf (printed 0) (charToSize buf.outSize)
    let buf := { buf with text := text }
    if rc < 0 then
      match heap.free address with
      | none => some .invalidPointer
      | some heap => some (.returned rc { buf with outPtr := .null, outSize := 0 } none heap)
    else if rc < buf.outSize then some (.returned rc { buf with needFree := 1 } (some address) heap)
    else
      let buf := { buf with outSize := toChar signedChar (buf.outSize * 2) }
      match heap.realloc alloc address (charToSize buf.outSize) with
      | none => some .invalidPointer
      | some (some moved, heap) =>
        growLoopHeap signedChar alloc (fun k => printed (k + 1)) fuel
          { buf with outPtr := .heap (charToSize buf.outSize) } moved heap
      | some (none, heap) =>
        match heap.free address with
        | none => some .invalidPointer
        | some heap => some (.returned (-1) { buf with outPtr := .null, outSize := 0 } none heap)

def wrappedVsnprintfHeap (signedChar : Bool) (alloc : Nat → Bool) (printed : Nat → Option (List UInt8))
    (fuel : Nat) (buf : PrintBuf) (heap : Heap) : Option HeapOutcome :=
  let buf := { buf with outPtr := .input, outSize := toChar signedChar buf.inSize, needFree := 0 }
  let (rc, text) := vsnprintf (printed 0) (charToSize buf.outSize)
  let buf := { buf with text := text }
  if rc < 0 then some (.returned rc { buf with outPtr := .null, outSize := 0 } none heap)
  else if rc < buf.outSize then some (.returned rc buf none heap)
  else
    let buf := { buf with outSize := toChar signedChar ((buf.inSize * 2 % 2 ^ 64 : Nat) : Int) }
    match heap.malloc alloc (charToSize buf.outSize) with
    | (some address, heap) =>
      growLoopHeap signedChar alloc (fun k => printed (k + 1)) fuel
        { buf with outPtr := .heap (charToSize buf.outSize) } address heap
    | (none, heap) => some (.returned (-1) { buf with outPtr := .null, outSize := 0 } none heap)

def Owns (start : Heap) : HeapOutcome → Int × PrintBuf → Prop
  | .returned rc buf block heap, result =>
    result = (rc, buf) ∧
      if buf.needFree = 1 then
        ∃ address, block = some address ∧ address ∉ start.live ∧ heap.live = address :: start.live
      else block = none ∧ heap.live = start.live
  | .invalidPointer, _ => False

theorem toChar_double (c : Int) (positive : 0 < c) (small : c ≤ 127) :
    (0 < toChar true (c * 2) ∧ toChar true (c * 2) ≤ 127) ∨ 2 ^ 63 ≤ charToSize (toChar true (c * 2)) := by
  simp only [toChar, charToSize, if_true]
  omega

theorem charToSize_pos {c : Int} (positive : 0 < c) (small : c ≤ 127) : 0 < charToSize c := by
  simp only [charToSize]
  omega

section Owns

variable (alloc : Nat → Bool) (refuses : ∀ size, 2 ^ 63 ≤ size → alloc size = false)
  (printed : Nat → Option (List UInt8))

include refuses in
theorem growLoopHeap_owns (start : Heap) (fuel : Nat) (buf : PrintBuf) (address : Nat) (heap : Heap)
    (held : heap.live = address :: start.live) (added : address ∉ start.live) (unset : buf.needFree = 0)
    (positive : 0 < buf.outSize) (small : buf.outSize ≤ 127) :
    Option.Rel (Owns start) (growLoopHeap true alloc printed fuel buf address heap)
      (growLoop true alloc printed fuel buf) := by
  induction fuel generalizing buf address heap printed with
  | zero => exact .none
  | succ fuel ih =>
    obtain ⟨freed, released, kept⟩ := Heap.free_head held
    have member : address ∈ heap.live := by simp [held]
    have nonzero : charToSize (toChar true (buf.outSize * 2)) ≠ 0 := by
      rcases toChar_double buf.outSize positive small with ⟨up, low⟩ | huge
      · exact Nat.pos_iff_ne_zero.1 (charToSize_pos up low)
      · omega
    simp only [growLoopHeap, growLoop]
    split_ifs with failed fits allocated
    · rw [released]
      exact .some ⟨rfl, by simp [unset, kept]⟩
    · exact .some ⟨rfl, by simpa using ⟨added, held⟩⟩
    · simp only [Heap.realloc, member, nonzero, allocated, if_true, if_false]
      have within : ∀ other ∈ heap.live.erase address, other ∈ heap.live :=
        fun _ member => List.mem_of_mem_erase member
      rcases toChar_double buf.outSize positive small with ⟨up, low⟩ | huge
      · exact ih _ _ _ _ (by simp [held]) (fun fresh => heap.next_not_mem within (by simp [held, fresh]))
          unset up low
      · exact absurd ((refuses _ huge).symm.trans allocated) Bool.false_ne_true
    · simp only [Heap.realloc, member, nonzero, allocated, if_true, Bool.false_eq_true, if_false, released]
      exact .some ⟨rfl, by simp [unset, kept]⟩

end Owns

-- malloc(0), then realloc of that block to 0 bytes, which frees it, then free of it again.
theorem wrappedVsnprintfHeap_double_free (signedChar : Bool) (alloc : Nat → Bool) (zeroBlock : alloc 0 = true)
    (printed : Nat → Option (List UInt8)) (first : printed 0 ≠ none) (second : printed 1 ≠ none)
    (buf : PrintBuf) (wraps : buf.inSize % 256 = 0 ∨ signedChar = true ∧ buf.inSize % 128 = 0)
    (fuel : Nat) (heap : Heap) :
    wrappedVsnprintfHeap signedChar alloc printed (fuel + 1) buf heap = some .invalidPointer := by
  obtain ⟨output, printedFirst⟩ := Option.ne_none_iff_exists'.1 first
  obtain ⟨output', printedSecond⟩ := Option.ne_none_iff_exists'.1 second
  have unfit : ¬ (output.length : Int) < toChar signedChar buf.inSize := by
    rcases wraps with wraps | ⟨rfl, wraps⟩
    · rw [toChar_of_dvd _ (by omega)]
      omega
    · simp only [toChar, if_true]
      omega
  have wrapped : toChar signedChar ((buf.inSize * 2 % 2 ^ 64 : Nat) : Int) = 0 :=
    toChar_of_dvd _ (by omega)
  have nonneg : ¬ (output.length : Int) < 0 := by omega
  have nonneg' : ¬ (output'.length : Int) < 0 := by omega
  have zeroSize : charToSize 0 = 0 := rfl
  have zeroChar : toChar signedChar 0 = 0 := toChar_of_dvd _ rfl
  have stale : heap.next ∉ (heap.next :: heap.live).erase heap.next := by
    rw [List.erase_cons_head]
    exact heap.next_not_mem fun _ member => member
  simp only [wrappedVsnprintfHeap, printedFirst, vsnprintf, nonneg, unfit, if_false, wrapped, zeroSize,
    Heap.malloc, zeroBlock, if_true, growLoopHeap, Nat.zero_add, printedSecond, nonneg', zeroChar, zero_mul,
    Heap.realloc, Heap.live_grant, List.mem_cons_self, Heap.free, Heap.live_erase, stale]

theorem wrappedVsnprintfHeap_double_free_256 :
    (fun _ => true : Nat → Bool) 0 = true ∧ (fun _ => some [0x68, 0x69] : Nat → Option (List UInt8)) 0 ≠ none ∧
      (fun _ => some [0x68, 0x69] : Nat → Option (List UInt8)) 1 ≠ none ∧
      ((256 : Nat) % 256 = 0 ∨ true = true ∧ (256 : Nat) % 128 = 0) ∧
      wrappedVsnprintfHeap true (fun _ => true) (fun _ => some [0x68, 0x69]) (0 + 1) ⟨256, .null, 0, 0, []⟩
        Heap.empty = some .invalidPointer :=
  ⟨rfl, by simp, by simp, .inl rfl,
    wrappedVsnprintfHeap_double_free true _ rfl _ (by simp) (by simp) ⟨256, .null, 0, 0, []⟩ (.inl rfl) 0 Heap.empty⟩

end CouchbaseKv
