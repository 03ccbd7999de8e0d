import Rvpn.Lib.Bytes
import Rvpn.Lib.Checked

/-!
# Codecs

An encoder `α → β` with a decoder `β → Except ε α`. In a codec that round-trips, encodings are
unique. That a code word is the encoding of what it decodes to is a property of each code word
(`Reproduced`). The second part is for decoders that read from a cursor, which panics past its end.
-/

namespace Rvpn

section
variable {α β ε : Type} {encode : α → β} {decode : β → Except ε α}

/-- Decoding an encoded value gives the value back. -/
def RoundTrips (encode : α → β) (decode : β → Except ε α) : Prop :=
  ∀ a, decode (encode a) = .ok a

lemma RoundTrips.injective (h : RoundTrips encode decode) : Function.Injective encode := by
  intro a a' eq
  have same := h a
  rw [eq, h a'] at same
  exact (Except.ok.inj same).symm

/-- Encoding what the code word decodes to gives the code word back. -/
def Reproduced (encode : α → β) (decode : β → Except ε α) (b : β) : Prop :=
  ∀ a, decode b = .ok a → encode a = b

lemma Reproduced.eq {a : α} {b b' : β} (h : Reproduced encode decode b)
    (h' : Reproduced encode decode b') (ok : decode b = .ok a) (ok' : decode b' = .ok a) : b = b' := by
  rw [← h a ok, h' a ok']

end

namespace Cursor
variable {n : Nat} {input : List UInt8}

/-- `split_at`: the next `n` bytes of the cursor, and the rest. -/
def splitAt (n : Nat) (input : List UInt8) : Checked (List UInt8 × List UInt8) :=
  if n ≤ input.length then .ok (input.take n, input.drop n) else .error .outOfBounds

def advance (n : Nat) (input : List UInt8) : Checked (List UInt8) := do
  let (_, rest) ← splitAt n input
  return rest

def getU8 (input : List UInt8) : Checked (UInt8 × List UInt8) := do
  let (bytes, rest) ← splitAt 1 input
  return (UInt8.ofNat (ofBe bytes), rest)

def getU32 (input : List UInt8) : Checked (UInt32 × List UInt8) := do
  let (bytes, rest) ← splitAt 4 input
  return (UInt32.ofNat (ofBe bytes), rest)

def getU64 (input : List UInt8) : Checked (UInt64 × List UInt8) := do
  let (bytes, rest) ← splitAt 8 input
  return (UInt64.ofNat (ofBe bytes), rest)

/-- `copy_to_slice`, for a slice of `n` bytes. -/
def copyToSlice (n : Nat) (input : List UInt8) : Checked (Bytes n × List UInt8) := do
  let (bytes, rest) ← splitAt n input
  return (Bytes.ofList n bytes, rest)

/-! A read that stays within the cursor; then the same for a cursor that is `k` bytes into a buffer. -/

@[simp] lemma splitAt_of_le (h : n ≤ input.length) :
    splitAt n input = .ok (input.take n, input.drop n) :=
  if_pos h

@[simp] lemma advance_of_le (h : n ≤ input.length) : advance n input = .ok (input.drop n) := by
  simp [advance, h]

@[simp] lemma getU8_cons (b : UInt8) (rest : List UInt8) : getU8 (b :: rest) = .ok (b, rest) := by
  simp [getU8, ofBe]

@[simp] lemma getU32_of_le (h : 4 ≤ input.length) :
    getU32 input = .ok (UInt32.ofNat (ofBe (input.take 4)), input.drop 4) := by
  simp [getU32, h]

@[simp] lemma copyToSlice_of_le (h : n ≤ input.length) :
    copyToSlice n input = .ok (Bytes.ofList n (input.take n), input.drop n) := by
  simp [copyToSlice, h]

lemma splitAt_drop {k : Nat} (h : k + n ≤ input.length) :
    splitAt n (input.drop k) = .ok ((input.drop k).take n, input.drop (k + n)) := by
  rw [splitAt_of_le (by rw [List.length_drop]; omega), List.drop_drop]

lemma getU8_drop {k : Nat} (h : k < input.length) :
    getU8 (input.drop k) = .ok (input[k], input.drop (k + 1)) := by
  rw [List.drop_eq_getElem_cons h, getU8_cons]

lemma getU64_drop {k : Nat} (h : k + 8 ≤ input.length) :
    getU64 (input.drop k) = .ok (UInt64.ofNat (ofBe ((input.drop k).take 8)), input.drop (k + 8)) := by
  rw [getU64, splitAt_drop h, Checked.bind_ok]
  rfl

lemma copyToSlice_drop {k : Nat} (h : k + n ≤ input.length) : copyToSlice n (input.drop k) =
      .ok (Bytes.ofList n ((input.drop k).take n), input.drop (k + n)) := by
  rw [copyToSlice, splitAt_drop h, Checked.bind_ok]
  rfl

end Cursor
end Rvpn
