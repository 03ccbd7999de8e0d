import Mathlib.Data.Finset.Lattice.Fold
import Mathlib.Data.Nat.Bitwise
import Mathlib.Order.Lattice.Nat
import Rvpn.Lib.Checked
import Rvpn.Lib.Run

/-!
# The replay window

Model of `crates/rvpn-protocol/src/replay.rs`: a ring of 2048 bits, in which the bit of a sequence
number is found modulo 2048. Every index, shift and arithmetic operation is checked, and none fails
(`checkAndRecord_returns`). `Reference` is what the window is for: it keeps the set of all accepted
numbers. `Represents` relates the ring to that set.
-/

namespace Rvpn.Protocol
open Checked

/-- `WORDS`. -/
def replayWords : Nat := 32

/-- `WINDOW`. -/
def replayWindow : Nat := replayWords * 64

/-- Why a sequence is refused. -/
inductive ReplayError where
  | duplicate
  | tooOld
  deriving DecidableEq

abbrev Ring := Vector (BitVec 64) replayWords

/-- `ReplayWindow`: a ring of bits for the numbers up to the highest. -/
structure ReplayWindow where
  highest : Option UInt64
  seen : Ring
  deriving DecidableEq

namespace ReplayWindow

/-- `ReplayWindow::default`. -/
def default : ReplayWindow where
  highest := none
  seen := Vector.replicate replayWords 0

/-- `ReplayWindow::set_bit`. -/
def setBitChecked (seen : Ring) (sequence : UInt64) : Checked Ring := do
  let idx := sequence.toNat % replayWindow
  let word ← vget seen (idx / 64)
  let bit ← shl 1#64 (idx % 64)
  vset seen (idx / 64) (word ||| bit)

/-- `ReplayWindow::test_bit`. -/
def testBitChecked (seen : Ring) (sequence : UInt64) : Checked Bool := do
  let idx := sequence.toNat % replayWindow
  let word ← vget seen (idx / 64)
  let bit ← shl 1#64 (idx % 64)
  return word &&& bit != 0

/-- The variables of the loop in `clear_range`. -/
structure ClearState where
  seen : Ring
  word : Nat
  bitOffset : Nat
  remaining : Nat

def clearMask (bitsHere bitOffset : Nat) : Checked (BitVec 64) :=
  if bitsHere = 64 then .ok (BitVec.allOnes 64)
  else do
    let one ← shl 1#64 bitsHere
    let low ← sub one.toNat 1
    shl (BitVec.ofNat 64 low) bitOffset

/-- One round of the loop in `clear_range`. -/
def clearRound (s : ClearState) : Checked ClearState := do
  let room ← sub 64 s.bitOffset
  let bitsHere := min s.remaining room
  let mask ← clearMask bitsHere s.bitOffset
  let word ← vget s.seen s.word
  let seen ← vset s.seen s.word (word &&& ~~~mask)
  let remaining ← sub s.remaining bitsHere
  let next ← add 64 s.word 1
  return { seen := seen, word := next % replayWords, bitOffset := 0, remaining := remaining }

/-- `ReplayWindow::clear_range`; every round clears a bit. -/
def clearRangeChecked (seen : Ring) (highest : UInt64) (shift : Nat) : Checked Ring := do
  require (shift < replayWindow)
  if shift = 0 then return seen
  let first ← add 64 highest.toNat 1
  let start := first % replayWindow
  let s ← loop (fun s : ClearState => decide (0 < s.remaining)) clearRound shift
    { seen := seen, word := start / 64, bitOffset := start % 64, remaining := shift }
  return s.seen

/-- `check_and_record` makes room for a number above the highest. -/
def makeRoomChecked (seen : Ring) (highest : UInt64) (shift : Nat) : Checked Ring :=
  if replayWindow ≤ shift then .ok default.seen else clearRangeChecked seen highest shift

/-- `ReplayWindow::check_and_record`. -/
def checkAndRecordChecked (w : ReplayWindow) (sequence : UInt64) :
    Checked (Except ReplayError Unit × ReplayWindow) :=
  match w.highest with
  | none => do
    let seen ← setBitChecked w.seen sequence
    return (.ok (), { highest := some sequence, seen := seen })
  | some highest =>
    if highest < sequence then do
      let shift ← sub sequence.toNat highest.toNat
      let seen ← makeRoomChecked w.seen highest shift
      let seen ← setBitChecked seen sequence
      return (.ok (), { highest := some sequence, seen := seen })
    else do
      let offset ← sub highest.toNat sequence.toNat
      if replayWindow ≤ offset then return (.error .tooOld, w)
      let found ← testBitChecked w.seen sequence
      if found then return (.error .duplicate, w)
      let seen ← setBitChecked w.seen sequence
      return (.ok (), { w with seen := seen })

/-- The bit at place `i` of the ring. -/
def slot (seen : Ring) (i : Nat) : Bool :=
  (seen[i / 64]?.getD 0).getLsbD (i % 64)

variable {seen : Ring} {i : Nat}

lemma slot_of_lt (h : i / 64 < replayWords) : slot seen i = (seen[i / 64]).getLsbD (i % 64) := by
  simp [slot, h]

lemma word_lt (h : i < replayWindow) : i / 64 < replayWords := by
  have h : i < 2048 := h
  show i / 64 < 32
  omega

variable {k bitOffset : Nat} {sequence : UInt64}

lemma slot_set (hk : k < replayWords) (x : BitVec 64) (hi : i < replayWindow) :
    slot (seen.set k x) i = if i / 64 = k then x.getLsbD (i % 64) else slot seen i := by
  rw [slot_of_lt (word_lt hi), slot_of_lt (word_lt hi), Vector.getElem_set]
  by_cases eq : k = i / 64
  · rw [if_pos eq, if_pos eq.symm]
  · rw [if_neg eq, if_neg (Ne.symm eq)]

@[simp] lemma slot_default (i : Nat) : slot default.seen i = false := by
  simp only [slot, default, Vector.getElem?_replicate]
  split
  · simp
  · simp

lemma getLsbD_one_shl (hk : k < 64) (j : Nat) : (1#64 <<< k).getLsbD j = decide (j = k) := by
  rw [BitVec.getLsbD_shiftLeft, BitVec.getLsbD_one]
  by_cases eq : j = k
  · subst eq
    simp [hk]
  · simp only [eq, decide_false]
    have : ¬ (j - k = 0 ∧ k ≤ j) := by omega
    by_cases le : k ≤ j
    · have : j - k ≠ 0 := by omega
      simp [this]
    · have : j < k := by omega
      simp [this]

lemma setBit_spec (seen : Ring) (sequence : UInt64) :
    ∃ seen', setBitChecked seen sequence = .ok seen' ∧ ∀ i < replayWindow,
      slot seen' i = (slot seen i || decide (i = sequence.toNat % replayWindow)) := by
  have hi : sequence.toNat % replayWindow < replayWindow := Nat.mod_lt _ (by decide)
  have word := word_lt hi
  have eq : setBitChecked seen sequence = .ok (seen.set (sequence.toNat % replayWindow / 64)
      (seen[sequence.toNat % replayWindow / 64] ||| 1#64 <<< (sequence.toNat % replayWindow % 64)))
      := by
    simp only [setBitChecked, vget_of_lt word, bind_ok,
      shl_of_lt (Nat.mod_lt _ (by decide : 0 < 64)), vset_of_lt word]
  refine ⟨_, eq, ?_⟩
  · intro i lt
    rw [slot_set (word_lt hi) _ lt]
    split
    · next eq =>
      rw [BitVec.getLsbD_or, getLsbD_one_shl (Nat.mod_lt _ (by decide)), slot_of_lt (word_lt lt)]
      have same : i % 64 = sequence.toNat % replayWindow % 64 ↔
          i = sequence.toNat % replayWindow := by omega
      simp only [eq, same]
    · next ne =>
      have other : i ≠ sequence.toNat % replayWindow := by
        intro eq
        exact ne (by rw [eq])
      simp [other]

lemma testBit_spec (seen : Ring) (sequence : UInt64) :
    testBitChecked seen sequence = .ok (slot seen (sequence.toNat % replayWindow)) := by
  have hi : sequence.toNat % replayWindow < replayWindow := Nat.mod_lt _ (by decide)
  have inside := word_lt hi
  have lt : sequence.toNat % replayWindow % 64 < 64 := Nat.mod_lt _ (by decide)
  simp only [testBitChecked, vget_of_lt inside, bind_ok, shl_of_lt lt, pure_eq, slot_of_lt inside]
  congr 1
  generalize seen[sequence.toNat % replayWindow / 64] = word
  generalize sequence.toNat % replayWindow % 64 = k at lt
  -- the conjunction with one bit is not zero exactly when that bit is set
  have bits : ∀ j, (word &&& 1#64 <<< k).getLsbD j = (word.getLsbD k && decide (j = k)) := by
    intro j
    rw [BitVec.getLsbD_and, getLsbD_one_shl lt]
    by_cases eq : j = k
    · simp [eq]
    · simp [eq]
  cases set : word.getLsbD k with
  | true =>
    rw [bne_iff_ne]
    intro zero
    have := bits k
    rw [zero, set] at this
    simp at this
  | false =>
    rw [bne_eq_false_iff_eq]
    apply BitVec.eq_of_getLsbD_eq
    intro j _
    rw [bits, set]
    simp

lemma clearMask_spec {bitsHere : Nat} (fits : bitsHere + bitOffset ≤ 64) (lt : bitOffset < 64) :
    ∃ mask, clearMask bitsHere bitOffset = .ok mask ∧ ∀ j < 64,
      mask.getLsbD j = decide (bitOffset ≤ j ∧ j < bitOffset + bitsHere) := by
  unfold clearMask
  split
  · next full =>
    refine ⟨_, rfl, ?_⟩
    intro j hj
    have : bitOffset ≤ j ∧ j < bitOffset + bitsHere := by omega
    rw [BitVec.getLsbD_allOnes]
    simp [this, hj]
  · next part =>
    have small : bitsHere < 64 := by omega
    have pow : (1#64 <<< bitsHere).toNat = 2 ^ bitsHere := by
      rw [BitVec.toNat_shiftLeft, BitVec.toNat_ofNat, Nat.one_mod_two_pow (by decide),
        Nat.one_shiftLeft]
      exact Nat.mod_eq_of_lt (Nat.pow_lt_pow_right (by decide) small)
    refine ⟨BitVec.ofNat 64 (2 ^ bitsHere - 1) <<< bitOffset, ?_, ?_⟩
    · rw [shl_of_lt small, bind_ok, pow, sub_of_le Nat.one_le_two_pow, bind_ok, shl_of_lt lt]
    · intro j hj
      rw [BitVec.getLsbD_shiftLeft, BitVec.getLsbD_ofNat, Nat.testBit_two_pow_sub_one]
      have in' : j - bitOffset < 64 := by omega
      simp only [hj, in', decide_true, Bool.true_and]
      by_cases le : bitOffset ≤ j
      · have : j - bitOffset < bitsHere ↔ j < bitOffset + bitsHere := by omega
        simp [le, this]
      · have : j < bitOffset := by omega
        simp [le, this]

/-- The first `shift - remaining` places after `highest` are cleared. -/
structure Clearing (seen : Ring) (highest shift : Nat) (s : ClearState) : Prop where
  word : s.word < replayWords
  bitOffset : s.bitOffset < 64
  remaining : s.remaining ≤ shift
  place : 0 < s.remaining →
    (highest + 1 + (shift - s.remaining)) % replayWindow = s.word * 64 + s.bitOffset
  cleared : ∀ i < replayWindow, slot s.seen i = true ↔
    slot seen i = true ∧ ∀ j < shift - s.remaining, (highest + 1 + j) % replayWindow ≠ i

lemma slot_clear {bits : Nat} {mask : BitVec 64} (hk : k < replayWords)
    (maskBits : ∀ j < 64, mask.getLsbD j = decide (bitOffset ≤ j ∧ j < bitOffset + bits))
    (hi : i < replayWindow) : slot (seen.set k (seen[k] &&& ~~~mask)) i = true ↔
      slot seen i = true ∧ ¬(i / 64 = k ∧ bitOffset ≤ i % 64 ∧ i % 64 < bitOffset + bits) := by
  rw [slot_set hk _ hi]
  by_cases same : i / 64 = k
  · subst same
    have lt : i % 64 < 64 := Nat.mod_lt _ (by decide)
    rw [if_pos rfl, BitVec.getLsbD_and, BitVec.getLsbD_not, maskBits _ lt, slot_of_lt (word_lt hi)]
    simp only [lt, decide_true, Bool.true_and, Bool.and_eq_true, Bool.not_eq_true',
      decide_eq_false_iff_not, true_and]
  · rw [if_neg same]
    simp [same]

/-- One round's places are a run of bits in one word. -/
lemma cleared_here {start done done' word bits : Nat} (hw : word < replayWords)
    (place : (start + done) % replayWindow = word * 64 + bitOffset) (round : done' = done + bits)
    (fits : bitOffset + bits ≤ 64) (hi : i < replayWindow) :
    (∃ j, done ≤ j ∧ j < done' ∧ (start + j) % replayWindow = i) ↔
      i / 64 = word ∧ bitOffset ≤ i % 64 ∧ i % 64 < bitOffset + bits := by
  have hw : word < 32 := hw
  have hi : i < 2048 := hi
  have place : (start + done) % 2048 = word * 64 + bitOffset := place
  refine ⟨?_, ?_⟩
  · intro h
    obtain ⟨j, _, _, eq⟩ := h
    have eq : (start + j) % 2048 = i := eq
    omega
  · intro h
    refine ⟨done + (i % 64 - bitOffset), by omega, by omega, ?_⟩
    show (start + (done + (i % 64 - bitOffset))) % 2048 = i
    omega

lemma clearRound_spec {highest shift : Nat} {s : ClearState} (inv : Clearing seen highest shift s)
    (more : 0 < s.remaining) :
    ∃ s', clearRound s = .ok s' ∧ Clearing seen highest shift s' ∧ s'.remaining < s.remaining := by
  obtain ⟨word, bitOffset, remaining, place, cleared⟩ := inv
  have place := place more
  have next : s.word + 1 < 2 ^ 64 := by
    have word : s.word < 32 := word
    omega
  obtain ⟨bits, hb⟩ : ∃ bits, bits = min s.remaining (64 - s.bitOffset) := ⟨_, rfl⟩
  have fits : bits + s.bitOffset ≤ 64 := by omega
  obtain ⟨mask, maskEq, maskBits⟩ := clearMask_spec fits bitOffset
  have eq : clearRound s = .ok
      { seen := s.seen.set s.word (s.seen[s.word] &&& ~~~mask) word
        word := (s.word + 1) % replayWords
        bitOffset := 0
        remaining := s.remaining - bits } := by
    simp only [clearRound, sub_of_le (Nat.le_of_lt bitOffset), bind_ok, ← hb, maskEq,
      vget_of_lt word, vset_of_lt word, sub_of_le (show bits ≤ s.remaining by omega),
      add_of_lt next, pure_eq]
  refine ⟨_, eq, ⟨?_, ?_, ?_, ?_, ?_⟩, ?_⟩
  · exact Nat.mod_lt _ (by decide)
  · show 0 < 64
    decide
  · show s.remaining - bits ≤ shift
    omega
  · -- a round that is not the last one fills its word
    have word : s.word < 32 := word
    have place : (highest + 1 + (shift - s.remaining)) % 2048 = s.word * 64 + s.bitOffset := place
    show 0 < s.remaining - bits → _ % 2048 = (s.word + 1) % 32 * 64 + 0
    intro still
    show (highest + 1 + (shift - (s.remaining - bits))) % 2048 = (s.word + 1) % 32 * 64 + 0
    omega
  · intro i hi
    have further : shift - (s.remaining - bits) = shift - s.remaining + bits := by omega
    show slot (s.seen.set s.word (s.seen[s.word] &&& ~~~mask)) i = true ↔ _
    rw [slot_clear word maskBits hi, cleared i hi,
      ← cleared_here word place further (by omega) hi, and_assoc]
    refine and_congr_right fun _ => ⟨?_, ?_⟩
    · intro h j lt eqi
      by_cases old : j < shift - s.remaining
      · exact h.1 j old eqi
      · exact h.2 ⟨j, Nat.le_of_not_lt old, lt, eqi⟩
    · intro h
      refine ⟨fun j lt => h j ?_, ?_⟩
      · show j < shift - (s.remaining - bits)
        omega
      · intro now
        obtain ⟨j, _, lt, eqi⟩ := now
        exact h j lt eqi
  · show s.remaining - bits < s.remaining
    omega

/-- `clear_range` clears exactly the `shift` places after `highest`. -/
lemma clearRange_spec (seen : Ring) {highest : UInt64} {shift : Nat}
    (room : highest.toNat + 1 < 2 ^ 64) (small : shift < replayWindow) :
    ∃ seen', clearRangeChecked seen highest shift = .ok seen' ∧ ∀ i < replayWindow,
      slot seen' i = true ↔
        slot seen i = true ∧ ∀ j < shift, (highest.toNat + 1 + j) % replayWindow ≠ i := by
  rw [clearRangeChecked, require_of small, bind_ok]
  by_cases zero : shift = 0
  · subst zero
    exact ⟨seen, rfl, by simp⟩
  · have lt : (highest.toNat + 1) % replayWindow < replayWindow := Nat.mod_lt _ (by decide)
    have start : Clearing seen highest.toNat shift
        { seen := seen
          word := (highest.toNat + 1) % replayWindow / 64
          bitOffset := (highest.toNat + 1) % replayWindow % 64
          remaining := shift } := by
      refine ⟨word_lt lt, Nat.mod_lt _ (by decide), Nat.le_refl _, ?_, ?_⟩
      · intro _
        simp only [Nat.sub_self, Nat.add_zero]
        omega
      · simp
    have round : ∀ s, Clearing seen highest.toNat shift s → decide (0 < s.remaining) = true →
        ∃ s', clearRound s = .ok s' ∧ Clearing seen highest.toNat shift s' ∧
          s'.remaining < s.remaining :=
      fun s inv more => clearRound_spec inv (of_decide_eq_true more)
    obtain ⟨s, eq, inv, done⟩ := loop_returns _ ClearState.remaining round start (Nat.le_refl _)
    have none : s.remaining = 0 := by simpa using done
    refine ⟨s.seen, ?_, ?_⟩
    · rw [if_neg zero, add_of_lt room, bind_ok]
      exact congrArg (fun x : Checked ClearState => x >>= fun s => pure s.seen) eq
    · intro i hi
      rw [inv.cleared i hi, none, Nat.sub_zero]

/-- `clear_range` returns with the `shift` slots after `highest` cleared and every other as it was. -/
theorem clearRange_exact (seen : Ring) (highest : UInt64) (shift : Nat)
    (below : highest.toNat < 2 ^ 64 - 1) (most : shift ≤ 2047) :
    ∃ seen', clearRangeChecked seen highest shift = .ok seen' ∧
      (∀ k, 1 ≤ k → k ≤ shift → slot seen' ((highest.toNat + k) % replayWindow) = false) ∧
      ∀ i < replayWindow, (∀ k, 1 ≤ k → k ≤ shift → (highest.toNat + k) % replayWindow ≠ i) →
        slot seen' i = slot seen i := by
  have room : highest.toNat + 1 < 2 ^ 64 := by omega
  obtain ⟨seen', returned, spec⟩ := clearRange_spec seen room (Nat.lt_succ_of_le most)
  refine ⟨seen', returned, ?_, ?_⟩
  · intro k one le
    rw [← Bool.not_eq_true]
    intro set
    obtain ⟨_, kept⟩ := (spec _ (Nat.mod_lt _ (by decide))).1 set
    apply kept (k - 1) (by omega)
    rw [show highest.toNat + 1 + (k - 1) = highest.toNat + k by omega]
  · intro i inside other
    rw [Bool.eq_iff_iff, spec i inside]
    refine and_iff_left ?_
    intro j lt
    have later := other (j + 1) (by omega) (by omega)
    rwa [show highest.toNat + (j + 1) = highest.toNat + 1 + j by omega] at later

/-- A run from the middle of a word over the end of a full ring. -/
theorem clearRange_over_the_end :
    ∃ seen', clearRangeChecked (Vector.replicate replayWords (BitVec.allOnes 64)) 2000 100 =
        .ok seen' ∧
      (∀ k, 1 ≤ k → k ≤ 100 → slot seen' ((2000 + k) % replayWindow) = false) ∧
      ∀ i < replayWindow, (∀ k, 1 ≤ k → k ≤ 100 → (2000 + k) % replayWindow ≠ i) →
        slot seen' i = slot (Vector.replicate replayWords (BitVec.allOnes 64)) i :=
  clearRange_exact (Vector.replicate replayWords (BitVec.allOnes 64)) 2000 100 (by decide)
    (by decide)

/-- The places up to a larger number are cleared, then its bit is set. -/
lemma advance_spec (w : ReplayWindow) {highest : UInt64} (some' : w.highest = some highest)
    (above : highest < sequence) : ∃ seen', checkAndRecordChecked w sequence =
        .ok (.ok (), { highest := some sequence, seen := seen' }) ∧
      ∀ i < replayWindow, slot seen' i = true ↔ (slot w.seen i = true ∧
          ∀ n, highest.toNat < n → n ≤ sequence.toNat → n % replayWindow ≠ i) ∨
        i = sequence.toNat % replayWindow := by
  have above' : highest.toNat < sequence.toNat := UInt64.lt_iff_toNat_lt.1 above
  have bound : sequence.toNat < 2 ^ 64 := sequence.toNat_lt
  simp only [checkAndRecordChecked, some', if_pos above, sub_of_le (Nat.le_of_lt above'), bind_ok]
  obtain ⟨cleared, eq, spec⟩ : ∃ cleared,
      makeRoomChecked w.seen highest (sequence.toNat - highest.toNat) = .ok cleared ∧
      ∀ i < replayWindow, slot cleared i = true ↔ slot w.seen i = true ∧
        ∀ n, highest.toNat < n → n ≤ sequence.toNat → n % replayWindow ≠ i := by
    by_cases far : replayWindow ≤ sequence.toNat - highest.toNat
    · refine ⟨default.seen, if_pos far, ?_⟩
      intro i hi
      have far : 2048 ≤ sequence.toNat - highest.toNat := far
      have hi : i < 2048 := hi
      rw [slot_default]
      refine iff_of_false Bool.false_ne_true ?_
      intro h
      -- some number of the jump lies at every place
      refine h.2 (highest.toNat + 1 + (i + 2048 - (highest.toNat + 1) % 2048) % 2048)
        (by omega) (by omega) ?_
      show _ % 2048 = i
      omega
    · obtain ⟨cleared, eq, spec⟩ := clearRange_spec w.seen
        (show highest.toNat + 1 < 2 ^ 64 by omega) (Nat.lt_of_not_le far)
      refine ⟨cleared, (if_neg far).trans eq, ?_⟩
      intro i hi
      rw [spec i hi]
      refine and_congr_right fun _ => ⟨?_, ?_⟩
      · intro h n gt le
        have := h (n - highest.toNat - 1) (by omega)
        rwa [show highest.toNat + 1 + (n - highest.toNat - 1) = n by omega] at this
      · intro h j lt
        exact h _ (by omega) (by omega)
  obtain ⟨seen', setEq, setSpec⟩ := setBit_spec cleared sequence
  refine ⟨seen', ?_, ?_⟩
  · rw [eq, bind_ok, setEq, bind_ok, pure_eq]
  · intro i hi
    rw [setSpec i hi, Bool.or_eq_true, spec i hi, decide_eq_true_iff]

lemma checkAndRecord_returns (w : ReplayWindow) (sequence : UInt64) :
    Returns (checkAndRecordChecked w sequence) := by
  cases high : w.highest with
  | none =>
    obtain ⟨seen', eq, _⟩ := setBit_spec w.seen sequence
    simp only [checkAndRecordChecked, high, eq, bind_ok, pure_eq]
    exact returns_ok _
  | some highest =>
    by_cases above : highest < sequence
    · obtain ⟨seen', eq, _⟩ := advance_spec w high above
      exact ⟨_, eq⟩
    · have le : sequence.toNat ≤ highest.toNat :=
        UInt64.le_iff_toNat_le.1 (UInt64.not_lt.1 above)
      obtain ⟨seen', eq, _⟩ := setBit_spec w.seen sequence
      simp only [checkAndRecordChecked, high, if_neg above, sub_of_le le, bind_ok, testBit_spec, eq,
        pure_eq]
      refine returns_ite (fun _ => returns_ok _) (fun _ => ?_)
      exact returns_ite (fun _ => returns_ok _) (fun _ => returns_ok _)

def checkAndRecord (w : ReplayWindow) (sequence : UInt64) :
    Except ReplayError Unit × ReplayWindow :=
  (checkAndRecordChecked w sequence).get (checkAndRecord_returns w sequence)

lemma checkAndRecord_of {w : ReplayWindow} {out : Except ReplayError Unit × ReplayWindow}
    (eq : checkAndRecordChecked w sequence = .ok out) : checkAndRecord w sequence = out :=
  get_eq_of _ eq

lemma checkAndRecord_error {w : ReplayWindow} {e : ReplayError}
    (refused : (checkAndRecord w sequence).1 = .error e) : (checkAndRecord w sequence).2 = w := by
  cases high : w.highest with
  | none =>
    obtain ⟨seen', eq, _⟩ := setBit_spec w.seen sequence
    have out : checkAndRecordChecked w sequence = .ok (.ok (), ⟨some sequence, seen'⟩) := by
      simp only [checkAndRecordChecked, high, eq, bind_ok, pure_eq]
    rw [checkAndRecord_of out] at refused
    cases refused
  | some highest =>
    by_cases above : highest < sequence
    · obtain ⟨seen', eq, _⟩ := advance_spec w high above
      rw [checkAndRecord_of eq] at refused
      cases refused
    · have le : sequence.toNat ≤ highest.toNat :=
        UInt64.le_iff_toNat_le.1 (UInt64.not_lt.1 above)
      obtain ⟨seen', eq, _⟩ := setBit_spec w.seen sequence
      have out : checkAndRecordChecked w sequence = .ok (checkAndRecord w sequence) :=
        get_eq (checkAndRecord_returns w sequence)
      generalize checkAndRecord w sequence = result at out refused
      simp only [checkAndRecordChecked, high, if_neg above, sub_of_le le, bind_ok, testBit_spec, eq,
        pure_eq] at out
      split at out
      · cases out
        rfl
      · split at out
        · cases out
          rfl
        · cases out
          cases refused

end ReplayWindow

/-- The reference window: the numbers `A` accepted, and `h = max A`. -/
def Reference.check (A : Finset Nat) (n : Nat) : Except ReplayError Unit :=
  let h := A.sup id
  if A = ∅ ∨ h < n then .ok ()
  else if replayWindow ≤ h - n then .error .tooOld
  else if n ∈ A then .error .duplicate
  else .ok ()

def Reference.record (A : Finset Nat) (n : Nat) : Finset Nat :=
  match Reference.check A n with
  | .ok () => insert n A
  | .error _ => A

lemma Reference.not_mem_of_ok {A : Finset Nat} {n : Nat} (ok : Reference.check A n = .ok ()) :
    n ∉ A := by
  intro mem
  have le : n ≤ A.sup id := Finset.le_sup (f := id) mem
  have new : ¬ (A = ∅ ∨ A.sup id < n) := by
    intro h
    cases h with
    | inl empty => simp [empty] at mem
    | inr above => omega
  rw [Reference.check, if_neg new, if_pos mem] at ok
  split at ok
  · cases ok
  · cases ok

/-- No new number within a window of the highest is refused. -/
lemma Reference.ok_of_not_mem {A : Finset Nat} {n : Nat} (new : n ∉ A)
    (near : ∀ m ∈ A, m < n + replayWindow) : Reference.check A n = .ok () := by
  by_cases empty : A = ∅
  · exact if_pos (.inl empty)
  · have high : A.sup id < n + replayWindow :=
      (Finset.sup_lt_iff (Nat.lt_of_lt_of_le (by decide) (Nat.le_add_left _ n))).2 near
    have young : ¬ replayWindow ≤ A.sup id - n := by
      have : 0 < replayWindow := by decide
      omega
    rw [Reference.check, if_neg young, if_neg new, ite_self]

/-- `highest` is `max A`; the bits are those within a window below it. -/
structure Represents (w : ReplayWindow) (A : Finset Nat) : Prop where
  highest : w.highest.map UInt64.toNat = if A = ∅ then none else some (A.sup id)
  slots : ∀ i < replayWindow, ReplayWindow.slot w.seen i = true ↔
    ∃ n ∈ A, A.sup id < n + replayWindow ∧ n % replayWindow = i

namespace Represents
open ReplayWindow
variable {w : ReplayWindow} {A : Finset Nat}

lemma init : Represents ReplayWindow.default ∅ := by
  refine ⟨by simp [ReplayWindow.default], ?_⟩
  intro i _
  simp

lemma le_sup {n : Nat} (mem : n ∈ A) : n ≤ A.sup id :=
  Finset.le_sup (f := id) mem

/-- Two different numbers less than a window apart have different places. -/
lemma place_inj {m n : Nat} (lt : m < n) (near : n < m + replayWindow) :
    m % replayWindow ≠ n % replayWindow := by
  have near : n < m + 2048 := near
  show m % 2048 ≠ n % 2048
  omega

lemma first (rep : Represents w ∅) (n : UInt64) :
    ∃ w', checkAndRecordChecked w n = .ok (.ok (), w') ∧ Represents w' {n.toNat} := by
  have none : w.highest = none := by simpa using rep.highest
  obtain ⟨seen', eq, spec⟩ := setBit_spec w.seen n
  refine ⟨{ highest := some n, seen := seen' }, ?_, ?_, ?_⟩
  · simp only [checkAndRecordChecked, none, eq, bind_ok, pure_eq]
  · simp
  · intro i hi
    have clear : slot w.seen i = false := by
      have := rep.slots i hi
      simpa using this
    simp only [spec i hi, clear, Bool.false_or, decide_eq_true_eq, Finset.mem_singleton,
      Finset.sup_singleton, id, exists_eq_left]
    refine ⟨fun h => ⟨Nat.lt_add_of_pos_right (by decide), h.symm⟩, fun h => h.2.symm⟩

lemma above (rep : Represents w A) {n : UInt64} (some' : A ≠ ∅) (gt : A.sup id < n.toNat) :
    ∃ w', checkAndRecordChecked w n = .ok (.ok (), w') ∧ Represents w' (insert n.toNat A) := by
  have high := rep.highest
  rw [if_neg some', Option.map_eq_some_iff] at high
  obtain ⟨highest, hw, hh⟩ := high
  obtain ⟨seen', eq, spec⟩ := advance_spec w hw (UInt64.lt_iff_toNat_lt.2 (hh ▸ gt))
  have sup : (insert n.toNat A).sup id = n.toNat := by
    rw [Finset.sup_insert]
    exact sup_eq_left.2 (Nat.le_of_lt gt)
  refine ⟨_, eq, ?_, ?_⟩
  · rw [if_neg (Finset.insert_ne_empty _ _), sup]
    rfl
  · intro i hi
    rw [spec i hi, hh, sup]
    refine ⟨?_, ?_⟩
    · intro h
      cases h with
      | inl old =>
        obtain ⟨m, mem, near, place⟩ := (rep.slots i hi).1 old.1
        refine ⟨m, Finset.mem_insert_of_mem mem, ?_, place⟩
        -- otherwise the place of `m` was cleared, at the number `m + 2048`
        by_contra far
        refine old.2 (m + replayWindow) near (Nat.le_of_not_lt far) ?_
        rw [Nat.add_mod_right, place]
      | inr new =>
        exact ⟨n.toNat, Finset.mem_insert_self _ _, Nat.lt_add_of_pos_right (by decide), new.symm⟩
    · intro h
      obtain ⟨m, mem, near, place⟩ := h
      obtain rfl | mem := Finset.mem_insert.1 mem
      · exact .inr place.symm
      · refine .inl ⟨(rep.slots i hi).2 ⟨m, mem, Nat.lt_trans gt near, place⟩, ?_⟩
        intro k gtk lek eqi
        have ltk : m < k := Nat.lt_of_le_of_lt (le_sup mem) gtk
        exact place_inj ltk (Nat.lt_of_le_of_lt lek near) (place.trans eqi.symm)

lemma inside (rep : Represents w A) {n : UInt64} (le : n.toNat ≤ A.sup id)
    (near : A.sup id < n.toNat + replayWindow) {seen' : Ring} (spec : ∀ i < replayWindow,
      slot seen' i = (slot w.seen i || decide (i = n.toNat % replayWindow)))
    (some' : A ≠ ∅) : Represents { w with seen := seen' } (insert n.toNat A) := by
  have sup : (insert n.toNat A).sup id = A.sup id := by
    rw [Finset.sup_insert]
    exact sup_eq_right.2 le
  refine ⟨?_, ?_⟩
  · rw [if_neg (Finset.insert_ne_empty _ _), sup, rep.highest, if_neg some']
  · intro i hi
    rw [spec i hi, Bool.or_eq_true, rep.slots i hi, decide_eq_true_iff, sup]
    simp only [Finset.mem_insert, or_and_right, exists_or, exists_eq_left]
    rw [or_comm]
    refine or_congr ⟨fun h => ⟨near, h.symm⟩, fun h => h.2.symm⟩ Iff.rfl

/-- The bit of a number inside the window tells whether it was accepted. -/
lemma slot_iff (rep : Represents w A) {n : Nat} (le : n ≤ A.sup id)
    (near : A.sup id < n + replayWindow) : slot w.seen (n % replayWindow) = true ↔ n ∈ A := by
  rw [rep.slots _ (Nat.mod_lt _ (by decide))]
  refine ⟨?_, fun mem => ⟨n, mem, near, rfl⟩⟩
  intro h
  obtain ⟨m, mem, near', place⟩ := h
  obtain lt | rfl | gt := Nat.lt_trichotomy m n
  · exact absurd place (place_inj lt (Nat.lt_of_le_of_lt le near'))
  · exact mem
  · exact absurd place.symm (place_inj gt (Nat.lt_of_le_of_lt (le_sup mem) near))

/-- One call of `check_and_record` does what the reference window does. -/
lemma simulates (rep : Represents w A) (n : UInt64) :
    ∃ w', checkAndRecordChecked w n = .ok (Reference.check A n.toNat, w') ∧
      Represents w' (Reference.record A n.toNat) := by
  by_cases new : A = ∅ ∨ A.sup id < n.toNat
  · have accept : Reference.check A n.toNat = .ok () := if_pos new
    have record : Reference.record A n.toNat = insert n.toNat A := by
      rw [Reference.record, accept]
    rw [accept, record]
    by_cases empty : A = ∅
    · subst empty
      obtain ⟨w', eq, rep'⟩ := rep.first n
      exact ⟨w', eq, rep'⟩
    · obtain ⟨w', eq, rep'⟩ := rep.above empty (new.resolve_left empty)
      exact ⟨w', eq, rep'⟩
  · obtain ⟨some', ge⟩ := not_or.1 new
    have high := rep.highest
    rw [if_neg some', Option.map_eq_some_iff] at high
    obtain ⟨highest, hw, hh⟩ := high
    have le : n.toNat ≤ highest.toNat := hh ▸ Nat.le_of_not_lt ge
    have notAbove : ¬ highest < n := UInt64.not_lt.2 (UInt64.le_iff_toNat_le.2 le)
    obtain ⟨seen', setEq, spec⟩ := setBit_spec w.seen n
    simp only [checkAndRecordChecked, hw, if_neg notAbove, hh, sub_of_le (Nat.le_of_not_lt ge),
      bind_ok, testBit_spec, setEq, pure_eq, Reference.record, Reference.check, if_neg new]
    by_cases old : replayWindow ≤ A.sup id - n.toNat
    · simp only [if_pos old]
      exact ⟨w, rfl, rep⟩
    · have near : A.sup id < n.toNat + replayWindow := by omega
      have bit := rep.slot_iff (Nat.le_of_not_lt ge) near
      by_cases mem : n.toNat ∈ A
      · simp only [if_neg old, if_pos mem, if_pos (bit.2 mem)]
        exact ⟨w, rfl, rep⟩
      · simp only [if_neg old, if_neg mem, if_neg (mt bit.1 mem)]
        exact ⟨_, by rw [← hw], rep.inside (Nat.le_of_not_lt ge) near spec some'⟩

end Represents

namespace ReplayWindow

def afterAll (w : ReplayWindow) (sequences : List UInt64) : ReplayWindow :=
  run (fun w n => (checkAndRecord w n).2) w sequences

def acceptedBy (w : ReplayWindow) (sequences : List UInt64) : List UInt64 :=
  match sequences with
  | [] => []
  | n :: rest =>
    match checkAndRecord w n with
    | (.ok (), w') => n :: acceptedBy w' rest
    | (.error _, w') => acceptedBy w' rest

def acceptedSet (sequences : List UInt64) : Finset Nat :=
  ((acceptedBy default sequences).map UInt64.toNat).toFinset

variable {A : Finset Nat}

variable {w : ReplayWindow}

lemma checkAndRecord_fst (rep : Represents w A) (n : UInt64) :
    (checkAndRecord w n).1 = Reference.check A n.toNat := by
  obtain ⟨w', eq, _⟩ := rep.simulates n
  rw [checkAndRecord_of eq]

lemma represents_checkAndRecord (rep : Represents w A) (n : UInt64) :
    Represents (checkAndRecord w n).2 (Reference.record A n.toNat) := by
  obtain ⟨w', eq, rep'⟩ := rep.simulates n
  rw [checkAndRecord_of eq]
  exact rep'

lemma represents_accept {w' : ReplayWindow} (rep : Represents w A) {n : UInt64}
    (accepted : checkAndRecord w n = (.ok (), w')) :
    n.toNat ∉ A ∧ Represents w' (insert n.toNat A) := by
  have result := checkAndRecord_fst rep n
  have after := represents_checkAndRecord rep n
  rw [accepted] at result after
  have grown : Reference.record A n.toNat = insert n.toNat A := by
    rw [Reference.record, ← result]
  rw [grown] at after
  exact ⟨Reference.not_mem_of_ok result.symm, after⟩

/-- The window stands for all numbers accepted, each of them new. -/
lemma represents_afterAll (rep : Represents w A) (sequences : List UInt64) :
    Represents (afterAll w sequences) (A ∪ ((acceptedBy w sequences).map UInt64.toNat).toFinset) ∧
      (acceptedBy w sequences).Nodup ∧ ∀ n ∈ acceptedBy w sequences, n.toNat ∉ A := by
  induction sequences generalizing w A with
  | nil =>
    refine ⟨?_, List.nodup_nil, fun n mem => by cases mem⟩
    simpa [acceptedBy, afterAll] using rep
  | cons n rest ih =>
    have result := checkAndRecord_fst rep n
    have after := represents_checkAndRecord rep n
    have step : afterAll w (n :: rest) = afterAll (checkAndRecord w n).2 rest := rfl
    rw [step, acceptedBy]
    obtain ⟨out, w', eq⟩ : ∃ out w', checkAndRecord w n = (out, w') := ⟨_, _, rfl⟩
    rw [eq] at result after ⊢
    cases out with
    | error e =>
      have same : Reference.record A n.toNat = A := by
        rw [Reference.record, ← result]
      rw [same] at after
      exact ih after
    | ok u =>
      obtain ⟨new, after⟩ := represents_accept rep eq
      obtain ⟨rep', nodup, fresh⟩ := ih after
      refine ⟨?_, ?_, ?_⟩
      · have sets : A ∪ ((n :: acceptedBy w' rest).map UInt64.toNat).toFinset =
            insert n.toNat A ∪ ((acceptedBy w' rest).map UInt64.toNat).toFinset := by
          simp
        rw [sets]
        exact rep'
      · refine List.nodup_cons.2 ⟨?_, nodup⟩
        intro mem
        exact fresh n mem (Finset.mem_insert_self _ _)
      · intro m mem
        cases mem with
        | head => exact new
        | tail _ mem => exact fun old => fresh m mem (Finset.mem_insert_of_mem old)

/-- After any calls the next one returns what the reference window returns; no number was accepted
twice, an unseen one inside the window is not refused, and a refused call changes nothing. -/
theorem checkAndRecord_refines (sequences : List UInt64) (n : UInt64) :
    checkAndRecordChecked (afterAll default sequences) n =
        .ok (checkAndRecord (afterAll default sequences) n) ∧
      (checkAndRecord (afterAll default sequences) n).1 =
        Reference.check (acceptedSet sequences) n.toNat ∧
      (acceptedBy default sequences).Nodup ∧
      (n.toNat ∉ acceptedSet sequences → (∀ m ∈ acceptedSet sequences, m < n.toNat + replayWindow) →
        (checkAndRecord (afterAll default sequences) n).1 = .ok ()) ∧
      (∀ e, (checkAndRecord (afterAll default sequences) n).1 = .error e →
        (checkAndRecord (afterAll default sequences) n).2 = afterAll default sequences) := by
  obtain ⟨rep, nodup, _⟩ := represents_afterAll Represents.init sequences
  have rep : Represents (afterAll default sequences) (acceptedSet sequences) := by
    simpa [acceptedSet] using rep
  have result := checkAndRecord_fst rep n
  refine ⟨get_eq (checkAndRecord_returns _ n), result, nodup, ?_, ?_⟩
  · intro new near
    rw [result]
    exact Reference.ok_of_not_mem new near
  · exact fun e refused => checkAndRecord_error refused

example : acceptedBy default [5, 5, 3000, 5, 2999, 18446744073709551615, 2999] =
    [5, 3000, 2999, 18446744073709551615] := by decide +kernel

end ReplayWindow
end Rvpn.Protocol
