import Intake.Proofs.Snowflake.Issued
import Mathlib.Data.Nat.Bitwise

/-!
# Stamps and ids in words

A generator that is shared keeps its stamp in one signed word, so that it can be compared and exchanged at once, and
takes milliseconds and sequence out of it by shifts and masks. While the milliseconds stay below `2 ^ 41` the word is
never negative and the fields of an id do not overlap, and the words are the numbers that `Stamp.next` and `Stamp.toId`
compute (`toInt_nextWord`, `idWord_eq_toId`).
-/

namespace Intake.Snowflake

/-! ### Shifts and masks as arithmetic -/

theorem toInt_eq_toNat {x : Int64} (h : 0 ≤ x.toInt) : x.toInt = x.toBitVec.toNat := by
  have hx := BitVec.toInt_eq_toNat_cond x.toBitVec
  rw [Int64.toInt_toBitVec] at hx
  have hlt := x.toBitVec.isLt
  split at hx <;> omega

theorem toInt_shiftRight (x : Int64) : (x >>> 12).toInt = x.toInt / 4096 := by
  rw [← Int64.toInt_toBitVec, Int64.toBitVec_shiftRight]
  show (x.toBitVec.sshiftRight 12).toInt = x.toInt / 4096
  rw [BitVec.toInt_sshiftRight, Int64.toInt_toBitVec, Int.shiftRight_eq_div_pow]
  rfl

theorem toInt_shiftLeft {x : Int64} (h : 0 ≤ x.toInt) (hlt : x.toInt < 2 ^ 41) : (x <<< 12).toInt = x.toInt * 4096 := by
  rw [← Int64.toInt_toBitVec, Int64.toBitVec_shiftLeft]
  show (x.toBitVec <<< 12).toInt = x.toInt * 4096
  rw [BitVec.toInt_shiftLeft, Nat.shiftLeft_eq, toInt_eq_toNat h]
  rw [toInt_eq_toNat h] at hlt
  rw [Int.bmod_eq_of_le] <;> omega

theorem toInt_and_mask {x : Int64} : (x &&& 4095).toInt = x.toInt % 4096 := by
  have hmask : (4095 : Int64).toBitVec.toNat = 2 ^ 12 - 1 := by decide
  have hmod : ((x.toBitVec.toNat % 2 ^ 12 : Nat) : Int).bmod (2 ^ 64) = (x.toBitVec.toNat % 2 ^ 12 : Nat) := by
    rw [Int.bmod_eq_of_le] <;> omega
  rw [← Int64.toInt_toBitVec, Int64.toBitVec_and, BitVec.toInt_and, hmask, Nat.and_two_pow_sub_one_eq_mod, hmod,
    ← Int64.toInt_toBitVec, BitVec.toInt_eq_toNat_cond]
  split <;> omega

theorem toInt_mask : (4095 : Int64).toInt = 4095 := by decide

theorem toInt_succ {x : Int64} (h : 0 ≤ x.toInt) (hlt : x.toInt < 2 ^ 62) : (x + 1).toInt = x.toInt + 1 := by
  have hone : (1 : Int64).toInt = 1 := by decide
  rw [Int64.toInt_add, hone, Int.bmod_eq_of_le] <;> omega

theorem or_fields {millis worker sequence : Nat} (hw : worker < 1024) (hs : sequence < 4096) :
    millis <<< 22 ||| worker <<< 12 ||| sequence = millis * 4194304 + worker * 4096 + sequence := by
  have hupper : millis <<< 22 ||| worker <<< 12 = (millis * 1024 + worker) <<< 12 := by
    rw [← Nat.shiftLeft_add_eq_or_of_lt, Nat.shiftLeft_eq, Nat.shiftLeft_eq, Nat.shiftLeft_eq]
    · omega
    · rw [Nat.shiftLeft_eq]
      omega
  rw [hupper, ← Nat.shiftLeft_add_eq_or_of_lt (i := 12) hs, Nat.shiftLeft_eq]
  omega

/-! ### The words of a generator -/

/-- The milliseconds of the stamp that follows `previous` at `now`. -/
def nextMillis (previous now : Int64) : Int64 :=
  if previous >>> 12 < now then now
  else if previous &&& 4095 < 4095 then previous >>> 12
  else previous >>> 12 + 1

/-- The word that replaces `previous` at `now`, in milliseconds since `epoch`. -/
def nextWord (previous now : Int64) : Int64 :=
  if previous >>> 12 < now then now <<< 12
  else if previous &&& 4095 < 4095 then previous + 1
  else (previous >>> 12 + 1) <<< 12

/-- The id of a stamp. -/
def idWord (stamp : Int64) (worker : Nat) : Snowflake :=
  ⟨(stamp >>> 12) <<< 22 ||| Int64.ofNat worker <<< 12 ||| stamp &&& 4095⟩

section

variable {previous now stamp : Int64} {worker : Nat}

/-- A stamp is the first of its millisecond, or the next one; in either case it is that of its millisecond. -/
theorem toInt_nextMillis (h : 0 ≤ previous.toInt) (hp : previous.toInt < 2 ^ 53) :
    (nextMillis previous now).toInt =
      if previous.toInt / 4096 < now.toInt then now.toInt
      else if previous.toInt % 4096 < 4095 then previous.toInt / 4096
      else previous.toInt / 4096 + 1 := by
  rw [nextMillis]
  simp only [Int64.lt_iff_toInt_lt, toInt_shiftRight, toInt_and_mask, toInt_mask]
  split
  · rfl
  · split
    · exact toInt_shiftRight previous
    · have hmillis := toInt_shiftRight previous
      rw [toInt_succ, hmillis] <;> omega

theorem toInt_nextWord (h : 0 ≤ previous.toInt) (hp : previous.toInt < 2 ^ 53)
    (hnext : (nextMillis previous now).toInt < 2 ^ 41) :
    (nextWord previous now).toInt = Stamp.next previous.toInt now.toInt := by
  rw [nextMillis] at hnext
  rw [nextWord, Stamp.next_eq]
  simp only [Int64.lt_iff_toInt_lt, toInt_shiftRight, toInt_and_mask, toInt_mask] at hnext ⊢
  split
  · next hlater =>
    rw [if_pos hlater] at hnext
    exact toInt_shiftLeft (by omega) hnext
  · next hlater =>
    rw [if_neg hlater] at hnext
    split
    · rw [toInt_succ] <;> omega
    · next hfull =>
      have hmillis := toInt_shiftRight previous
      have hsum : (previous >>> 12 + 1).toInt = previous.toInt / 4096 + 1 := by
        rw [toInt_succ, hmillis] <;> omega
      rw [if_neg hfull] at hnext
      rw [toInt_shiftLeft (by omega) hnext, hsum]
      omega

theorem toInt_idWord (h : 0 ≤ stamp.toInt) (hs : stamp.toInt < 2 ^ 53) (hw : worker < 1024) :
    (idWord stamp worker).toInt = stamp.toInt / 4096 * 4194304 + worker * 4096 + stamp.toInt % 4096 := by
  obtain ⟨n, hn⟩ := Int.eq_ofNat_of_zero_le h
  rw [hn] at hs ⊢
  have hmillis : (stamp >>> 12).toBitVec.toNat = n / 4096 := by
    have hshift := toInt_shiftRight stamp
    rw [toInt_eq_toNat (by omega), hn] at hshift
    omega
  have hsequence : (stamp &&& 4095).toBitVec.toNat = n % 4096 := by
    have hmod := toInt_and_mask (x := stamp)
    rw [toInt_eq_toNat (by omega), hn] at hmod
    omega
  have hworker : (Int64.ofNat worker).toBitVec.toNat = worker := by
    rw [Int64.toBitVec_ofNat', BitVec.toNat_ofNat]
    omega
  have hword : (idWord stamp worker).word.toBitVec.toNat = n / 4096 * 4194304 + worker * 4096 + n % 4096 := by
    rw [idWord, Int64.toBitVec_or, Int64.toBitVec_or, BitVec.toNat_or, BitVec.toNat_or, hsequence,
      Int64.toBitVec_shiftLeft, Int64.toBitVec_shiftLeft]
    show ((stamp >>> 12).toBitVec <<< 22).toNat ||| ((Int64.ofNat worker).toBitVec <<< 12).toNat ||| n % 4096 = _
    rw [BitVec.toNat_shiftLeft, BitVec.toNat_shiftLeft, hmillis, hworker, Nat.mod_eq_of_lt, Nat.mod_eq_of_lt,
      or_fields hw (Nat.mod_lt n (by decide))]
    · rw [Nat.shiftLeft_eq]
      omega
    · rw [Nat.shiftLeft_eq]
      omega
  rw [toInt, ← Int64.toInt_toBitVec, BitVec.toInt_eq_toNat_of_lt] <;> rw [hword] <;> omega

theorem idWord_eq_toId (h : 0 ≤ stamp.toInt) (hs : stamp.toInt < 2 ^ 53) (hw : worker < 1024) :
    idWord stamp worker = Stamp.toId stamp.toInt worker := by
  have hid := toInt_idWord h hs hw
  rw [toInt] at hid
  rw [Stamp.toId, Snowflake.ofInt, Stamp.millis_eq, Stamp.sequence, ← hid, Int64.ofInt_toInt]

end

end Intake.Snowflake
