import Mathlib.Data.Nat.Bitwise

/-! The flag word of `SetupConnection`: `u32::reverse_bits` and the single-bit helpers, read
through the bits of the reversed word. -/

namespace StratumWire

/-- The low `w` bits of `n` in reverse order. -/
def revBits : Nat → Nat → Nat
  | 0, _ => 0
  | w + 1, n => 2 ^ w * (n % 2) + revBits w (n / 2)

def reverseBits (x : UInt32) : UInt32 := UInt32.ofNat (revBits 32 x.toNat)

def hasRequiresStdJob (flags : UInt32) : Bool :=
  let flags := reverseBits flags
  let flag := flags >>> 31
  flag != 0

def hasVersionRolling (flags : UInt32) : Bool :=
  let flags := reverseBits flags
  let flags := flags <<< 1
  let flag := flags >>> 31
  flag != 0

def hasWorkSelection (flags : UInt32) : Bool :=
  let flags := reverseBits flags
  let flags := flags <<< 2
  let flag := flags >>> 31
  flag != 0

theorem revBits_lt (w n : Nat) : revBits w n < 2 ^ w := by
  induction w generalizing n with
  | zero => simp [revBits]
  | succ w ih =>
    have low := ih (n / 2)
    have top : 2 ^ w * (n % 2) ≤ 2 ^ w * 1 := Nat.mul_le_mul_left _ (by omega)
    rw [revBits, Nat.pow_succ]
    omega

theorem testBit_revBits (w n i : Nat) :
    (revBits w n).testBit i = (decide (i < w) && n.testBit (w - 1 - i)) := by
  induction w generalizing n i with
  | zero => simp [revBits]
  | succ w ih =>
    rw [revBits, Nat.testBit_mul_pow_two_add _ (revBits_lt w _), ih]
    rcases Nat.lt_trichotomy i w with below | rfl | above
    · have index : w - i = w - 1 - i + 1 := by omega
      simp [below, Nat.lt_succ_of_lt below, index, Nat.testBit_div_two]
    · simp
    · have wide : 2 ≤ 2 ^ (i - w) := Nat.le_self_pow (by omega) 2
      simp [Nat.not_lt_of_gt above, show ¬ i < w + 1 by omega,
        Nat.testBit_eq_false_of_lt (lt_of_lt_of_le (Nat.mod_lt n (by decide)) wide)]

section Words

variable (x y : UInt32)

theorem toNat_reverseBits : (reverseBits x).toNat = revBits 32 x.toNat :=
  (BitVec.toNat_ofNat _ _).trans (Nat.mod_eq_of_lt (revBits_lt 32 _))

theorem testBit_reverseBits (i : Nat) :
    (reverseBits x).toNat.testBit i = (decide (i < 32) && x.toNat.testBit (31 - i)) := by
  rw [toNat_reverseBits, testBit_revBits]

theorem toNat_shiftRight (k : UInt32) : (x >>> k).toNat = x.toNat / 2 ^ (k.toNat % 32) := by
  show (x.toBitVec >>> (k % 32).toBitVec).toNat = _
  rw [BitVec.ushiftRight_eq', BitVec.toNat_ushiftRight, Nat.shiftRight_eq_div_pow]
  exact congrArg (x.toNat / 2 ^ ·) (UInt32.toNat_mod k 32)

theorem toNat_shiftLeft (k : UInt32) :
    (x <<< k).toNat = x.toNat * 2 ^ (k.toNat % 32) % 2 ^ 32 := by
  show (x.toBitVec <<< (k % 32).toBitVec).toNat = _
  rw [BitVec.shiftLeft_eq', BitVec.toNat_shiftLeft, Nat.shiftLeft_eq]
  exact congrArg (x.toNat * 2 ^ · % 2 ^ 32) (UInt32.toNat_mod k 32)

theorem bne_zero_eq : (x != 0) = decide (x.toNat ≠ 0) := by
  rw [Bool.eq_iff_iff, bne_iff_ne, decide_eq_true_iff]
  exact not_congr
    ⟨congrArg UInt32.toNat, fun h => UInt32.toNat.inj (h.trans UInt32.toNat_zero.symm)⟩

theorem gt_zero_eq : decide (x > 0) = decide (0 < x.toNat) := rfl

/-- Bit `j` of the reversed word is bit `31 - j` of the word. -/
theorem testBit_reverseBits_of_add (j k : Nat) (mirror : j + k = 31) :
    (reverseBits x).toNat.testBit j = x.toNat.testBit k := by
  rw [testBit_reverseBits, show 31 - j = k by omega]
  simp [show j < 32 by omega]

theorem shiftRight_31_bne_zero : ((y >>> 31) != 0) = y.toNat.testBit 31 := by
  have bound : y.toNat < 2 ^ 32 := y.toNat_lt_size
  rw [bne_zero_eq, toNat_shiftRight, Nat.testBit_to_div_mod,
    show (31 : UInt32).toNat % 32 = 31 from rfl, decide_eq_decide]
  omega

theorem shiftLeft_1_shiftRight_31_bne_zero : ((y <<< 1 >>> 31) != 0) = y.toNat.testBit 30 := by
  have bound : y.toNat < 2 ^ 32 := y.toNat_lt_size
  rw [bne_zero_eq, toNat_shiftRight, toNat_shiftLeft, Nat.testBit_to_div_mod,
    show (31 : UInt32).toNat % 32 = 31 from rfl, show (1 : UInt32).toNat % 32 = 1 from rfl,
    decide_eq_decide]
  omega

theorem shiftLeft_2_shiftRight_31_bne_zero : ((y <<< 2 >>> 31) != 0) = y.toNat.testBit 29 := by
  have bound : y.toNat < 2 ^ 32 := y.toNat_lt_size
  rw [bne_zero_eq, toNat_shiftRight, toNat_shiftLeft, Nat.testBit_to_div_mod,
    show (31 : UInt32).toNat % 32 = 31 from rfl, show (2 : UInt32).toNat % 32 = 2 from rfl,
    decide_eq_decide]
  omega

theorem shiftRight_30_gt_zero :
    decide (y >>> 30 > 0) = (y.toNat.testBit 31 || y.toNat.testBit 30) := by
  have bound : y.toNat < 2 ^ 32 := y.toNat_lt_size
  simp only [gt_zero_eq, toNat_shiftRight, Nat.testBit_to_div_mod, ← Bool.decide_or,
    show (30 : UInt32).toNat % 32 = 30 from rfl, decide_eq_decide]
  omega

theorem shiftRight_29_gt_zero :
    decide (y >>> 29 > 0) =
      (y.toNat.testBit 31 || y.toNat.testBit 30 || y.toNat.testBit 29) := by
  have bound : y.toNat < 2 ^ 32 := y.toNat_lt_size
  simp only [gt_zero_eq, toNat_shiftRight, Nat.testBit_to_div_mod, ← Bool.decide_or,
    show (29 : UInt32).toNat % 32 = 29 from rfl, decide_eq_decide]
  omega

theorem testBit_lor (i : Nat) :
    (x ||| y).toNat.testBit i = (x.toNat.testBit i || y.toNat.testBit i) :=
  Nat.testBit_lor _ _ _

end Words

theorem hasRequiresStdJob_eq (flags : UInt32) :
    hasRequiresStdJob flags = flags.toNat.testBit 0 := by
  rw [hasRequiresStdJob, shiftRight_31_bne_zero, testBit_reverseBits_of_add _ 31 0 rfl]

theorem hasVersionRolling_eq (flags : UInt32) :
    hasVersionRolling flags = flags.toNat.testBit 1 := by
  rw [hasVersionRolling, shiftLeft_1_shiftRight_31_bne_zero, testBit_reverseBits_of_add _ 30 1 rfl]

theorem hasWorkSelection_eq (flags : UInt32) : hasWorkSelection flags = flags.toNat.testBit 2 := by
  rw [hasWorkSelection, shiftLeft_2_shiftRight_31_bne_zero, testBit_reverseBits_of_add _ 29 2 rfl]

end StratumWire
