import AccessGate.Bytes.Words
import Mathlib

/-!
# Numbers as bytes

Reading a number from bytes and writing it in as many bytes undo each other.
-/

namespace AccessGate.Bytes

/-! ## Lengths -/

theorem length_littleEndian (width value : Nat) : (littleEndian width value).length = width := by
  induction width generalizing value with
  | zero => rfl
  | succ width induction => rw [littleEndian, List.length_cons, induction]

@[simp] theorem length_bigEndian (width value : Nat) : (bigEndian width value).length = width := by
  rw [bigEndian, List.length_reverse, length_littleEndian]

/-! ## Reading -/

theorem toNat_append (bytes : Bytes) (byte : UInt8) :
    toNat (bytes ++ [byte]) = toNat bytes * 256 + byte.toNat := by
  simp [toNat]

theorem toNat_cons_zero (bytes : Bytes) : toNat (0 :: bytes) = toNat bytes := by
  simp [toNat]

theorem toNat_lt (bytes : Bytes) : toNat bytes < 256 ^ bytes.length := by
  induction bytes using List.reverseRecOn with
  | nil => decide
  | append_singleton bytes byte induction =>
      have small := byte.toNat_lt
      rw [toNat_append, List.length_append, List.length_singleton, Nat.pow_succ]
      omega

theorem toNat_cons (byte : UInt8) (bytes : Bytes) :
    toNat (byte :: bytes) = byte.toNat * 256 ^ bytes.length + toNat bytes := by
  induction bytes using List.reverseRecOn with
  | nil => simp [toNat]
  | append_singleton bytes last induction =>
      rw [← List.cons_append, toNat_append, toNat_append, induction, List.length_append,
        List.length_singleton, Nat.pow_succ, Nat.add_mul, Nat.mul_assoc, Nat.add_assoc]

/-! ## Writing -/

theorem bigEndian_succ (width value : Nat) :
    bigEndian (width + 1) value = bigEndian width (value / 256) ++ [UInt8.ofNat value] := by
  rw [bigEndian, littleEndian, List.reverse_cons]
  rfl

theorem toNat_bigEndian {width value : Nat} (short : value < 256 ^ width) :
    toNat (bigEndian width value) = value := by
  induction width generalizing value with
  | zero =>
      have zero : value = 0 := by simpa using short
      rw [zero]
      rfl
  | succ width induction =>
      rw [Nat.pow_succ] at short
      rw [bigEndian_succ, toNat_append, induction (by omega)]
      simp
      omega

theorem bigEndian_toNat (bytes : Bytes) : bigEndian bytes.length (toNat bytes) = bytes := by
  induction bytes using List.reverseRecOn with
  | nil => rfl
  | append_singleton bytes byte induction =>
      have small := byte.toNat_lt
      have front : (toNat bytes * 256 + byte.toNat) / 256 = toNat bytes := by omega
      have last : UInt8.ofNat (toNat bytes * 256 + byte.toNat) = byte := by
        apply UInt8.toNat_inj.mp
        simp
      rw [List.length_append, List.length_singleton, bigEndian_succ, toNat_append, front, last,
        induction]

/-! ## Widths -/

theorem pow_256 (places : Nat) : 256 ^ places = 2 ^ (8 * places) := by
  rw [Nat.pow_mul]

theorem lt_pow_width (value : Nat) : value < 256 ^ width value := by
  by_cases zero : value = 0
  · subst zero
    decide
  · rw [width, if_neg zero, pow_256]
    refine Nat.lt_of_lt_of_le Nat.lt_log2_self (Nat.pow_le_pow_right (by decide) ?_)
    omega

theorem pow_width_le {value : Nat} (positive : value ≠ 0) : 256 ^ (width value - 1) ≤ value := by
  rw [width, if_neg positive, Nat.add_sub_cancel, pow_256]
  refine Nat.le_trans (Nat.pow_le_pow_right (by decide) ?_) (Nat.log2_self_le positive)
  omega

theorem width_mono {smaller greater : Nat} (le : smaller ≤ greater) :
    width smaller ≤ width greater := by
  by_cases zero : smaller = 0
  · subst zero
    have one : width 0 = 1 := rfl
    rw [one, width]
    split <;> omega
  · have lower := Nat.lt_of_le_of_lt (Nat.le_trans (pow_width_le zero) le) (lt_pow_width greater)
    have fewer := (Nat.pow_lt_pow_iff_right (by decide)).mp lower
    omega

@[simp] theorem length_ofNat (value : Nat) : (ofNat value).length = width value :=
  length_bigEndian _ _

theorem toNat_ofNat (value : Nat) : toNat (ofNat value) = value :=
  toNat_bigEndian (lt_pow_width value)

theorem head?_ofNat {value : Nat} (positive : value ≠ 0) : (ofNat value).head? ≠ some 0 := by
  intro zero
  obtain ⟨tail, written⟩ := List.head?_eq_some_iff.mp zero
  have length := length_ofNat value
  have small := toNat_lt tail
  have enough := pow_width_le positive
  rw [written, List.length_cons] at length
  rw [← length, Nat.add_sub_cancel] at enough
  rw [← toNat_cons_zero, ← written, toNat_ofNat] at small
  omega

end AccessGate.Bytes
