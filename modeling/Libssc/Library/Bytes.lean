import Mathlib.Data.Nat.Digits.Defs

/-!
# Numbers of fixed width, and slices

A number as a given number of bytes, the least significant first, and the part
of a list between two positions. A slice never fails: where the list ends early
it is shorter than it should be, possibly empty.
-/

namespace Libssc.Library

/-! ## Numbers of fixed width -/

/-- The lowest `w` bytes of a number, the least significant first. -/
def leBytes : ℕ → ℕ → List UInt8
  | 0, _ => []
  | w + 1, n => UInt8.ofNat n :: leBytes w (n / 256)

@[simp] theorem length_leBytes (w n : ℕ) : (leBytes w n).length = w := by
  induction w generalizing n with
  | zero => rfl
  | succ w ih => rw [leBytes, List.length_cons, ih]

/-- The number that bytes stand for, the least significant first. -/
def ofBytes (l : List UInt8) : ℕ := Nat.ofDigits 256 (l.map UInt8.toNat)

@[simp] theorem ofBytes_nil : ofBytes [] = 0 := rfl

theorem ofBytes_cons (b : UInt8) (l : List UInt8) :
    ofBytes (b :: l) = b.toNat + 256 * ofBytes l := by
  unfold ofBytes
  rw [List.map_cons, Nat.ofDigits_cons]

/-- A number has no more bytes than it was read from. -/
theorem ofBytes_lt (l : List UInt8) : ofBytes l < 256 ^ l.length := by
  unfold ofBytes
  have h := Nat.ofDigits_lt_base_pow_length (b := 256) (l := l.map UInt8.toNat)
    (by norm_num) (by simpa using fun b _ => UInt8.toNat_lt b)
  simpa using h

/-- A number that fits is read back. -/
theorem ofBytes_leBytes {w n : ℕ} (h : n < 256 ^ w) :
    ofBytes (leBytes w n) = n := by
  induction w generalizing n with
  | zero =>
      have hn : n = 0 := by simpa using h
      rw [leBytes, ofBytes_nil, hn]
  | succ w ih =>
      have hlt : n / 256 < 256 ^ w := by
        rw [pow_succ] at h
        omega
      have hbyte : (UInt8.ofNat n).toNat = n % 256 := UInt8.toNat_ofNat'
      rw [leBytes, ofBytes_cons, ih hlt, hbyte, Nat.mod_add_div]

/-! ## Slices -/

variable {α : Type*}

/-- The elements from position `a` up to, but not, position `b`. -/
def slice (l : List α) (a b : ℕ) : List α := (l.take b).drop a

@[simp] theorem length_slice (l : List α) (a b : ℕ) :
    (slice l a b).length = min b l.length - a := by
  unfold slice
  rw [List.length_drop, List.length_take]

/-- Positions in what is left of a list. -/
theorem slice_drop (l : List α) (k a b : ℕ) :
    slice (l.drop k) a b = slice l (k + a) (k + b) := by
  unfold slice
  rw [List.take_drop, List.drop_drop]

/-- The middle of three parts. -/
theorem slice_eq {l : List α} (pre mid post : List α) {a b : ℕ}
    (h : l = pre ++ mid ++ post) (ha : pre.length = a)
    (hb : a + mid.length = b) : slice l a b = mid := by
  unfold slice
  rw [h, List.take_left' (by rw [List.length_append, ha, hb]), List.drop_left' ha]

end Libssc.Library
