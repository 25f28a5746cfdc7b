import Mathlib

/-!
# Texts behind their length

A text that stands behind its length, written in a fixed number of bytes, can be told from what
follows it. So a list of such texts can be read back from the bytes of all of them.
-/

namespace EggPool.Lib

open List

/-- `to_be_bytes` of an integer of `w` bytes. -/
def toBeBytes : Nat → Nat → List UInt8
  | 0, _ => []
  | w + 1, n => UInt8.ofNat (n / 256 ^ w) :: toBeBytes w n

@[simp]
theorem length_toBeBytes (w n : Nat) : (toBeBytes w n).length = w := by
  induction w with
  | zero => rfl
  | succ w ih => rw [toBeBytes, length_cons, ih]

theorem mod_eq_of_toBeBytes {w n m : Nat} (h : toBeBytes w n = toBeBytes w m) :
    n % 256 ^ w = m % 256 ^ w := by
  induction w with
  | zero => rw [pow_zero, Nat.mod_one, Nat.mod_one]
  | succ w ih =>
    obtain ⟨hhd, htl⟩ := List.cons.inj h
    have hb : n / 256 ^ w % 256 = m / 256 ^ w % 256 := congrArg UInt8.toNat hhd
    rw [Nat.mod_pow_succ, Nat.mod_pow_succ, ih htl, hb]

/-- **An integer that fits is read back from its bytes.** -/
theorem toBeBytes_inj {w n m : Nat} (hn : n < 256 ^ w) (hm : m < 256 ^ w)
    (h : toBeBytes w n = toBeBytes w m) : n = m := by
  have hd := mod_eq_of_toBeBytes h
  rwa [Nat.mod_eq_of_lt hn, Nat.mod_eq_of_lt hm] at hd

/-- Two integers in front are compared byte by byte. -/
theorem toBeBytes_append {w n m : Nat} {s t : List UInt8}
    (h : toBeBytes w n ++ s = toBeBytes w m ++ t) : toBeBytes w n = toBeBytes w m ∧ s = t :=
  append_inj h (by rw [length_toBeBytes, length_toBeBytes])

/-- `str::as_bytes`. -/
def asBytes (s : String) : List UInt8 := s.toByteArray.data.toList

theorem asBytes_inj {a b : String} (h : asBytes a = asBytes b) : a = b :=
  String.toByteArray_inj.mp (ByteArray.ext (Array.toList_inj.mp h))

/-- A text behind its length. -/
def delimited (w : Nat) (bytes : List UInt8) : List UInt8 := toBeBytes w bytes.length ++ bytes

/-- **What follows a delimited text does not matter for reading it.** -/
theorem delimited_append {w : Nat} {a b s t : List UInt8} (ha : a.length < 256 ^ w)
    (hb : b.length < 256 ^ w) (h : delimited w a ++ s = delimited w b ++ t) : a = b ∧ s = t := by
  rw [delimited, delimited, append_assoc, append_assoc] at h
  obtain ⟨hlen, hr⟩ := toBeBytes_append h
  exact append_inj hr (toBeBytes_inj ha hb hlen)

end EggPool.Lib
