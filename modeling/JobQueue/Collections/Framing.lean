import Mathlib.Algebra.Order.Ring.Nat
import Mathlib.Data.Nat.SuccPred

/-!
# Length-framed byte strings

A list of byte strings is written without delimiters, each string after its
length in eight bytes. A reader recovers the list from the bytes alone, so
different lists are written differently.
-/

namespace JobQueue.Framing

/-- Bytes that fit in memory. -/
abbrev Text := { bytes : List UInt8 // bytes.length < 2 ^ 63 }

/-- The lowest digits of a number in base 256, the most significant first. -/
def bigEndian : Nat -> Nat -> List UInt8
  | 0, _ => []
  | width + 1, n => bigEndian width (n / 256) ++ [UInt8.ofNat n]

/-- A text after its length. -/
def frame (text : Text) : List UInt8 :=
  bigEndian 8 text.1.length ++ text.1

/-- The frames of texts in order. -/
def frames (texts : List Text) : List UInt8 :=
  texts.flatMap frame

@[simp] theorem length_bigEndian (width n : Nat) : (bigEndian width n).length = width := by
  induction width generalizing n with
  | zero => rfl
  | succ width ih => simp [bigEndian, ih]

theorem bigEndian_inj (small : n < 256 ^ width) (otherSmall : m < 256 ^ width)
    (same : bigEndian width n = bigEndian width m) : n = m := by
  induction width generalizing n m with
  | zero => simp at small otherSmall; omega
  | succ width ih =>
    obtain ⟨upper, lower⟩ := List.append_inj same (by simp)
    rw [Nat.pow_succ'] at small otherSmall
    have high := ih (Nat.div_lt_of_lt_mul small) (Nat.div_lt_of_lt_mul otherSmall) upper
    have low : n % 256 = m % 256 := by
      simpa using congrArg UInt8.toNat (List.singleton_inj.mp lower)
    omega

/-- The first text and what follows it can be read off. -/
theorem frame_append_inj (same : frame text ++ rest = frame other ++ otherRest) :
    text = other ∧ rest = otherRest := by
  simp only [frame, List.append_assoc] at same
  obtain ⟨sizes, tails⟩ := List.append_inj same (by simp)
  have length := bigEndian_inj (by have := text.2; omega) (by have := other.2; omega) sizes
  obtain ⟨bytes, rests⟩ := List.append_inj tails length
  exact ⟨Subtype.ext bytes, rests⟩

theorem frame_ne_nil (text : Text) : frame text ++ rest ≠ [] := by
  intro nothing
  have := congrArg List.length nothing
  simp [frame] at this

theorem frames_injective : Function.Injective frames := by
  intro texts
  induction texts with
  | nil =>
    intro others same
    cases others with
    | nil => rfl
    | cons other others => exact absurd same.symm (frame_ne_nil other)
  | cons text texts ih =>
    intro others same
    cases others with
    | nil => exact absurd same (frame_ne_nil text)
    | cons other others =>
      obtain ⟨rfl, rest⟩ := frame_append_inj same
      rw [ih rest]

/-! ### Decimal and hexadecimal text -/

/-- The byte of an ASCII character. -/
def byte (c : Char) : UInt8 :=
  UInt8.ofNat c.toNat

/-- A number in decimal digits. -/
def decimal : Int -> List UInt8
  | .ofNat n => (Nat.toDigits 10 n).map byte
  | .negSucc n => byte '-' :: (Nat.toDigits 10 (n + 1)).map byte

/-- Bytes in hexadecimal digits. -/
def hex (bytes : List UInt8) : List Char :=
  bytes.flatMap fun b => [Nat.digitChar (b.toNat / 16), Nat.digitChar (b.toNat % 16)]

theorem map_byte_toDigits (n : Nat) :
    ((Nat.toDigits 10 n).map byte).map (fun b => Char.ofNat b.toNat) = Nat.toDigits 10 n := by
  rw [List.map_map]
  refine (List.map_congr_left fun c member => ?_).trans (List.map_id _)
  have digit := Nat.isDigit_of_mem_toDigits (by decide) (by decide) member
  have small : c.toNat ≤ 57 := (Char.isDigit_iff_toNat.mp digit).2
  have kept : (byte c).toNat = c.toNat := Nat.mod_eq_of_lt (by omega)
  simp [kept]

theorem toDigits_inj (same : (Nat.toDigits 10 n).map byte = (Nat.toDigits 10 m).map byte) :
    n = m := by
  have digits := congrArg (List.map fun b => Char.ofNat b.toNat) same
  rw [map_byte_toDigits, map_byte_toDigits] at digits
  rw [← @Nat.ofDigitChars_toDigits 10 n, digits, Nat.ofDigitChars_toDigits] <;> decide

theorem decimal_injective : Function.Injective decimal := by
  have sign (n m : Nat) (rest : List UInt8) : (Nat.toDigits 10 n).map byte ≠ byte '-' :: rest := by
    intro same
    have digits := congrArg (List.map fun b => Char.ofNat b.toNat) same
    rw [map_byte_toDigits] at digits
    have digit := Nat.isDigit_of_mem_toDigits (b := 10) (n := n) (by decide)
      (by decide) (c := '-') (by rw [digits]; simp [byte])
    cases digit
  intro i j same
  match i, j with
  | .ofNat n, .ofNat m => rw [toDigits_inj same]
  | .ofNat n, .negSucc m => exact absurd same (sign n m _)
  | .negSucc n, .ofNat m => exact absurd same.symm (sign m n _)
  | .negSucc n, .negSucc m =>
    have := toDigits_inj (List.tail_eq_of_cons_eq same)
    congr 1
    omega

theorem length_decimal_lt (i : Int64) : (decimal i.toInt).length < 2 ^ 63 := by
  have lower := i.le_toInt
  have upper := i.toInt_lt
  have short (n : Nat) (small : n < 10 ^ 20) : ((Nat.toDigits 10 n).map byte).length ≤ 20 := by
    rw [List.length_map]
    exact (Nat.length_toDigits_le_iff (by decide) (by decide)).mpr small
  generalize i.toInt = value at lower upper
  cases value with
  | ofNat n =>
    rw [Int.ofNat_eq_natCast] at upper
    exact Nat.lt_of_le_of_lt (short n (by omega)) (by decide)
  | negSucc n =>
    have := short (n + 1) (by omega)
    simp only [decimal, List.length_cons]
    omega

theorem hex_injective : Function.Injective hex := by
  have digit : ∀ a < 16, ∀ b < 16, Nat.digitChar a = Nat.digitChar b -> a = b := by decide
  intro bytes
  induction bytes with
  | nil =>
    intro others same
    cases others with
    | nil => rfl
    | cons => cases same
  | cons first bytes ih =>
    intro others same
    cases others with
    | nil => cases same
    | cons other others =>
      simp only [hex, List.flatMap_cons, List.cons_append, List.nil_append, List.cons.injEq] at same
      obtain ⟨high, low, rest⟩ := same
      have bound := first.toNat_lt
      have otherBound := other.toNat_lt
      have upper := digit _ (by omega) _ (by omega) high
      have lower := digit _ (by omega) _ (by omega) low
      have equal : first = other := UInt8.toNat_inj.mp (by omega)
      rw [equal, ih rest]

end JobQueue.Framing
