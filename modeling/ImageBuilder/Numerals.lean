import ImageBuilder.PlainText
import Mathlib.Algebra.Group.Nat.Defs
import Mathlib.Tactic.Common

set_option autoImplicit false

/- Decimal numerals as text, digit by digit from the right. -/
namespace Numerals

open PlainText

/-- The decimal numeral a shell or the kernel prints for a number. -/
def decimal (n : Nat) : Text := Nat.toDigits 10 n

theorem decimal_small (n : Nat) (small : n < 10) : decimal n = [n.digitChar] :=
  Nat.toDigits_of_lt_base small

theorem decimal_large (n : Nat) (large : 10 ≤ n) :
    decimal n = decimal (n / 10) ++ [(n % 10).digitChar] :=
  Nat.toDigits_of_base_le (by decide) large

@[simp] theorem decimal_ne_nil (n : Nat) : decimal n ≠ [] := Nat.toDigits_ne_nil

theorem not_mem_decimal {c : Char} (n : Nat) (other : c.isDigit = false) : c ∉ decimal n := by
  intro member
  rw [Nat.isDigit_of_mem_toDigits (by decide) (by decide) member] at other
  nomatch other

/-- Dropping the last digit divides by ten; a single digit leaves nothing. -/
theorem dropLast_decimal (n : Nat) :
    (decimal n).dropLast = if n < 10 then [] else decimal (n / 10) := by
  split
  · rename_i small
    rw [decimal_small n small, List.dropLast_singleton]
  · rename_i large
    rw [decimal_large n (by omega), List.dropLast_concat]

/-- The first digit survives division by ten. -/
theorem head_decimal_large (n : Nat) (large : 10 ≤ n) :
    (decimal n).head? = (decimal (n / 10)).head? := by
  rw [decimal_large n large, List.head?_append_of_ne_nil _ (decimal_ne_nil _)]

theorem head_decimal_small (n : Nat) (small : n < 10) :
    (decimal n).head? = some n.digitChar := by
  rw [decimal_small n small, List.head?_cons]

/-- The number a numeral's first digit stands for. -/
def leading (n : Nat) : Nat := if n < 10 then n else leading (n / 10)

theorem leading_small (n : Nat) (small : n < 10) : leading n = n := by
  rw [leading, if_pos small]

theorem leading_large (n : Nat) (large : 10 ≤ n) : leading n = leading (n / 10) := by
  rw [leading, if_neg (by omega)]

theorem leading_lt (n : Nat) : leading n < 10 := by
  induction n using leading.induct with
  | case1 n small => rwa [leading_small n small]
  | case2 n large ih => rwa [leading_large n (by omega)]

theorem head_decimal (n : Nat) : (decimal n).head? = some (leading n).digitChar := by
  induction n using leading.induct with
  | case1 n small => rw [head_decimal_small n small, leading_small n small]
  | case2 n large ih => rw [head_decimal_large n (by omega), ih, leading_large n (by omega)]

/-- The first of `k + 1` digits. -/
theorem leading_eq_div (k n : Nat) (low : 10 ^ k ≤ n) (high : n < 10 ^ (k + 1)) :
    leading n = n / 10 ^ k := by
  induction k generalizing n with
  | zero => rw [leading_small n (by omega), Nat.pow_zero, Nat.div_one]
  | succ k ih =>
      rw [Nat.pow_succ] at low high
      have positive : 0 < 10 ^ k := Nat.pow_pos (by decide)
      have tens : 10 ≤ n := by omega
      have lower : 10 ^ k ≤ n / 10 := by omega
      have upper : n / 10 < 10 ^ (k + 1) := by omega
      rw [leading_large n tens, ih (n / 10) lower upper, Nat.div_div_eq_div_mul, Nat.pow_succ,
        Nat.mul_comm 10]

/-- The lower-case hexadecimal numeral a boot loader prints for a number. -/
def hexadecimal (n : Nat) : Text := Nat.toDigits 16 n

def hexDigit (c : Char) : Nat := if c.isDigit then c.toNat - 48 else c.toNat - 87

/-- The number a hexadecimal numeral stands for. -/
def unhex (digits : Text) : Nat := digits.foldl (fun value c => 16 * value + hexDigit c) 0

theorem hexDigit_digitChar (d : Nat) (single : d < 16) : hexDigit d.digitChar = d := by
  revert d
  decide

theorem unhex_hexadecimal (n : Nat) : unhex (hexadecimal n) = n := by
  induction n using Nat.strongRecOn with
  | ind n ih =>
      by_cases small : n < 16
      · rw [hexadecimal, Nat.toDigits_of_lt_base small]
        exact (Nat.zero_add _).trans (hexDigit_digitChar n small)
      · have shorter := ih (n / 16) (by omega)
        rw [hexadecimal, unhex] at shorter
        rw [hexadecimal, Nat.toDigits_of_base_le (by decide) (by omega), unhex, List.foldl_append,
          shorter]
        change 16 * (n / 16) + hexDigit (n % 16).digitChar = n
        rw [hexDigit_digitChar _ (Nat.mod_lt n (by decide)), Nat.div_add_mod]

theorem hexadecimal_injective (m n : Nat) (same : hexadecimal m = hexadecimal n) : m = n := by
  have values := congrArg unhex same
  rwa [unhex_hexadecimal, unhex_hexadecimal] at values

def isHexDigit (c : Char) : Bool := c.isDigit || ('a' ≤ c && c ≤ 'f')

theorem isHexDigit_digitChar (d : Nat) (single : d < 16) : isHexDigit d.digitChar = true := by
  revert d
  decide

theorem isHexDigit_hexadecimal (n : Nat) : (hexadecimal n).all isHexDigit = true := by
  induction n using Nat.strongRecOn with
  | ind n ih =>
    by_cases small : n < 16
    · rw [hexadecimal, Nat.toDigits_of_lt_base small, List.all_cons, isHexDigit_digitChar n small]
      rfl
    · have shorter := ih (n / 16) (by omega)
      rw [hexadecimal] at shorter
      rw [hexadecimal, Nat.toDigits_of_base_le (by decide) (by omega), List.all_append, shorter,
        List.all_cons, isHexDigit_digitChar _ (Nat.mod_lt n (by decide))]
      rfl

/-- `%0*x` -/
def paddedHex (width n : Nat) : Text :=
  List.replicate (width - (hexadecimal n).length) '0' ++ hexadecimal n

theorem unhex_paddedHex (width n : Nat) : unhex (paddedHex width n) = n := by
  have zeros (count : Nat) :
      (List.replicate count '0').foldl (fun value c => 16 * value + hexDigit c) 0 = 0 := by
    induction count with
    | zero => rfl
    | succ count ih => exact ih
  have whole := unhex_hexadecimal n
  unfold unhex at whole ⊢
  rw [paddedHex, List.foldl_append, zeros, whole]

theorem isHexDigit_paddedHex (width n : Nat) : (paddedHex width n).all isHexDigit = true := by
  have zeros : (List.replicate (width - (hexadecimal n).length) '0').all isHexDigit = true := by
    rw [List.all_eq_true]
    intro c member
    rw [List.eq_of_mem_replicate member]
    decide
  rw [paddedHex, List.all_append, zeros, isHexDigit_hexadecimal, Bool.and_self]

theorem not_mem_paddedHex {c : Char} (width n : Nat) (other : isHexDigit c = false) :
    c ∉ paddedHex width n := by
  intro member
  have digit := List.all_eq_true.mp (isHexDigit_paddedHex width n) c member
  rw [other] at digit
  cases digit

/-- The number a decimal numeral stands for. -/
def undecimal (digits : Text) : Nat := digits.foldl (fun value c => 10 * value + hexDigit c) 0

theorem undecimal_decimal (n : Nat) : undecimal (decimal n) = n := by
  induction n using Nat.strongRecOn with
  | ind n ih =>
      by_cases small : n < 10
      · rw [decimal_small n small]
        exact (Nat.zero_add _).trans (hexDigit_digitChar n (by omega))
      · have shorter := ih (n / 10) (by omega)
        rw [undecimal] at shorter
        rw [decimal_large n (by omega), undecimal, List.foldl_append, shorter]
        change 10 * (n / 10) + hexDigit (n % 10).digitChar = n
        rw [hexDigit_digitChar _ (by omega), Nat.div_add_mod]

theorem decimal_injective (m n : Nat) (same : decimal m = decimal n) : m = n := by
  have values := congrArg undecimal same
  rwa [undecimal_decimal, undecimal_decimal] at values

theorem isDigit_of_mem_decimal (n : Nat) (c : Char) (member : c ∈ decimal n) :
    c.isDigit = true :=
  Nat.isDigit_of_mem_toDigits (by decide) (by decide) member

/-- The number a text is, if it is nothing but digits. -/
def number? (text : Text) : Option Nat :=
  if !text.isEmpty && text.all Char.isDigit then some (undecimal text) else none

@[simp] theorem number?_decimal (n : Nat) : number? (decimal n) = some n := by
  have digits : (decimal n).all Char.isDigit = true :=
    List.all_eq_true.mpr (isDigit_of_mem_decimal n)
  have nonempty : (decimal n).isEmpty = false := by simp
  rw [number?, digits, nonempty, undecimal_decimal]
  rfl

end Numerals
