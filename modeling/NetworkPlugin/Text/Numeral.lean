/-!
# Numerals

Digits are the ASCII digits and the letters `a` to `f` in either case.  A numeral
is a non-empty run of digits below its base; it has no sign and no separators.
Reading what is written gives the number again.
-/

namespace NetworkPlugin.Text

def digitValue? (c : Char) : Option Nat :=
  if '0' ≤ c ∧ c ≤ '9' then some (c.toNat - '0'.toNat)
  else if 'a' ≤ c ∧ c ≤ 'f' then some (c.toNat - 'a'.toNat + 10)
  else if 'A' ≤ c ∧ c ≤ 'F' then some (c.toNat - 'A'.toNat + 10)
  else none

def pushDigit? (base number : Nat) (c : Char) : Option Nat :=
  (digitValue? c).bind fun digit =>
    if digit < base then some (number * base + digit) else none

def decodeNumeral? (base : Nat) (text : List Char) : Option Nat :=
  if text = [] then none else text.foldlM (pushDigit? base) 0

def encodeNumeral (base number : Nat) : List Char := Nat.toDigits base number

def hasNeedlessZero (text : List Char) : Bool :=
  text.head? = some '0' && 1 < text.length

theorem digitValue?_digitChar {digit : Nat} (h : digit < 16) :
    digitValue? (Nat.digitChar digit) = some digit := by
  have all : ∀ d : Fin 16, digitValue? (Nat.digitChar d) = some d.val := by decide
  exact all ⟨digit, h⟩

theorem decodeNumeral?_encodeNumeral {base : Nat} (low : 2 ≤ base) (high : base ≤ 16)
    (number : Nat) : decodeNumeral? base (encodeNumeral base number) = some number := by
  unfold decodeNumeral? encodeNumeral
  rw [if_neg Nat.toDigits_ne_nil]
  induction number using Nat.strongRecOn with
  | ind number ih =>
      by_cases small : number < base
      · rw [Nat.toDigits_of_lt_base small]
        simp [pushDigit?, digitValue?_digitChar (show number < 16 by omega), small]
      · have smaller : number / base < number :=
          Nat.div_lt_self (by omega) (by omega)
        have below : number % base < base := Nat.mod_lt _ (by omega)
        rw [Nat.toDigits_of_base_le (by omega) (by omega), List.foldlM_append, ih _ smaller]
        have division := Nat.div_add_mod number base
        rw [Nat.mul_comm] at division
        simp [pushDigit?, digitValue?_digitChar (show number % base < 16 by omega), below,
          division]

end NetworkPlugin.Text
