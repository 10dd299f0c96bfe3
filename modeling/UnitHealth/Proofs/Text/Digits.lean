/-!
# Numerals

A number is written with its digits in some base, the greatest first. Up to base sixteen each digit
has a character of its own, so a numeral tells its number. A decimal numeral also tells where it
ends, as long as what follows it does not begin with a digit.
-/

namespace UnitHealth.Text

theorem digitChar_inj : ∀ d < 16, ∀ d' < 16, Nat.digitChar d = Nat.digitChar d' → d = d' := by
  decide

section Numerals

variable {b : Nat} (one_lt : 1 < b)

include one_lt

/-- A numeral ends with the least digit, and the digits before it, if any, are the numeral of the
quotient. -/
theorem toDigits_eq_concat (n : Nat) :
    Nat.toDigits b n =
      (if n < b then [] else Nat.toDigits b (n / b)) ++ [Nat.digitChar (n % b)] := by
  rw [Nat.toDigits_eq_if one_lt]
  by_cases small : n < b
  · simp [small, Nat.mod_eq_of_lt small]
  · simp [small]

/-- A numeral holds digits of its base only. -/
theorem exists_digitChar_of_mem_toDigits {c : Char} (n : Nat) :
    c ∈ Nat.toDigits b n → ∃ d < b, Nat.digitChar d = c := by
  induction n using Nat.strongRecOn with
  | ind n ih =>
      intro mem
      rw [toDigits_eq_concat one_lt, List.mem_append, List.mem_singleton] at mem
      rcases mem with front | last
      · by_cases small : n < b
        · simp [small] at front
        · rw [if_neg small] at front
          exact ih (n / b) (Nat.div_lt_self (by omega) one_lt) front
      · exact ⟨n % b, Nat.mod_lt n (by omega), last.symm⟩

/-- Up to base sixteen a numeral tells its number. -/
theorem toDigits_inj (le_sixteen : b ≤ 16) (m : Nat) :
    ∀ n, Nat.toDigits b m = Nat.toDigits b n → m = n := by
  induction m using Nat.strongRecOn with
  | ind m ih =>
      intro n same
      rw [toDigits_eq_concat one_lt m, toDigits_eq_concat one_lt n] at same
      obtain ⟨front, last⟩ := List.append_inj' same rfl
      have digit_lt (k : Nat) : k % b < 16 :=
        Nat.lt_of_lt_of_le (Nat.mod_lt k (by omega)) le_sixteen
      have remainders : m % b = n % b :=
        digitChar_inj _ (digit_lt m) _ (digit_lt n) (List.singleton_inj.mp last)
      have quotients : m / b = n / b := by
        by_cases hm : m < b <;> by_cases hn : n < b
        · rw [Nat.div_eq_of_lt hm, Nat.div_eq_of_lt hn]
        -- Only one of the two numerals has digits before the last.
        · simp [hm, hn] at front
        · simp [hm, hn] at front
        · rw [if_neg hm, if_neg hn] at front
          exact ih (m / b) (Nat.div_lt_self (by omega) one_lt) (n / b) front
      rw [← Nat.div_add_mod m b, quotients, remainders, Nat.div_add_mod]

end Numerals

/-- The digits at the front of a text that begins with a decimal numeral are this numeral, if none
follows. -/
theorem takeWhile_isDigit_toDigits_append (n : Nat) {rest : List Char}
    (ends : ∀ c ∈ rest.head?, c.isDigit = false) :
    (Nat.toDigits 10 n ++ rest).takeWhile Char.isDigit = Nat.toDigits 10 n := by
  have digits : ∀ c ∈ Nat.toDigits 10 n, c.isDigit = true :=
    fun c mem => Nat.isDigit_of_mem_toDigits (by decide) (by decide) mem
  rw [List.takeWhile_append_of_pos digits]
  cases rest with
  | nil => simp
  | cons c rest => simp [ends c rfl]

/-- A decimal numeral ends where no digit follows. -/
theorem eq_of_toDigits_append_eq {m n : Nat} {a a' : List Char}
    (same : Nat.toDigits 10 m ++ a = Nat.toDigits 10 n ++ a')
    (ends : ∀ c ∈ a.head?, c.isDigit = false) (ends' : ∀ c ∈ a'.head?, c.isDigit = false) :
    m = n ∧ a = a' := by
  have numerals := congrArg (List.takeWhile Char.isDigit) same
  rw [takeWhile_isDigit_toDigits_append m ends, takeWhile_isDigit_toDigits_append n ends']
    at numerals
  rw [numerals, List.append_cancel_left_eq] at same
  exact ⟨toDigits_inj (by decide) (by decide) m n numerals, same⟩

end UnitHealth.Text
