import Mathlib.Data.Nat.Digits
import Mathlib.Tactic.IntervalCases

set_option autoImplicit false

namespace StacksetController.Core

theorem append_separator_inj {c : Char} : ∀ {a b x y : List Char}, c ∉ x → c ∉ y →
    a ++ c :: x = b ++ c :: y → a = b ∧ x = y
  | [], [], _, _, _, _, same => ⟨rfl, (List.cons.inj same).2⟩
  | [], d :: b, x, y, hx, _, same => by
    obtain ⟨rfl, rfl⟩ := List.cons.inj same
    simp at hx
  | d :: a, [], x, y, _, hy, same => by
    obtain ⟨rfl, rfl⟩ := List.cons.inj same
    simp at hy
  | d :: a, e :: b, x, y, hx, hy, same => by
    obtain ⟨rfl, rest⟩ := List.cons.inj same
    obtain ⟨rfl, rfl⟩ := append_separator_inj hx hy rest
    exact ⟨rfl, rfl⟩

theorem append_separator_eq_iff {c : Char} {a b x y : List Char} (different : a ≠ b) :
    a ++ c :: x = b ++ c :: y ↔
      (∃ r, b = a ++ c :: r ∧ x = r ++ c :: y) ∨ ∃ r, a = b ++ c :: r ∧ y = r ++ c :: x := by
  rw [List.append_eq_append_iff]
  constructor
  · rintro (⟨_ | ⟨d, r⟩, rfl, split⟩ | ⟨_ | ⟨d, r⟩, rfl, split⟩)
    · exact absurd (List.append_nil a).symm different
    · obtain ⟨rfl, rfl⟩ := List.cons.inj split
      exact .inl ⟨r, rfl, rfl⟩
    · exact absurd (List.append_nil b) different
    · obtain ⟨rfl, rfl⟩ := List.cons.inj split
      exact .inr ⟨r, rfl, rfl⟩
  · rintro (⟨r, rfl, rfl⟩ | ⟨r, rfl, rfl⟩)
    · exact .inl ⟨c :: r, rfl, rfl⟩
    · exact .inr ⟨c :: r, rfl, rfl⟩

theorem data_dash_join (s t : String) : (s ++ "-" ++ t).data = s.data ++ '-' :: t.data := by
  simp

theorem dash_join_eq_iff {a b x y : String} (different : a ≠ b) :
    a ++ "-" ++ x = b ++ "-" ++ y ↔
      (∃ r, b = a ++ "-" ++ r ∧ x = r ++ "-" ++ y) ∨ ∃ r, a = b ++ "-" ++ r ∧ y = r ++ "-" ++ x := by
  have lifted : ∀ s t u v : String, (∃ r, s.data = t.data ++ '-' :: r ∧ u.data = r ++ '-' :: v.data) ↔
      ∃ r, s = t ++ "-" ++ r ∧ u = r ++ "-" ++ v := fun s t u v => by
    simp only [String.ext_iff, data_dash_join]
    exact ⟨fun ⟨r, h⟩ => ⟨⟨r⟩, h⟩, fun ⟨r, h⟩ => ⟨r.data, h⟩⟩
  rw [String.ext_iff, data_dash_join, data_dash_join,
    append_separator_eq_iff fun same => different (String.ext same), lifted, lifted]

-- The number a string of decimal digits spells: the inverse of `%d` formatting (`Nat.toDigits 10`).
def decimalValue (digits : List Char) : Nat :=
  digits.foldl (fun n c => n * 10 + (c.toNat - '0'.toNat)) 0

theorem decimalValue_append_digit (digits : List Char) (c : Char) :
    decimalValue (digits ++ [c]) = decimalValue digits * 10 + (c.toNat - '0'.toNat) := by
  simp [decimalValue]

section Digits

variable {d : Nat} (small : d < 10)
include small

theorem digitChar_value : (Nat.digitChar d).toNat - '0'.toNat = d := by
  interval_cases d <;> rfl

theorem digitChar_ne_dash : Nat.digitChar d ≠ '-' := by
  interval_cases d <;> decide

end Digits

theorem toDigitsCore_append : ∀ (fuel n : Nat) (ds : List Char),
    Nat.toDigitsCore 10 fuel n ds = Nat.toDigitsCore 10 fuel n [] ++ ds
  | 0, _, _ => rfl
  | fuel + 1, n, ds => by
    simp only [Nat.toDigitsCore]
    split
    · rfl
    · rw [toDigitsCore_append fuel _ (_ :: ds), toDigitsCore_append fuel _ [_]]
      simp

theorem toDigitsCore_spec : ∀ (fuel n : Nat), n < fuel →
    decimalValue (Nat.toDigitsCore 10 fuel n []) = n ∧ '-' ∉ Nat.toDigitsCore 10 fuel n []
  | 0, _, small => absurd small (Nat.not_lt_zero _)
  | fuel + 1, n, small => by
    have digit : n % 10 < 10 := Nat.mod_lt n (by decide)
    simp only [Nat.toDigitsCore]
    split
    · refine ⟨?_, by simp [(digitChar_ne_dash digit).symm]⟩
      rw [← List.nil_append [_], decimalValue_append_digit, digitChar_value digit]
      simp [decimalValue]
      omega
    · obtain ⟨value, noDash⟩ := toDigitsCore_spec fuel (n / 10) (by omega)
      rw [toDigitsCore_append]
      refine ⟨?_, by simp [noDash, (digitChar_ne_dash digit).symm]⟩
      rw [decimalValue_append_digit, value, digitChar_value digit]
      omega

theorem decimalValue_toString (n : Nat) : decimalValue (toString n).data = n :=
  (toDigitsCore_spec (n + 1) n (Nat.lt_succ_self n)).1

theorem dash_not_mem_toString (n : Nat) : '-' ∉ (toString n).data :=
  (toDigitsCore_spec (n + 1) n (Nat.lt_succ_self n)).2

theorem toString_injective {m n : Nat} (same : toString m = toString n) : m = n := by
  have decoded := congrArg (fun s : String => decimalValue s.data) same
  simpa only [decimalValue_toString] using decoded

-- strconv.FormatInt(i, 10) writes a minus sign before the digits of a negative number, as `toString` does
-- on Int; so two integers print alike only when they are equal.
theorem intToString_injective {m n : Int} (same : toString m = toString n) : m = n := by
  have negative : ∀ a b : Nat, toString a ≠ "-" ++ toString (b + 1) := fun a b printed => by
    have dash : '-' ∈ (toString a).data := by
      rw [printed, String.data_append]
      exact List.mem_append_left _ (List.mem_singleton_self _)
    exact dash_not_mem_toString a dash
  cases m with
  | ofNat a =>
    cases n with
    | ofNat b => exact congrArg Int.ofNat (toString_injective same)
    | negSucc b => exact absurd same (negative a b)
  | negSucc a =>
    cases n with
    | ofNat b => exact absurd same.symm (negative b a)
    | negSucc b =>
      have digits := List.append_cancel_left (congrArg String.data same : ("-" ++ toString (a + 1)).data = _)
      rw [Nat.succ_injective (toString_injective (String.ext digits))]

end StacksetController.Core
