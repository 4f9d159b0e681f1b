import DisplayProcessor.Instances

/-!
# Decimal digits

Both file formats write a natural number with its decimal digits, and both refuse a number with a
spare zero in front.

- `exists_toDigits_eq_cons`: the digits of a number, the first one apart.
-/

namespace DisplayProcessor

/-- A positive number is not written with a zero in front. -/
theorem head?_toDigits_ne_zero {n : Nat} (hn : 0 < n) : (Nat.toDigits 10 n).head? ≠ some '0' := by
  induction n using Nat.strongRecOn with
  | ind n ih =>
    rw [Nat.toDigits_eq_if (by decide)]
    by_cases hlt : n < 10
    · have hdigit : ∀ d : Fin 10, 0 < d.val → Nat.digitChar d ≠ '0' := by decide
      rw [if_pos hlt, List.head?_cons]
      intro h
      exact hdigit ⟨n, hlt⟩ hn (Option.some_inj.mp h)
    · -- The number starts with the first digit of its tenth, which is not zero here.
      have hfirst := ih (n / 10) (by omega) (by omega)
      obtain ⟨c, rest, hcons⟩ :=
        List.exists_cons_of_ne_nil (Nat.toDigits_ne_nil (n := n / 10) (b := 10))
      rw [hcons] at hfirst
      rw [if_neg hlt, hcons]
      exact hfirst

/-- A number is written with at least one digit, and the first one is zero for zero only. -/
theorem exists_toDigits_eq_cons (n : Nat) :
    ∃ c rest, Nat.toDigits 10 n = c :: rest ∧ (∀ d ∈ c :: rest, d.isDigit = true) ∧
      (c = '0' → n = 0) := by
  obtain ⟨c, rest, h⟩ := List.exists_cons_of_ne_nil (Nat.toDigits_ne_nil (n := n) (b := 10))
  refine ⟨c, rest, h, ?_, ?_⟩
  · intro d hd
    rw [← h] at hd
    exact Nat.isDigit_of_mem_toDigits (by decide) (by decide) hd
  · rintro rfl
    refine Nat.eq_zero_of_not_pos fun hn => head?_toDigits_ne_zero hn ?_
    rw [h, List.head?_cons]

end DisplayProcessor
