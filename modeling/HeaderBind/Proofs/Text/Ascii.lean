/-
# HeaderBind.Proofs.Text.Ascii — what holds of ASCII characters, code by code

ASCII has 128 characters, so what can be decided of one can be decided of all of them
(`forall_ascii`).  Letters and digits in the sense of the core library are ASCII.
-/
import HeaderBind.Text.CodeRange

namespace HeaderBind.Text

set_option autoImplicit false

theorem forall_ascii {P : Char → Prop} (each : ∀ code < 128, P (Char.ofNat code)) {c : Char}
    (ascii : isAscii c = true) : P c := by
  have holds := each c.toNat (of_decide_eq_true ascii)
  rwa [Char.ofNat_toNat] at holds

theorem lt_of_le_code {c : Char} {code : UInt32} (below : c.val ≤ code)
    (ascii : code.toNat < 128) : c.toNat < 128 :=
  Nat.lt_of_le_of_lt (UInt32.le_iff_toNat_le.1 below) ascii

theorem isAscii_of_isAlphanum {c : Char} (h : c.isAlphanum = true) : isAscii c = true := by
  refine decide_eq_true ?_
  obtain letter | digit := Bool.or_eq_true_iff.1 h
  · obtain capital | small := Bool.or_eq_true_iff.1 letter
    · have below : c.val ≤ 'Z'.val := (of_decide_eq_true capital).2
      exact lt_of_le_code below (by decide)
    · have below : c.val ≤ 'z'.val := of_decide_eq_true (Bool.and_eq_true_iff.1 small).2
      exact lt_of_le_code below (by decide)
  · have below : c.val ≤ '9'.val := of_decide_eq_true (Bool.and_eq_true_iff.1 digit).2
    exact lt_of_le_code below (by decide)

theorem isAlphanum_of_isLower {c : Char} (small : c.isLower = true) : c.isAlphanum = true :=
  Bool.or_eq_true_iff.2 (.inl (Bool.or_eq_true_iff.2 (.inr small)))

theorem isAlphanum_of_isUpper {c : Char} (capital : c.isUpper = true) : c.isAlphanum = true :=
  Bool.or_eq_true_iff.2 (.inl (Bool.or_eq_true_iff.2 (.inl capital)))

/-- A small letter and its capital. -/
theorem capital_of_isLower {c : Char} (small : c.isLower = true) :
    isAscii c.toUpper = true ∧ c.toUpper.isUpper = true ∧ c.toUpper.toLower = c := by
  have ascii : isAscii c = true := isAscii_of_isAlphanum (isAlphanum_of_isLower small)
  revert small
  exact forall_ascii (P := fun c => c.isLower = true →
    isAscii c.toUpper = true ∧ c.toUpper.isUpper = true ∧ c.toUpper.toLower = c)
    (by decide) ascii

end HeaderBind.Text
