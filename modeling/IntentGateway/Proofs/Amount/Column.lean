import IntentGateway.Amount.Column
import IntentGateway.Proofs.Numeral.Spelling
import Mathlib.Algebra.Group.Int.Defs

/-! # Amounts come back from their columns

A numeric column holds the amount itself. A text column holds its decimal text, which spells the
amount and nothing else; it is the only one of the two to refuse an amount, for the number of its
digits. So an amount of few enough digits comes back from either column, whatever its sign
(`Amount.Column.keeps_amounts`).
-/

namespace IntentGateway.Amount

namespace Column

/-- A text column holds the decimal text of an amount. -/
theorem bind_text_of_fits {n : Int} (h : Numeral.fits n = true) :
    text.bind (.int n) = .ok (.text (Numeral.decimalText n)) := by
  simp only [bind, Value.toInteger, Numeral.decimal, h, if_true]

/-- An amount whose decimal text is too long is refused. -/
theorem bind_text_of_not_fits {n : Int} (h : ¬ Numeral.fits n = true) :
    text.bind (.int n) = .error (.numeral .tooLarge) := by
  simp only [bind, Value.toInteger, Numeral.decimal, h]
  rfl

theorem bind_text_eq_tooLarge_iff {n : Int} :
    text.bind (.int n) = .error (.numeral .tooLarge) ↔ ¬ Numeral.fits n = true := by
  refine ⟨fun hbind hfits => ?_, bind_text_of_not_fits⟩
  rw [bind_text_of_fits hfits] at hbind
  cases hbind

end Column

/-- The decimal text of an amount is read as that amount. -/
theorem read_decimalText {n : Int} (h : Numeral.fits n = true) :
    Numeral.read 10 (Numeral.decimalText n).toList = .ok n := by
  rw [Numeral.decimalText, String.toList_ofList]
  exact (Numeral.spells_decimalChars h).readAs _

/-- So it is from a cell. -/
theorem Cell.read_text {n : Int} (h : Numeral.fits n = true) :
    (Cell.text (Numeral.decimalText n)).read = .ok (some n) := by
  simp only [Cell.read, read_decimalText h]

/-- Different amounts have different decimal texts. -/
theorem decimalText_inj {m n : Int} (hm : Numeral.fits m = true) (hn : Numeral.fits n = true) :
    Numeral.decimalText m = Numeral.decimalText n ↔ m = n := by
  refine ⟨fun heq => ?_, fun heq => congrArg _ heq⟩
  have hread := read_decimalText hm
  rw [heq, read_decimalText hn] at hread
  exact (Except.ok.inj hread).symm

/-- An amount of at most 4300 digits comes back from either column. In a text column it is kept as a
text that is read as it without loss, and no other amount as the same text. Amounts of more digits
are refused there. -/
theorem Column.keeps_amounts (n : Int) :
    (n.natAbs < 10 ^ Numeral.digitLimit →
      (∀ column : Column, ∃ cell, column.bind (.int n) = .ok cell ∧ cell.read = .ok (some n))
        ∧ ∃ digits, text.bind (.int n) = .ok (.text digits)
          ∧ Numeral.read 10 digits.toList = .ok n
          ∧ ∀ m : Int, text.bind (.int m) = .ok (.text digits) ↔ m = n)
      ∧ (10 ^ Numeral.digitLimit ≤ n.natAbs →
        text.bind (.int n) = .error (.numeral .tooLarge)) := by
  refine ⟨fun hfew => ?_, fun hmany => ?_⟩
  · have hfits : Numeral.fits n = true := Numeral.fits_iff.mpr hfew
    refine ⟨fun column => ?_, Numeral.decimalText n, bind_text_of_fits hfits,
      read_decimalText hfits, fun m => ?_⟩
    · cases column with
      | text => exact ⟨_, bind_text_of_fits hfits, Cell.read_text hfits⟩
      | numeric => exact ⟨.numeric n, rfl, rfl⟩
    · constructor
      · intro hbind
        by_cases hm : Numeral.fits m = true
        · rw [bind_text_of_fits hm, Except.ok.injEq, Cell.text.injEq] at hbind
          exact (decimalText_inj hm hfits).mp hbind
        · rw [bind_text_of_not_fits hm] at hbind
          cases hbind
      · rintro rfl
        exact bind_text_of_fits hfits
  · exact bind_text_of_not_fits fun hfits =>
      absurd (Numeral.fits_iff.mp hfits) (Nat.not_lt.mpr hmany)

/-- The largest magnitude of 256 bits comes back with a minus from either column, and the least
amount of 4301 digits is refused by one of them. -/
theorem Column.keeps_amounts_negative :
    (∀ column : Column, ∃ cell, column.bind (.int (-(2 ^ 256 - 1))) = .ok cell
      ∧ cell.read = .ok (some (-(2 ^ 256 - 1))))
      ∧ text.bind (.int (10 ^ Numeral.digitLimit)) = .error (.numeral .tooLarge) := by
  have hfew : (-(2 ^ 256 - 1) : Int).natAbs < 10 ^ Numeral.digitLimit :=
    Nat.lt_of_lt_of_le (by decide : (-(2 ^ 256 - 1) : Int).natAbs < 10 ^ 78)
      (Nat.pow_le_pow_right (by decide) (by decide))
  have hmany : 10 ^ Numeral.digitLimit ≤ ((10 : Int) ^ Numeral.digitLimit).natAbs := by
    have hten : (10 : Int).natAbs = 10 := rfl
    rw [Int.natAbs_pow, hten]
  exact ⟨((keeps_amounts (-(2 ^ 256 - 1))).1 hfew).1, (keeps_amounts _).2 hmany⟩

end IntentGateway.Amount
