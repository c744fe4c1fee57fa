import Mathlib.Data.Nat.Log
import Mathlib.Order.Basic
import PaymentsPlatform.Library.DateTime

/-!
# Dates and timestamps of a query engine

Years may have any number of digits and any sign.  A date is written at least
four digits wide, so two dates with one text are one date.
-/

namespace Calendar

structure Date where
  year : Int
  month : Nat
  day : Nat
  valid : (1 ≤ month ∧ month ≤ 12) ∧ 1 ≤ day ∧ day ≤ monthLength (year % 400).toNat month
  deriving DecidableEq

structure Timestamp where
  date : Date
  /-- Since midnight. -/
  microsecond : Nat
  valid : microsecond < 86400000000
  deriving DecidableEq

/-! ## Order -/

/-- The dates in their order, with gaps. -/
def Date.index (date : Date) : Int := (date.year * 12 + date.month) * 32 + date.day

theorem Date.day_le (date : Date) : date.day ≤ 31 :=
  date.valid.2.2.trans (DateTime.monthLength_le _ _)

theorem Date.index_injective : Function.Injective Date.index := by
  intro first second same
  have firstDay := first.day_le
  have secondDay := second.day_le
  obtain ⟨year, month, day, ⟨⟨_, _⟩, _, _⟩⟩ := first
  obtain ⟨year', month', day', ⟨⟨_, _⟩, _, _⟩⟩ := second
  simp only [index] at same firstDay secondDay
  obtain rfl : year = year' := by omega
  obtain rfl : month = month' := by omega
  obtain rfl : day = day' := by omega
  rfl

instance : LinearOrder Date := LinearOrder.lift' Date.index Date.index_injective

def Timestamp.index (time : Timestamp) : Int := time.date.index * 86400000000 + time.microsecond

theorem Timestamp.index_injective : Function.Injective Timestamp.index := by
  intro first second same
  obtain ⟨date, microsecond, _⟩ := first
  obtain ⟨date', microsecond', _⟩ := second
  simp only [index] at same
  obtain rfl : date = date' := Date.index_injective (by omega)
  obtain rfl : microsecond = microsecond' := by omega
  rfl

instance : LinearOrder Timestamp := LinearOrder.lift' Timestamp.index Timestamp.index_injective

/-! ## The text of a date -/

namespace Date

open DateTime (padded readDigits_of_lt isDigit_of_mem_padded)

/-- At least four digits, and as many as the number has. -/
def digits (number : Nat) : List Char := padded (max 4 (Nat.log 10 number + 1)) number

def yearChars (year : Int) : List Char :=
  if year < 0 then '-' :: digits year.natAbs else digits year.natAbs

def chars (date : Date) : List Char :=
  yearChars date.year ++ '-' :: (padded 2 date.month ++ '-' :: padded 2 date.day)

/-- `cast(date as varchar)`. -/
def text (date : Date) : String := String.ofList date.chars

theorem length_padded (width number : Nat) : (padded width number).length = width := by
  induction width with
  | zero => rfl
  | succ width ih => simp [padded, ih]

theorem padded_injective {width number other : Nat} (fits : number < 10 ^ width)
    (alsoFits : other < 10 ^ width) (same : padded width number = padded width other) :
    number = other := by
  have read := readDigits_of_lt fits []
  rw [same, readDigits_of_lt alsoFits] at read
  simpa [eq_comm] using read

theorem digits_injective {number other : Nat} (same : digits number = digits other) :
    number = other := by
  have widths := congrArg List.length same
  simp only [digits, length_padded] at widths
  have fits (number : Nat) : number < 10 ^ max 4 (Nat.log 10 number + 1) :=
    (Nat.lt_pow_succ_log_self (by decide) number).trans_le
      (Nat.pow_le_pow_right (by decide) (le_max_right _ _))
  refine padded_injective (fits number) (widths ▸ fits other) ?_
  simpa only [digits, widths] using same

theorem isDigit_of_mem_digits {number : Nat} {c : Char} (member : c ∈ digits number) :
    c.isDigit = true := isDigit_of_mem_padded member

theorem yearChars_injective {year other : Int} (same : yearChars year = yearChars other) :
    year = other := by
  have minus (number : Nat) (rest : List Char) : '-' :: rest ≠ digits number := by
    intro equal
    have isDigit := isDigit_of_mem_digits (equal ▸ List.mem_cons_self : '-' ∈ digits number)
    exact absurd isDigit (by decide)
  unfold yearChars at same
  split at same <;> split at same
  next => have := digits_injective (List.cons.inj same).2; omega
  next => exact absurd same (minus _ _)
  next => exact absurd same.symm (minus _ _)
  next => have := digits_injective same; omega

theorem text_injective : Function.Injective text := by
  intro first second same
  have chars := String.ofList_injective same
  obtain ⟨years, rest⟩ := List.append_inj' chars (by simp [length_padded])
  obtain ⟨months, days⟩ := List.append_inj (List.cons.inj rest).2 (by simp only [length_padded])
  have small (date : Date) : date.month < 10 ^ 2 ∧ date.day < 10 ^ 2 := by
    have lastDay := date.day_le
    have lastMonth := date.valid.1.2
    omega
  apply index_injective
  rw [index, index, yearChars_injective years,
    padded_injective (small first).1 (small second).1 months,
    padded_injective (small first).2 (small second).2 (List.cons.inj days).2]

theorem mem_chars {date : Date} {c : Char} (member : c ∈ date.chars) :
    c.isDigit = true ∨ c = '-' := by
  have ofYear : c ∈ yearChars date.year → c.isDigit = true ∨ c = '-' := by
    unfold yearChars
    split
    next =>
      intro inYear
      rcases List.mem_cons.mp inYear with
        rfl | later
      · exact .inr rfl
      · exact .inl (isDigit_of_mem_digits later)
    next => exact fun inYear => .inl (isDigit_of_mem_digits inYear)
  simp only [chars, List.mem_append, List.mem_cons] at member
  rcases member with inYear | rfl | inMonth | rfl | inDay
  · exact ofYear inYear
  · exact .inr rfl
  · exact .inl (isDigit_of_mem_padded inMonth)
  · exact .inr rfl
  · exact .inl (isDigit_of_mem_padded inDay)

end Date

end Calendar
