import Mathlib.Data.Nat.Basic
import Mathlib.Tactic.Linarith

/-!
# Numbers in fields of a fixed width

`format(n, "04d")` and `format(n, "4d")`: the decimal digits of a number, filled up on
the left. Numbers that fit their field have texts of one length, and the
lexicographic order of the texts is the order of the numbers.
-/

namespace Clev2er.Lib

/-- The digits of a number, with a fill character up to the width. -/
def formatInt (fill : Char) (width n : Nat) : List Char :=
  List.replicate (width - (Nat.toDigits 10 n).length) fill ++ Nat.toDigits 10 n

variable {fill : Char} {width n m : Nat}

theorem formatInt_of_lt (h : n < 10) :
    formatInt fill (width + 1) n = List.replicate width fill ++ [n.digitChar] := by
  rw [formatInt, Nat.toDigits_of_lt_base h]
  rfl

/-- The last digit comes off the end. -/
theorem formatInt_of_ge (h : 10 ≤ n) :
    formatInt fill (width + 1) n = formatInt fill width (n / 10) ++ [(n % 10).digitChar] := by
  rw [formatInt, Nat.toDigits_of_base_le (by norm_num) h, List.length_append, List.length_singleton,
    Nat.add_sub_add_right, ← List.append_assoc, formatInt]

theorem length_formatInt : ∀ {width n : Nat}, 0 < width → n < 10 ^ width →
    (formatInt fill width n).length = width := by
  intro width
  induction width with
  | zero => exact fun hwidth => absurd hwidth (Nat.lt_irrefl 0)
  | succ width ih =>
      intro n _ hn
      by_cases hsmall : n < 10
      · rw [formatInt_of_lt hsmall, List.length_append, List.length_replicate]
        rfl
      · have hle : 10 ≤ n := Nat.le_of_not_lt hsmall
        have hquotient : n / 10 < 10 ^ width := by
          rw [pow_succ] at hn
          omega
        have hwidth : 0 < width := by
          rcases width with _ | width
          · norm_num at hn
            omega
          · exact Nat.succ_pos width
        rw [formatInt_of_ge hle, List.length_append, ih hwidth hquotient]
        rfl

/-- A year of four digits needs no fill. -/
theorem formatInt_year {year : Nat} (h : 1000 ≤ year) :
    formatInt ' ' 4 year = formatInt '0' 4 year := by
  have hlength : 4 - (Nat.toDigits 10 year).length = 0 := by
    by_contra hshort
    have hle : (Nat.toDigits 10 year).length ≤ 3 := by omega
    rw [Nat.length_toDigits_le_iff (by norm_num) (by norm_num)] at hle
    omega
  rw [formatInt, formatInt, hlength, List.replicate_zero, List.replicate_zero]

/-! ## The order of the texts -/

theorem lt_append_of_lt {α : Type} [LT α] : ∀ {a b : List α}, a.length = b.length → a < b →
    ∀ c d : List α, a ++ c < b ++ d := by
  intro a
  induction a with
  | nil =>
      intro b hlength hlt
      rw [List.eq_nil_of_length_eq_zero hlength.symm] at hlt
      exact absurd hlt (List.not_lt_nil _)
  | cons x a ih =>
      intro b hlength hlt c d
      cases b with
      | nil => exact absurd hlength (Nat.succ_ne_zero _)
      | cons y b =>
          rw [List.cons_append, List.cons_append, List.cons_lt_cons_iff]
          rcases List.cons_lt_cons_iff.mp hlt with hhead | ⟨hhead, htail⟩
          · exact .inl hhead
          · exact .inr ⟨hhead, ih (Nat.succ.inj hlength) htail c d⟩

theorem digitChar_lt_digitChar (h : n < m) (hm : m < 10) : n.digitChar < m.digitChar := by
  rw [Char.lt_def, UInt32.lt_iff_toNat_lt]
  show n.digitChar.toNat < m.digitChar.toNat
  rw [Nat.toNat_digitChar_of_lt_ten hm, Nat.toNat_digitChar_of_lt_ten (h.trans hm)]
  omega

/-- A character before the digits other than zero. -/
def BeforeDigits (fill : Char) : Prop := ∀ n, 0 < n → n < 10 → fill < n.digitChar

theorem beforeDigits_zero : BeforeDigits '0' := by
  intro n hpos hn
  exact digitChar_lt_digitChar hpos hn

theorem beforeDigits_blank : BeforeDigits ' ' := by
  intro n hpos hn
  have hblank : ' ' < '0' := by decide
  exact Char.lt_trans hblank (digitChar_lt_digitChar hpos hn)

/-- A field of fill characters comes before every positive number. -/
theorem replicate_lt_formatInt (hfill : BeforeDigits fill) : ∀ {width n : Nat}, 0 < n →
    n < 10 ^ width → List.replicate width fill < formatInt fill width n := by
  intro width
  induction width with
  | zero =>
      intro n hpos hn
      simp only [pow_zero] at hn
      omega
  | succ width ih =>
      intro n hpos hn
      rw [List.replicate_succ']
      by_cases hsmall : n < 10
      · rw [formatInt_of_lt hsmall]
        exact List.append_left_lt (List.cons_lt_cons_iff.mpr (.inl (hfill n hpos hsmall)))
      · have hquotient : n / 10 < 10 ^ width := by
          rw [pow_succ] at hn
          omega
        have hlt := ih (by omega) hquotient
        rw [formatInt_of_ge (Nat.le_of_not_lt hsmall)]
        refine lt_append_of_lt ?_ hlt _ _
        rw [List.length_replicate, length_formatInt _ hquotient]
        rcases width with _ | width
        · simp only [pow_zero] at hquotient
          omega
        · exact Nat.succ_pos width

/-- **The order of the texts is the order of the numbers.** -/
theorem formatInt_lt_formatInt (hfill : BeforeDigits fill) : ∀ {width n m : Nat}, n < m →
    m < 10 ^ width → formatInt fill width n < formatInt fill width m := by
  intro width
  induction width with
  | zero =>
      intro n m hlt hm
      simp only [pow_zero] at hm
      omega
  | succ width ih =>
      intro n m hlt hm
      have hquotient : m / 10 < 10 ^ width := by
        rw [pow_succ] at hm
        omega
      by_cases hm10 : m < 10
      · rw [formatInt_of_lt hm10, formatInt_of_lt (hlt.trans hm10)]
        refine List.append_left_lt (List.cons_lt_cons_iff.mpr (.inl ?_))
        exact digitChar_lt_digitChar hlt hm10
      · have hwidth : 0 < width := by
          rcases width with _ | width
          · simp only [pow_zero] at hquotient
            omega
          · exact Nat.succ_pos width
        rw [formatInt_of_ge (Nat.le_of_not_lt hm10)]
        by_cases hn10 : n < 10
        · rw [formatInt_of_lt hn10]
          refine lt_append_of_lt ?_ (replicate_lt_formatInt hfill (by omega) hquotient) _ _
          rw [List.length_replicate, length_formatInt hwidth hquotient]
        · rw [formatInt_of_ge (Nat.le_of_not_lt hn10)]
          rcases Nat.lt_or_ge (n / 10) (m / 10) with hless | hge
          · refine lt_append_of_lt ?_ (ih hless hquotient) _ _
            rw [length_formatInt hwidth (hless.trans hquotient), length_formatInt hwidth hquotient]
          · -- the numbers differ in the last digit
            have hsame : n / 10 = m / 10 := by omega
            rw [hsame]
            refine List.append_left_lt (List.cons_lt_cons_iff.mpr (.inl ?_))
            exact digitChar_lt_digitChar (by omega) (Nat.mod_lt m (by norm_num))

theorem formatInt_injective (hfill : BeforeDigits fill) (hn : n < 10 ^ width) (hm : m < 10 ^ width)
    (h : formatInt fill width n = formatInt fill width m) : n = m := by
  rcases Nat.lt_trichotomy n m with hlt | heq | hlt
  · exact absurd (h ▸ formatInt_lt_formatInt hfill hlt hm) (List.lt_irrefl _)
  · exact heq
  · exact absurd (h ▸ formatInt_lt_formatInt hfill hlt hn) (List.lt_irrefl _)

/-! ## Numbers that may be longer than their field -/

/-- Zeros in front leave the number alone, so the text tells it at any width. -/
theorem formatInt_zero_injective (width : Nat) : Function.Injective (formatInt '0' width) := by
  have hread : ∀ n, Nat.ofDigitChars 10 (formatInt '0' width n) 0 = n := by
    intro n
    rw [formatInt, Nat.ofDigitChars_append, Nat.ofDigitChars_replicate_zero, Nat.mul_zero,
      Nat.ofDigitChars_ten_toDigits]
  exact Function.LeftInverse.injective hread

/-- `format(n, "04d")` of an integer: the sign counts as one character. -/
def formatSigned (width : Nat) : ℤ → List Char
  | .ofNat n => formatInt '0' width n
  | .negSucc n => '-' :: formatInt '0' (width - 1) (n + 1)

theorem mem_formatInt {c : Char} (h : c ∈ formatInt fill width n) : c = fill ∨ c.isDigit = true := by
  rcases List.mem_append.mp h with hfill | hdigit
  · exact .inl (List.eq_of_mem_replicate hfill)
  · exact .inr (Nat.isDigit_of_mem_toDigits (by norm_num) (by norm_num) hdigit)

theorem mem_formatSigned {c : Char} {n : ℤ} (h : c ∈ formatSigned width n) :
    c = '-' ∨ c = '0' ∨ c.isDigit = true := by
  cases n with
  | ofNat n => exact .inr (mem_formatInt h)
  | negSucc n => exact (List.mem_cons.mp h).imp_right mem_formatInt

/-- A sign does not stand among digits. -/
theorem formatInt_ne_minus (width n : Nat) (rest : List Char) :
    formatInt '0' width n ≠ '-' :: rest := by
  intro h
  have hmem : '-' ∈ formatInt '0' width n := h ▸ List.mem_cons_self
  rcases mem_formatInt hmem with hzero | hdigit
  · exact absurd hzero (by decide)
  · exact absurd hdigit (by decide)

/-- **The text of an integer tells it.** -/
theorem formatSigned_injective (width : Nat) : Function.Injective (formatSigned width) := by
  intro n m h
  cases n with
  | ofNat n =>
      cases m with
      | ofNat m => exact congrArg Int.ofNat (formatInt_zero_injective width h)
      | negSucc m => exact absurd h (formatInt_ne_minus width n _)
  | negSucc n =>
      cases m with
      | ofNat m => exact absurd h.symm (formatInt_ne_minus width m _)
      | negSucc m =>
          have hdigits := formatInt_zero_injective (width - 1) (List.cons.inj h).2
          exact congrArg Int.negSucc (Nat.succ.inj hdigits)

end Clev2er.Lib
