import Clev2er.Lib.ForEach
import Clev2er.Lib.Slice
import Mathlib.Algebra.BigOperators.Fin
import Mathlib.Algebra.Order.Field.Rat
import Mathlib.Tactic.FieldSimp
import Mathlib.Tactic.Linarith
import Mathlib.Tactic.Ring

/-!
# `fastsmooth`

The sliding average of `fastsmooth.py`, statement by statement: a running sum
over windows of `width` entries, stored at an offset of half the width rounded
to even, then both ends overwritten by shorter averages. The arithmetic is
whatever `K` has; the results are about exact rational arithmetic.
-/

namespace Clev2er.Retrack

open Clev2er.Lib

/-! ## The function -/

section Code

variable {K : Type} [Add K] [Sub K] [Div K] [Zero K] [NatCast K]

/-- `int(np.around(width / 2))`: halves go to the even neighbour. -/
def halfWidth (width : Nat) : Nat :=
  if width % 2 = 0 then width / 2
  else if width / 2 % 2 = 0 then width / 2 else width / 2 + 1

/-- One round of the running sum: `sss` and `sum_points`. Index `-1` is the last
slot. -/
def slideStep (xs : List K) (width halfw : Nat) (s : List K × K) (k : Nat) : List K × K :=
  let slot := if k + halfw = 0 then xs.length - 1 else k + halfw - 1
  (s.1.set slot s.2, s.2 - xs.getD k 0 + xs.getD (k + width) 0)

/-- The state after `n` rounds. -/
def slide (xs : List K) (width halfw n : Nat) : List K × K :=
  (List.range n).foldl (slideStep xs width halfw)
    (List.replicate xs.length 0, (slice xs 0 width).sum)

/-- One round of the taper loop, at both ends. -/
def taperStep (xs : List K) (out : List K) (k : Nat) : List K :=
  let length := xs.length
  let inner := slice xs (length - 1 - 2 * k + 1) (length - 1)
  (out.set k ((slice xs 0 (k * 2 + 1)).sum / ((k * 2 + 1 : Nat) : K))).set (length - 1 - k)
    (inner.sum / (inner.length : K))

/-- The taper loop, `for kkk in range(1, startpoint)`. -/
def taper (xs : List K) (out : List K) (startpoint : Nat) : List K :=
  (List.range' 1 (startpoint - 1)).foldl (taperStep xs) out

/-- `fastsmooth(input_array, smoothwidth)`; `none` is the `IndexError` of
`input_array[1]` on an array of one entry. -/
def fastsmooth (xs : List K) (smoothwidth : Nat) : Option (List K) :=
  if smoothwidth = 0 ∨ xs.length < smoothwidth then some xs
  else if xs.length < 2 then none
  else
    let width := if xs.length ≤ smoothwidth then xs.length - 1 else smoothwidth
    let halfw := halfWidth width
    let sss := (slide xs width halfw (xs.length - width)).1
    -- the loop variable keeps its last value, length - width - 1
    let sss := sss.set (xs.length - width - 1 + halfw)
      (slice xs (xs.length - width + 1) xs.length).sum
    let smoothed := sss.map (fun s => s / (width : K))
    let smoothed := smoothed.set 0 ((xs.getD 0 0 + xs.getD 1 0) / ((2 : Nat) : K))
    some (taper xs smoothed ((width + 1) / 2))

omit [Div K] [NatCast K] in
theorem length_slide (xs : List K) (width halfw n : Nat) :
    (slide xs width halfw n).1.length = xs.length := by
  unfold slide
  induction n with
  | zero => simp
  | succ n ih =>
      rw [List.range_succ, List.foldl_append]
      simpa [slideStep] using ih

omit [Sub K] in
theorem length_taper (xs out : List K) (startpoint : Nat) :
    (taper xs out startpoint).length = out.length := by
  unfold taper
  generalize List.range' 1 (startpoint - 1) = ks
  induction ks generalizing out with
  | nil => rfl
  | cons k ks ih =>
      rw [List.foldl_cons, ih]
      simp [taperStep]

theorem length_fastsmooth {xs out : List K} {smoothwidth : Nat}
    (h : fastsmooth xs smoothwidth = some out) : out.length = xs.length := by
  unfold fastsmooth at h
  split at h
  · rw [← Option.some.inj h]
  · split at h
    · exact absurd h nofun
    · rw [← Option.some.inj h]
      rw [length_taper]
      simp [length_slide]

theorem fastsmooth_isSome {xs : List K} (hlen : 2 ≤ xs.length) (smoothwidth : Nat) :
    ∃ out, fastsmooth xs smoothwidth = some out := by
  unfold fastsmooth
  split
  · exact ⟨_, rfl⟩
  · rw [if_neg (Nat.not_lt_of_le hlen)]
    exact ⟨_, rfl⟩

end Code

/-! ## Two number types -/

section Embedding

/-- A map of numbers that keeps the operations `fastsmooth` uses. -/
structure KeepsArithmetic {K L : Type} [Add K] [Sub K] [Div K] [Zero K] [NatCast K]
    [Add L] [Sub L] [Div L] [Zero L] [NatCast L] (φ : K → L) : Prop where
  add : ∀ a b, φ (a + b) = φ a + φ b
  sub : ∀ a b, φ (a - b) = φ a - φ b
  div : ∀ a b, φ (a / b) = φ a / φ b
  zero : φ 0 = 0
  natCast : ∀ n : Nat, φ n = n

variable {K L : Type} [Add K] [Sub K] [Div K] [Zero K] [NatCast K]
  [Add L] [Sub L] [Div L] [Zero L] [NatCast L] {φ : K → L}

theorem KeepsArithmetic.sum (hφ : KeepsArithmetic φ) (xs : List K) :
    (xs.map φ).sum = φ xs.sum := by
  induction xs with
  | nil => exact hφ.zero.symm
  | cons x xs ih => rw [List.map_cons, List.sum_cons, List.sum_cons, ih, hφ.add]

theorem KeepsArithmetic.getD (hφ : KeepsArithmetic φ) (xs : List K) (i : Nat) :
    (xs.map φ).getD i 0 = φ (xs.getD i 0) := by
  rw [← hφ.zero, List.getD_map]

theorem KeepsArithmetic.slide (hφ : KeepsArithmetic φ) (xs : List K) (width halfw n : Nat) :
    Retrack.slide (xs.map φ) width halfw n =
      ((Retrack.slide xs width halfw n).1.map φ, φ (Retrack.slide xs width halfw n).2) := by
  unfold Retrack.slide
  induction n with
  | zero =>
      simp only [List.range_zero, List.foldl_nil, slice_map, hφ.sum, List.length_map,
        List.map_replicate, hφ.zero]
  | succ n ih =>
      rw [List.range_succ, List.foldl_append, List.foldl_append, ih]
      simp only [List.foldl_cons, List.foldl_nil, slideStep, List.length_map, hφ.getD, hφ.sub,
        hφ.add, List.map_set]

theorem KeepsArithmetic.taper (hφ : KeepsArithmetic φ) (xs out : List K) (startpoint : Nat) :
    Retrack.taper (xs.map φ) (out.map φ) startpoint = (Retrack.taper xs out startpoint).map φ := by
  unfold Retrack.taper
  generalize List.range' 1 (startpoint - 1) = ks
  induction ks generalizing out with
  | nil => rfl
  | cons k ks ih =>
      rw [List.foldl_cons, List.foldl_cons, ← ih]
      congr 1
      simp only [taperStep, slice_map, hφ.sum, List.length_map, List.map_set, hφ.div, hφ.natCast]

/-- **Smoothing commutes with the map.** -/
theorem KeepsArithmetic.fastsmooth (hφ : KeepsArithmetic φ) (xs : List K) (smoothwidth : Nat) :
    Retrack.fastsmooth (xs.map φ) smoothwidth =
      (Retrack.fastsmooth xs smoothwidth).map (List.map φ) := by
  unfold Retrack.fastsmooth
  rw [List.length_map]
  split
  · rfl
  split
  · rfl
  -- the running sums are those of the original array, and each is divided by the same width
  simp only [Option.map_some, hφ.slide, slice_map, hφ.sum, hφ.getD, ← hφ.taper, List.map_set,
    List.map_map, Function.comp_def, hφ.div, hφ.add, hφ.natCast]

end Embedding

/-! ## The running sum -/

section RunningSum

variable {xs : List ℚ} {width halfw : Nat}

theorem slide_succ (xs : List ℚ) (width halfw n : Nat) :
    slide xs width halfw (n + 1) = slideStep xs width halfw (slide xs width halfw n) n := by
  unfold slide
  rw [List.range_succ, List.foldl_append]
  rfl

/-- `sum_points` holds the window that starts at the loop variable. -/
theorem slide_sum_points (hw : 0 < width) (n : Nat) :
    (slide xs width halfw n).2 = windowSum xs n (n + width) := by
  induction n with
  | zero =>
      show (slice xs 0 width).sum = _
      rw [sum_slice xs (Nat.zero_le width), Nat.zero_add]
  | succ n ih =>
      rw [slide_succ]
      show (slide xs width halfw n).2 - xs.getD n 0 + xs.getD (n + width) 0 = _
      rw [ih, windowSum_succ_bot xs (by omega : n < n + width)]
      rw [show n + 1 + width = n + width + 1 by omega]
      rw [windowSum_succ_top xs (by omega : n + 1 ≤ n + width)]
      ring

/-- **The running sums land `halfw - 1` slots to the right of the window's
start**, and the other slots stay zero. -/
theorem slide_getD (hw : 0 < width) (hh : 0 < halfw) {n : Nat}
    (hn : n + halfw ≤ xs.length + 1) (i : Nat) :
    (slide xs width halfw n).1.getD i 0 =
      if halfw ≤ i + 1 ∧ i + 1 < n + halfw
        then windowSum xs (i + 1 - halfw) (i + 1 - halfw + width) else 0 := by
  induction n with
  | zero =>
      rw [if_neg (by omega)]
      show (List.replicate xs.length (0 : ℚ)).getD i 0 = 0
      rw [List.getD_eq_getElem?_getD, List.getElem?_replicate]
      split <;> rfl
  | succ n ih =>
      rw [slide_succ]
      -- the index is not negative, so the store does not wrap around
      have hslot : (if n + halfw = 0 then xs.length - 1 else n + halfw - 1) = n + halfw - 1 :=
        if_neg (by omega)
      simp only [slideStep, hslot]
      rw [getD_set, length_slide, ih (by omega), slide_sum_points hw]
      by_cases hi : n + halfw - 1 = i
      · rw [if_pos ⟨hi, by omega⟩, if_pos ⟨by omega, by omega⟩]
        congr 1 <;> omega
      · rw [if_neg (fun h => hi h.1)]
        by_cases hin : halfw ≤ i + 1 ∧ i + 1 < n + halfw
        · rw [if_pos hin, if_pos ⟨hin.1, by omega⟩]
        · rw [if_neg hin, if_neg (by omega)]

end RunningSum

/-! ## The tapered ends -/

section Taper

variable {xs : List ℚ}

theorem taper_succ (xs out : List ℚ) (m : Nat) :
    taper xs out (m + 2) = taperStep xs (taper xs out (m + 1)) (m + 1) := by
  unfold taper
  rw [show m + 2 - 1 = m + 1 by omega, List.range'_1_concat, List.foldl_append]
  rw [show m + 1 - 1 = m by omega, Nat.add_comm 1 m]
  rfl

/-- The left taper writes centred windows; the right one writes the windows that
end one entry early. -/
theorem taper_getD {out : List ℚ} (hlen : out.length = xs.length) {m : Nat}
    (hm : 2 * m + 2 ≤ xs.length) (i : Nat) :
    (taper xs out (m + 1)).getD i 0 =
      if 0 < i ∧ i ≤ m then windowSum xs 0 (2 * i + 1) / ((2 * i + 1 : Nat) : ℚ)
      else if xs.length ≤ i + 1 + m ∧ i + 1 < xs.length
        then windowSum xs (2 * (i + 1) - xs.length) (xs.length - 1) /
          ((2 * (xs.length - 1 - i) - 1 : Nat) : ℚ)
      else out.getD i 0 := by
  induction m with
  | zero =>
      rw [if_neg (by omega), if_neg (by omega)]
      rfl
  | succ m ih =>
      rw [taper_succ]
      have htlen : (taper xs out (m + 1)).length = xs.length := by rw [length_taper, hlen]
      have hinner : (slice xs (xs.length - 1 - 2 * (m + 1) + 1) (xs.length - 1)).length =
          2 * (m + 1) - 1 := by
        rw [length_slice (by omega)]
        omega
      simp only [taperStep]
      rw [getD_set, getD_set, List.length_set, htlen, hinner, sum_slice xs (Nat.zero_le _),
        sum_slice xs (by omega), ih (by omega)]
      -- the pass stores on the left, then on the right, and nothing else
      by_cases hright : xs.length - 1 - (m + 1) = i
      · rw [if_pos ⟨hright, by omega⟩, if_neg (by omega), if_pos ⟨by omega, by omega⟩]
        congr 2
        · omega
        · congr 1
          omega
      · rw [if_neg (fun h => hright h.1)]
        by_cases hleft : m + 1 = i
        · rw [if_pos ⟨hleft, by omega⟩, if_pos ⟨by omega, by omega⟩, ← hleft, Nat.mul_comm]
        · rw [if_neg (fun h => hleft h.1)]
          by_cases hl : 0 < i ∧ i ≤ m
          · rw [if_pos hl, if_pos ⟨hl.1, by omega⟩]
          · have hl' : ¬ (0 < i ∧ i ≤ m + 1) := by omega
            rw [if_neg hl, if_neg hl']
            by_cases hr : xs.length ≤ i + 1 + m ∧ i + 1 < xs.length
            · rw [if_pos hr, if_pos ⟨by omega, hr.2⟩]
            · rw [if_neg hr, if_neg (by omega)]

end Taper

/-! ## The smoothed array, entry by entry -/

section Entries

variable {xs out : List ℚ} {m : Nat}

theorem halfWidth_odd (m : Nat) : halfWidth (2 * m + 1) = if m % 2 = 0 then m else m + 1 := by
  unfold halfWidth
  rw [if_neg (by omega), show (2 * m + 1) / 2 = m by omega]

/-- The array before the tapers. -/
def untapered (xs : List ℚ) (width : Nat) : List ℚ :=
  (((slide xs width (halfWidth width) (xs.length - width)).1.set
      (xs.length - width - 1 + halfWidth width)
      (slice xs (xs.length - width + 1) xs.length).sum).map (fun s => s / (width : ℚ))).set 0
    ((xs.getD 0 0 + xs.getD 1 0) / ((2 : Nat) : ℚ))

theorem length_untapered (xs : List ℚ) (width : Nat) :
    (untapered xs width).length = xs.length := by
  simp [untapered, length_slide]

theorem fastsmooth_odd (hL : 2 * m + 1 < xs.length) (hm : 0 < m) :
    fastsmooth xs (2 * m + 1) = some (taper xs (untapered xs (2 * m + 1)) (m + 1)) := by
  unfold fastsmooth
  rw [if_neg (by omega), if_neg (by omega)]
  simp only [if_neg (show ¬ xs.length ≤ 2 * m + 1 by omega)]
  rw [show (2 * m + 1 + 1) / 2 = m + 1 by omega]
  rfl

theorem untapered_zero (hL : 0 < xs.length) (width : Nat) :
    (untapered xs width).getD 0 0 = (xs.getD 0 0 + xs.getD 1 0) / 2 := by
  unfold untapered
  rw [getD_set]
  simp [length_slide, hL]

theorem getD_map_div (ys : List ℚ) (w : ℚ) (i : Nat) :
    (ys.map (fun s => s / w)).getD i 0 = ys.getD i 0 / w := by
  have h := List.getD_map ys 0 (fun s => s / w) (n := i)
  rwa [zero_div] at h

/-- Away from the first slot: the last running sum is overwritten by the sum of
one entry less, and everything is divided by the width. -/
theorem untapered_getD (hL : 2 * m + 1 < xs.length) (hm : 0 < m) {i : Nat} (hi : 0 < i) :
    (untapered xs (2 * m + 1)).getD i 0 =
      (if xs.length - (2 * m + 1) - 1 + halfWidth (2 * m + 1) = i
        then windowSum xs (xs.length - (2 * m + 1) + 1) xs.length
        else (slide xs (2 * m + 1) (halfWidth (2 * m + 1)) (xs.length - (2 * m + 1))).1.getD i 0) /
          ((2 * m + 1 : Nat) : ℚ) := by
  have hle : halfWidth (2 * m + 1) ≤ m + 1 := by
    rw [halfWidth_odd]
    split <;> omega
  unfold untapered
  rw [getD_set, if_neg (by omega), getD_map_div, getD_set, length_slide, sum_slice xs (by omega)]
  congr 1
  by_cases hlast : xs.length - (2 * m + 1) - 1 + halfWidth (2 * m + 1) = i
  · rw [if_pos ⟨hlast, by omega⟩, if_pos hlast]
  · rw [if_neg (fun h => hlast h.1), if_neg hlast]

/-- **A width of `4q + 3` puts every full window where it belongs.** -/
theorem untapered_getD_odd_half (hL : 2 * m + 1 < xs.length) (hm : m % 2 = 1) {i : Nat}
    (hi : m < i) (hi' : i + 1 + m < xs.length) :
    (untapered xs (2 * m + 1)).getD i 0 =
      windowSum xs (i - m) (i + m + 1) / ((2 * m + 1 : Nat) : ℚ) := by
  have hh : halfWidth (2 * m + 1) = m + 1 := by
    rw [halfWidth_odd, if_neg (by omega)]
  rw [untapered_getD hL (by omega) (by omega), hh, if_neg (by omega),
    slide_getD (by omega) (by omega) (by omega), if_pos ⟨by omega, by omega⟩]
  congr 2 <;> omega

/-- **A width of `4q + 1` shifts the windows**: slot `i` gets the window centred
on `i + 1`. -/
theorem untapered_getD_even_half (hL : 2 * m + 1 < xs.length) (hm : 0 < m) (hm2 : m % 2 = 0)
    {i : Nat} (hi : m < i) (hi' : i + 2 + m < xs.length) :
    (untapered xs (2 * m + 1)).getD i 0 =
      windowSum xs (i + 1 - m) (i + m + 2) / ((2 * m + 1 : Nat) : ℚ) := by
  have hh : halfWidth (2 * m + 1) = m := by
    rw [halfWidth_odd, if_pos hm2]
  rw [untapered_getD hL hm (by omega), hh, if_neg (by omega),
    slide_getD (by omega) hm (by omega), if_pos ⟨by omega, by omega⟩]
  congr 2
  omega

/-- With a width of `4q + 1` the overwritten last sum is not covered by the right
taper: it stays, a sum of `width - 1` entries divided by `width`. -/
theorem untapered_getD_last (hL : 2 * m + 1 < xs.length) (hm : 0 < m) (hm2 : m % 2 = 0)
    {i : Nat} (hi : i + 2 + m = xs.length) (hi' : 0 < i) :
    (untapered xs (2 * m + 1)).getD i 0 =
      windowSum xs (xs.length - 2 * m) xs.length / ((2 * m + 1 : Nat) : ℚ) := by
  have hh : halfWidth (2 * m + 1) = m := by
    rw [halfWidth_odd, if_pos hm2]
  rw [untapered_getD hL hm hi', hh, if_pos (by omega)]
  congr 2
  omega

end Entries

/-! ## Against the centred average -/

/-- The half-width of the centred window at `i`: `min(i, L - 1 - i, (w - 1) / 2)`. -/
def centredSpan (length w i : Nat) : Nat := min (min i (length - 1 - i)) ((w - 1) / 2)

/-- The mean of `xs[i-h..i+h]`, the tapered window centred on `i`. -/
def centredMean (xs : List ℚ) (w i : Nat) : ℚ :=
  let h := centredSpan xs.length w i
  windowSum xs (i - h) (i + h + 1) / ((2 * h + 1 : Nat) : ℚ)

/-- `fastsmooth` returns the centred sliding average with tapered ends. -/
def SmoothsCentred (xs : List ℚ) (w : Nat) : Prop :=
  ∃ out, fastsmooth xs w = some out ∧ out.getD 0 0 = (xs.getD 0 0 + xs.getD 1 0) / 2 ∧
    ∀ i, 0 < i → i + 1 < xs.length → out.getD i 0 = centredMean xs w i

/-- For each window of the right taper, the entries inside have the mean of the
two at its ends. -/
def EndBalanced (xs : List ℚ) (w : Nat) : Prop :=
  ∀ k, 0 < k → 2 * k < w →
    2 * windowSum xs (xs.length - 2 * k) (xs.length - 1) =
      ((2 * k - 1 : Nat) : ℚ) * (xs.getD (xs.length - 1 - 2 * k) 0 + xs.getD (xs.length - 1) 0)

/-- Between the tapers the array repeats itself after `w` entries, and its last
entry is the sum of the two that start the last two full windows. -/
def PeriodicBetween (xs : List ℚ) (w : Nat) : Prop :=
  (∀ j, 0 < j → j + w + 2 ≤ xs.length → xs.getD j 0 = xs.getD (j + w) 0) ∧
  xs.getD (xs.length - 1) 0 = xs.getD (xs.length - w - 1) 0 + xs.getD (xs.length - w) 0

section Centred

variable {xs : List ℚ} {m i : Nat}

theorem centredMean_left (hi : i ≤ m) (hL : 2 * m + 1 < xs.length) :
    centredMean xs (2 * m + 1) i = windowSum xs 0 (2 * i + 1) / ((2 * i + 1 : Nat) : ℚ) := by
  have hspan : centredSpan xs.length (2 * m + 1) i = i := by
    unfold centredSpan
    omega
  simp only [centredMean, hspan, Nat.sub_self]
  congr 2
  omega

theorem centredMean_middle (hi : m ≤ i) (hi' : i + 1 + m ≤ xs.length) :
    centredMean xs (2 * m + 1) i =
      windowSum xs (i - m) (i + m + 1) / ((2 * m + 1 : Nat) : ℚ) := by
  have hspan : centredSpan xs.length (2 * m + 1) i = m := by
    unfold centredSpan
    omega
  simp only [centredMean, hspan]

theorem centredMean_right {k : Nat} (hi : i + 1 + k = xs.length) (hk : k ≤ m)
    (hL : 2 * m + 1 < xs.length) :
    centredMean xs (2 * m + 1) i =
      windowSum xs (xs.length - 1 - 2 * k) xs.length / ((2 * k + 1 : Nat) : ℚ) := by
  have hspan : centredSpan xs.length (2 * m + 1) i = k := by
    unfold centredSpan
    omega
  simp only [centredMean, hspan]
  congr 2 <;> omega

/-- The short window of the right taper has the mean of the full one exactly when
the end entries do not pull the mean away. -/
theorem short_mean_eq_iff {k : Nat} (hk : 0 < k) (hL : 2 * k + 1 ≤ xs.length) :
    windowSum xs (xs.length - 2 * k) (xs.length - 1) / ((2 * k - 1 : Nat) : ℚ) =
        windowSum xs (xs.length - 1 - 2 * k) xs.length / ((2 * k + 1 : Nat) : ℚ) ↔
      2 * windowSum xs (xs.length - 2 * k) (xs.length - 1) = ((2 * k - 1 : Nat) : ℚ) *
        (xs.getD (xs.length - 1 - 2 * k) 0 + xs.getD (xs.length - 1) 0) := by
  have hfull : windowSum xs (xs.length - 1 - 2 * k) xs.length =
      xs.getD (xs.length - 1 - 2 * k) 0 +
        (windowSum xs (xs.length - 2 * k) (xs.length - 1) + xs.getD (xs.length - 1) 0) := by
    rw [windowSum_succ_bot xs (by omega), ← windowSum_succ_top xs (by omega)]
    congr 2 <;> omega
  have hpos : ((2 * k - 1 : Nat) : ℚ) ≠ 0 := by
    rw [Nat.cast_ne_zero]
    omega
  have hpos' : ((2 * k + 1 : Nat) : ℚ) ≠ 0 := Nat.cast_ne_zero.mpr (by omega)
  have hcast : ((2 * k + 1 : Nat) : ℚ) = ((2 * k - 1 : Nat) : ℚ) + 2 := by
    rw [show 2 * k + 1 = 2 * k - 1 + 2 by omega]
    push_cast
    ring
  rw [hfull, div_eq_div_iff hpos hpos', hcast]
  constructor <;> intro h <;> linarith

/-- The smoothed array, for `w = 2 * m + 1`. -/
def smoothed (xs : List ℚ) (m : Nat) : List ℚ := taper xs (untapered xs (2 * m + 1)) (m + 1)

theorem smoothed_getD (hL : 2 * m + 1 < xs.length) (i : Nat) :
    (smoothed xs m).getD i 0 =
      if 0 < i ∧ i ≤ m then windowSum xs 0 (2 * i + 1) / ((2 * i + 1 : Nat) : ℚ)
      else if xs.length ≤ i + 1 + m ∧ i + 1 < xs.length
        then windowSum xs (2 * (i + 1) - xs.length) (xs.length - 1) /
          ((2 * (xs.length - 1 - i) - 1 : Nat) : ℚ)
      else (untapered xs (2 * m + 1)).getD i 0 :=
  taper_getD (length_untapered xs (2 * m + 1)) (by omega) i

/-- The right taper is the centred average exactly when the end is balanced. -/
theorem right_taper_centred_iff (hL : 2 * m + 1 < xs.length) :
    (∀ i, xs.length ≤ i + 1 + m → i + 1 < xs.length →
        (smoothed xs m).getD i 0 = centredMean xs (2 * m + 1) i) ↔
      EndBalanced xs (2 * m + 1) := by
  have hentry : ∀ k i, 0 < k → k ≤ m → i + 1 + k = xs.length →
      ((smoothed xs m).getD i 0 = centredMean xs (2 * m + 1) i ↔
        2 * windowSum xs (xs.length - 2 * k) (xs.length - 1) = ((2 * k - 1 : Nat) : ℚ) *
          (xs.getD (xs.length - 1 - 2 * k) 0 + xs.getD (xs.length - 1) 0)) := by
    intro k i hk hkm hi
    rw [smoothed_getD hL, if_neg (by omega), if_pos ⟨by omega, by omega⟩,
      centredMean_right hi hkm hL, ← short_mean_eq_iff hk (by omega)]
    rw [show 2 * (i + 1) - xs.length = xs.length - 2 * k by omega,
      show 2 * (xs.length - 1 - i) - 1 = 2 * k - 1 by omega]
  constructor
  · intro h k hk hkm
    apply (hentry k (xs.length - 1 - k) hk (by omega) (by omega)).mp
    exact h _ (by omega) (by omega)
  · intro h i hi hi'
    apply (hentry (xs.length - 1 - i) i (by omega) (by omega) (by omega)).mpr
    exact h _ (by omega) (by omega)

theorem div_width_eq_iff (a b : ℚ) (m : Nat) :
    a / ((2 * m + 1 : Nat) : ℚ) = b / ((2 * m + 1 : Nat) : ℚ) ↔ a = b := by
  have hpos : ((2 * m + 1 : Nat) : ℚ) ≠ 0 := Nat.cast_ne_zero.mpr (by omega)
  exact div_left_inj' hpos

/-- Two windows one entry apart have the same sum exactly when the entry left
behind is the entry gained. -/
theorem shifted_window_eq_iff {a b : Nat} (hab : a < b) :
    windowSum xs (a + 1) (b + 1) = windowSum xs a b ↔ xs.getD a 0 = xs.getD b 0 := by
  rw [windowSum_succ_top xs (by omega), windowSum_succ_bot xs hab, add_comm]
  exact ⟨fun h => (add_right_cancel h).symm, fun h => by rw [h]⟩

theorem last_window_eq_iff {a b : Nat} (hab : a + 2 ≤ b) :
    windowSum xs (a + 2) (b + 1) = windowSum xs a b ↔
      xs.getD b 0 = xs.getD a 0 + xs.getD (a + 1) 0 := by
  rw [windowSum_succ_top xs hab, windowSum_succ_bot xs (by omega : a < b),
    windowSum_succ_bot xs (by omega : a + 1 < b)]
  constructor <;> intro h <;> linarith

/-- With a width of `4q + 1` the entries between the tapers are the centred
average exactly when the array is periodic there. -/
theorem middle_centred_iff (hL : 2 * m + 1 < xs.length) (hm : 0 < m) (hm2 : m % 2 = 0)
    (hL' : 2 * m + 3 ≤ xs.length) :
    (∀ i, m < i → i + 1 + m < xs.length →
        (smoothed xs m).getD i 0 = centredMean xs (2 * m + 1) i) ↔
      PeriodicBetween xs (2 * m + 1) := by
  -- a full window stands one slot to the left of its centre
  have hshift : ∀ i, m < i → i + 2 + m < xs.length →
      ((smoothed xs m).getD i 0 = centredMean xs (2 * m + 1) i ↔
        xs.getD (i - m) 0 = xs.getD (i - m + (2 * m + 1)) 0) := by
    intro i hi hi'
    rw [smoothed_getD hL, if_neg (by omega), if_neg (by omega),
      untapered_getD_even_half hL hm hm2 hi hi', centredMean_middle (by omega) (by omega),
      div_width_eq_iff, show i + 1 - m = i - m + 1 by omega, shifted_window_eq_iff (by omega),
      show i - m + (2 * m + 1) = i + m + 1 by omega]
  -- the slot before the right taper holds the sum that was stored last
  have hlast : ∀ i, i + 2 + m = xs.length →
      ((smoothed xs m).getD i 0 = centredMean xs (2 * m + 1) i ↔
        xs.getD (xs.length - 1) 0 = xs.getD (xs.length - (2 * m + 1) - 1) 0 +
          xs.getD (xs.length - (2 * m + 1)) 0) := by
    intro i hi
    rw [smoothed_getD hL, if_neg (by omega), if_neg (by omega),
      untapered_getD_last hL hm hm2 hi (by omega), centredMean_middle (by omega) (by omega),
      div_width_eq_iff, show xs.length - 2 * m = i - m + 2 by omega,
      show xs.length = i + m + 1 + 1 by omega, last_window_eq_iff (by omega)]
    rw [show i + m + 1 + 1 - 1 = i + m + 1 by omega,
      show i + m + 1 + 1 - (2 * m + 1) - 1 = i - m by omega,
      show i + m + 1 + 1 - (2 * m + 1) = i - m + 1 by omega]
  constructor
  · intro h
    refine ⟨?_, ?_⟩
    · intro j hj hj'
      have := (hshift (j + m) (by omega) (by omega)).mp (h _ (by omega) (by omega))
      rwa [Nat.add_sub_cancel] at this
    · exact (hlast (xs.length - 2 - m) (by omega)).mp (h _ (by omega) (by omega))
  · rintro ⟨hper, hend⟩ i hi hi'
    by_cases hcase : i + 2 + m = xs.length
    · exact (hlast i hcase).mpr hend
    · exact (hshift i hi (by omega)).mpr (hper _ (by omega) (by omega))

/-- With a width of `4q + 3` they always are. -/
theorem middle_centred (hL : 2 * m + 1 < xs.length) (hm2 : m % 2 = 1) (hi : m < i)
    (hi' : i + 1 + m < xs.length) :
    (smoothed xs m).getD i 0 = centredMean xs (2 * m + 1) i := by
  rw [smoothed_getD hL, if_neg (by omega), if_neg (by omega),
    untapered_getD_odd_half hL hm2 hi hi', centredMean_middle (by omega) (by omega)]

/-- The left taper always is the centred average, and the first entry the mean of
the first two. -/
theorem left_taper_centred (hL : 2 * m + 1 < xs.length) (hi : 0 < i) (him : i ≤ m) :
    (smoothed xs m).getD i 0 = centredMean xs (2 * m + 1) i := by
  rw [smoothed_getD hL, if_pos ⟨hi, him⟩, centredMean_left him hL]

theorem smoothed_zero (hL : 2 * m + 1 < xs.length) :
    (smoothed xs m).getD 0 0 = (xs.getD 0 0 + xs.getD 1 0) / 2 := by
  rw [smoothed_getD hL, if_neg (by omega), if_neg (by omega), untapered_zero (by omega)]

theorem smoothsCentred_iff_smoothed (hL : 2 * m + 1 < xs.length) (hm : 0 < m) :
    SmoothsCentred xs (2 * m + 1) ↔
      ∀ i, 0 < i → i + 1 < xs.length →
        (smoothed xs m).getD i 0 = centredMean xs (2 * m + 1) i := by
  have heq : fastsmooth xs (2 * m + 1) = some (smoothed xs m) := fastsmooth_odd hL hm
  constructor
  · rintro ⟨out, hout, -, h⟩
    rw [heq] at hout
    obtain rfl := Option.some.inj hout
    exact h
  · intro h
    exact ⟨smoothed xs m, heq, smoothed_zero hL, h⟩

end Centred

/-- **When `fastsmooth` is the centred average.** The right taper has to be
balanced; a width of `4q + 1` moreover shifts the middle by one entry, which only
a periodic array does not show. -/
theorem fastsmooth_centred_iff (xs : List ℚ) (w : Nat) (hodd : w % 2 = 1) (h3 : 3 ≤ w)
    (hL : w < xs.length) :
    SmoothsCentred xs w ↔
      EndBalanced xs w ∧ (w % 4 = 1 → w + 2 ≤ xs.length → PeriodicBetween xs w) := by
  obtain ⟨m, rfl⟩ : ∃ m, w = 2 * m + 1 := ⟨w / 2, by omega⟩
  have hm : 0 < m := by omega
  rw [smoothsCentred_iff_smoothed hL hm]
  constructor
  · intro h
    refine ⟨(right_taper_centred_iff hL).mp (fun i _ hi' => h i (by omega) hi'), ?_⟩
    intro hmod hlong
    refine (middle_centred_iff hL hm (by omega) (by omega)).mp ?_
    intro i hi hi'
    exact h i (by omega) (by omega)
  · rintro ⟨hend, hper⟩ i hi hi'
    by_cases hleft : i ≤ m
    · exact left_taper_centred hL hi hleft
    by_cases hright : xs.length ≤ i + 1 + m
    · exact (right_taper_centred_iff hL).mpr hend i hright hi'
    by_cases hm2 : m % 2 = 1
    · exact middle_centred hL hm2 (by omega) (by omega)
    · have hbetween := hper (by omega) (by omega)
      exact (middle_centred_iff hL hm (by omega) (by omega)).mpr hbetween i (by omega) (by omega)

/-- A straight line keeps its values at a width of `4q + 3`. -/
theorem fastsmooth_centred_ramp :
    SmoothsCentred [0, 1, 2, 3, 4, 5] 3 := by
  refine (fastsmooth_centred_iff [0, 1, 2, 3, 4, 5] 3 (by decide) (by decide) (by decide)).mpr
    ⟨?_, ?_⟩
  · intro k hk hk'
    obtain rfl : k = 1 := by omega
    decide +kernel
  · intro h
    exact absurd h (by decide)

/-- The width the coherence is smoothed with by default, on a constant array: the
second window from the right comes out at eight ninths. -/
theorem fastsmooth_not_centred :
    ¬ ∀ (xs : List ℚ) (w : Nat), w % 2 = 1 → 3 ≤ w → w < xs.length → SmoothsCentred xs w := by
  intro h
  obtain ⟨out, hout, -, hmean⟩ := h (List.replicate 11 1) 9 (by decide) (by decide) (by decide)
  have hval : (fastsmooth (List.replicate 11 (1 : ℚ)) 9).map (fun o => o.getD 5 0) = some (8 / 9) := by
    decide +kernel
  have hcent : centredMean (List.replicate 11 1) 9 5 = 1 := by
    decide +kernel
  rw [hout, Option.map_some, hmean 5 (by decide) (by decide), hcent] at hval
  exact absurd hval (by decide +kernel)

end Clev2er.Retrack
