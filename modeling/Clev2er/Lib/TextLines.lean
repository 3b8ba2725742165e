import Mathlib.Data.List.Basic

/-!
# Text files and their lines

A text is a list of characters, each with a stamp of any type `τ`; stamps follow
their characters through every operation, and no operation looks at them. Reading
in text mode turns each `\r\n` and each other `\r` into a newline (`translate`);
`readlines` then cuts after each newline. `writeAt` is a write at an offset: it
overwrites what is there, and fills up with zero characters where nothing is.

The texts a log is made of end in a newline (`Closed`), and over such texts
`readlines` distributes (`readlines_append`).
-/

namespace Clev2er.Lib

variable {τ : Type}

/-- A text whose characters carry stamps. -/
abbrev Text (τ : Type) := List (Char × τ)

/-! ## Newlines -/

/-- The newline translation of text mode. -/
def translate : Text τ → Text τ
  | [] => []
  | u :: rest =>
      if u.1 = '\r' then
        if rest.head?.map Prod.fst = some '\n' then translate rest
        else ('\n', u.2) :: translate rest
      else u :: translate rest

/-- The text cut after each newline. -/
def splitLines : Text τ → List (Text τ)
  | [] => []
  | u :: rest =>
      if u.1 = '\n' then [u] :: splitLines rest
      else match splitLines rest with
        | [] => [[u]]
        | line :: lines => (u :: line) :: lines

/-- `file.readlines()`. -/
def readlines (t : Text τ) : List (Text τ) := splitLines (translate t)

/-- The text is empty or ends in a newline. -/
def Closed : Text τ → Prop
  | [] => True
  | [u] => u.1 = '\n'
  | _ :: v :: rest => Closed (v :: rest)

/-- A line: one newline, at its end. -/
def IsLine (line : Text τ) : Prop :=
  ∃ body u, line = body ++ [u] ∧ u.1 = '\n' ∧ ∀ v ∈ body, v.1 ≠ '\n'

theorem Closed.tail {u : Char × τ} {rest : Text τ} (h : Closed (u :: rest)) : Closed rest := by
  cases rest with
  | nil => trivial
  | cons v rest => exact h

theorem Closed.cons {t : Text τ} (h : Closed t) (hne : t ≠ []) (u : Char × τ) :
    Closed (u :: t) := by
  cases t with
  | nil => exact absurd rfl hne
  | cons v t => exact h

theorem closed_append_newline (body : Text τ) {u : Char × τ} (hu : u.1 = '\n') :
    Closed (body ++ [u]) := by
  induction body with
  | nil => exact hu
  | cons v body ih =>
      cases body with
      | nil => exact hu
      | cons w body => exact ih

theorem Closed.append {a b : Text τ} (ha : Closed a) (hb : Closed b) : Closed (a ++ b) := by
  induction a with
  | nil => exact hb
  | cons u a ih =>
      cases a with
      | nil =>
          cases b with
          | nil => exact ha
          | cons v b => exact hb
      | cons v a => exact ih ha

theorem closed_flatten {ts : List (Text τ)} (h : ∀ t ∈ ts, Closed t) : Closed ts.flatten := by
  induction ts with
  | nil => trivial
  | cons t ts ih =>
      rw [List.flatten_cons]
      exact (h t List.mem_cons_self).append (ih (fun t' ht => h t' (List.mem_cons_of_mem _ ht)))

theorem IsLine.closed {line : Text τ} (h : IsLine line) : Closed line := by
  obtain ⟨body, u, rfl, hu, -⟩ := h
  exact closed_append_newline body hu

theorem IsLine.ne_nil {line : Text τ} (h : IsLine line) : line ≠ [] := by
  obtain ⟨body, u, rfl, -, -⟩ := h
  simp

/-! ## Translation -/

/-- No carriage return is left. -/
theorem translate_no_cr : ∀ (t : Text τ), ∀ u ∈ translate t, u.1 ≠ '\r'
  | [], u, hu => by cases hu
  | v :: rest, u, hu => by
      rw [translate] at hu
      split at hu
      · split at hu
        · exact translate_no_cr rest u hu
        · rcases List.mem_cons.mp hu with rfl | hu
          · exact (by decide : '\n' ≠ '\r')
          · exact translate_no_cr rest u hu
      · next hv =>
        rcases List.mem_cons.mp hu with rfl | hu
        · exact hv
        · exact translate_no_cr rest u hu

theorem translate_of_no_cr : ∀ {t : Text τ}, (∀ u ∈ t, u.1 ≠ '\r') → translate t = t
  | [], _ => rfl
  | u :: rest, h => by
      rw [translate, if_neg (h u List.mem_cons_self),
        translate_of_no_cr (fun v hv => h v (List.mem_cons_of_mem _ hv))]

/-- Translation keeps the stamps. -/
theorem translate_stamp {p : τ → Prop} : ∀ {t : Text τ}, (∀ u ∈ t, p u.2) →
    ∀ u ∈ translate t, p u.2
  | [], _, u, hu => by cases hu
  | v :: rest, h, u, hu => by
      have hrest : ∀ w ∈ rest, p w.2 := fun w hw => h w (List.mem_cons_of_mem _ hw)
      rw [translate] at hu
      split at hu
      · split at hu
        · exact translate_stamp hrest u hu
        · rcases List.mem_cons.mp hu with rfl | hu
          · exact h v List.mem_cons_self
          · exact translate_stamp hrest u hu
      · rcases List.mem_cons.mp hu with rfl | hu
        · exact h u List.mem_cons_self
        · exact translate_stamp hrest u hu

theorem translate_append : ∀ {a : Text τ}, Closed a → ∀ b : Text τ,
    translate (a ++ b) = translate a ++ translate b
  | [], _, b => rfl
  | u :: rest, ha, b => by
      have ih := translate_append ha.tail b
      rw [List.cons_append, translate, translate, ih]
      by_cases hu : u.1 = '\r'
      · cases rest with
        | nil =>
            have hnl : u.1 = '\n' := ha
            exact absurd (hnl.symm.trans hu) (by decide)
        | cons v rest =>
            have hhead : (v :: rest ++ b).head? = (v :: rest).head? := rfl
            rw [if_pos hu, if_pos hu, hhead]
            by_cases hv : (v :: rest).head?.map Prod.fst = some '\n'
            · rw [if_pos hv, if_pos hv]
            · rw [if_neg hv, if_neg hv, List.cons_append]
      · rw [if_neg hu, if_neg hu, List.cons_append]

theorem translate_ne_nil : ∀ (u : Char × τ) (rest : Text τ), translate (u :: rest) ≠ []
  | u, [] => by
      rw [translate]
      split <;> simp [translate]
  | u, v :: rest => by
      rw [translate]
      split
      · split
        · exact translate_ne_nil v rest
        · simp
      · simp

theorem closed_translate : ∀ {t : Text τ}, Closed t → Closed (translate t)
  | [], _ => trivial
  | [u], h => by
      have hu : u.1 = '\n' := h
      have hne : ¬ u.1 = '\r' := by
        rw [hu]
        decide
      rw [translate, if_neg hne]
      exact h
  | u :: v :: rest, h => by
      have ih : Closed (translate (v :: rest)) := closed_translate h
      have hne : translate (v :: rest) ≠ [] := translate_ne_nil v rest
      rw [translate]
      split
      · split
        · exact ih
        · exact ih.cons hne _
      · exact ih.cons hne _

/-! ## Lines -/

@[simp] theorem flatten_splitLines : ∀ t : Text τ, (splitLines t).flatten = t
  | [] => rfl
  | u :: rest => by
      have ih := flatten_splitLines rest
      rw [splitLines]
      split
      · rw [List.flatten_cons, ih]
        rfl
      · split
        · next hnil =>
          rw [hnil] at ih
          rw [← ih]
          rfl
        · next line lines hcons =>
          rw [hcons] at ih
          rw [List.flatten_cons, List.cons_append, ← List.flatten_cons, ih]

theorem splitLines_eq_nil {t : Text τ} (h : splitLines t = []) : t = [] := by
  have hflat := flatten_splitLines t
  rw [h] at hflat
  exact hflat.symm

theorem splitLines_append : ∀ {a : Text τ}, Closed a → ∀ b : Text τ,
    splitLines (a ++ b) = splitLines a ++ splitLines b
  | [], _, b => rfl
  | u :: rest, ha, b => by
      have ih := splitLines_append ha.tail b
      rw [List.cons_append, splitLines, splitLines, ih]
      by_cases hu : u.1 = '\n'
      · rw [if_pos hu, if_pos hu, List.cons_append]
      · rw [if_neg hu, if_neg hu]
        cases hrest : splitLines rest with
        | nil =>
            obtain rfl := splitLines_eq_nil hrest
            exact absurd ha hu
        | cons line lines => rfl

/-- The lines of a closed text are closed by their newlines. -/
theorem splitLines_isLine : ∀ {t : Text τ}, Closed t → ∀ line ∈ splitLines t, IsLine line
  | [], _, line, h => by cases h
  | u :: rest, ht, line, h => by
      have ih := splitLines_isLine ht.tail
      rw [splitLines] at h
      split at h
      · next hu =>
        rcases List.mem_cons.mp h with rfl | h
        · exact ⟨[], u, rfl, hu, by simp⟩
        · exact ih line h
      · next hu =>
        split at h
        · next hnil =>
          obtain rfl := splitLines_eq_nil hnil
          exact absurd ht hu
        · next first lines hcons =>
          rw [hcons] at ih
          rcases List.mem_cons.mp h with rfl | h
          · obtain ⟨body, v, rfl, hv, hbody⟩ := ih first List.mem_cons_self
            refine ⟨u :: body, v, rfl, hv, ?_⟩
            intro w hw
            rcases List.mem_cons.mp hw with rfl | hw
            · exact hu
            · exact hbody w hw
          · exact ih line (List.mem_cons_of_mem _ h)

theorem splitLines_line : ∀ {line : Text τ}, IsLine line → splitLines line = [line] := by
  rintro line ⟨body, u, rfl, hu, hbody⟩
  induction body with
  | nil => simp [splitLines, hu]
  | cons v body ih =>
      have hv : ¬ v.1 = '\n' := hbody v List.mem_cons_self
      rw [List.cons_append, splitLines, if_neg hv,
        ih (fun w hw => hbody w (List.mem_cons_of_mem _ hw))]

theorem splitLines_flatten {lines : List (Text τ)} (h : ∀ line ∈ lines, IsLine line) :
    splitLines lines.flatten = lines := by
  induction lines with
  | nil => rfl
  | cons line lines ih =>
      have hline := h line List.mem_cons_self
      rw [List.flatten_cons, splitLines_append hline.closed, splitLines_line hline,
        ih (fun l hl => h l (List.mem_cons_of_mem _ hl))]
      rfl

/-! ## Reading -/

theorem readlines_append {a : Text τ} (ha : Closed a) (b : Text τ) :
    readlines (a ++ b) = readlines a ++ readlines b := by
  unfold readlines
  rw [translate_append ha, splitLines_append (closed_translate ha)]

theorem readlines_flatten_map {ι : Type} (f : ι → Text τ) (hf : ∀ i, Closed (f i)) :
    ∀ is : List ι, readlines (is.flatMap f) = is.flatMap (fun i => readlines (f i))
  | [] => rfl
  | i :: is => by
      rw [List.flatMap_cons, List.flatMap_cons, readlines_append (hf i),
        readlines_flatten_map f hf is]

theorem readlines_isLine {t : Text τ} (ht : Closed t) : ∀ line ∈ readlines t, IsLine line :=
  splitLines_isLine (closed_translate ht)

theorem readlines_no_cr (t : Text τ) : ∀ line ∈ readlines t, ∀ u ∈ line, u.1 ≠ '\r' := by
  intro line hline u hu
  apply translate_no_cr t
  rw [← flatten_splitLines (translate t)]
  exact List.mem_flatten.mpr ⟨line, hline, hu⟩

theorem readlines_stamp {p : τ → Prop} {t : Text τ} (h : ∀ u ∈ t, p u.2) :
    ∀ line ∈ readlines t, ∀ u ∈ line, p u.2 := by
  intro line hline u hu
  apply translate_stamp h
  rw [← flatten_splitLines (translate t)]
  exact List.mem_flatten.mpr ⟨line, hline, hu⟩

@[simp] theorem flatten_readlines (t : Text τ) : (readlines t).flatten = translate t :=
  flatten_splitLines (translate t)

@[simp] theorem readlines_translate (t : Text τ) : readlines (translate t) = readlines t := by
  unfold readlines
  rw [translate_of_no_cr (translate_no_cr t)]

theorem splitLines_start {pre t : Text τ} (hpre : ∀ u ∈ pre, u.1 ≠ '\n') (ht : t ≠ []) :
    ∃ line lines, splitLines (pre ++ t) = (pre ++ line) :: lines := by
  induction pre with
  | nil =>
      cases hs : splitLines t with
      | nil => exact absurd (splitLines_eq_nil hs) ht
      | cons line lines => exact ⟨line, lines, hs⟩
  | cons u pre ih =>
      obtain ⟨line, lines, hs⟩ := ih (fun v hv => hpre v (List.mem_cons_of_mem _ hv))
      refine ⟨line, lines, ?_⟩
      rw [List.cons_append, splitLines, if_neg (hpre u List.mem_cons_self), hs]
      rfl

/-- A beginning without newlines is the beginning of the first line. -/
theorem readlines_start {pre t : Text τ} (hnl : ∀ u ∈ pre, u.1 ≠ '\n')
    (hcr : ∀ u ∈ pre, u.1 ≠ '\r') (ht : t ≠ []) :
    ∃ line lines, readlines (pre ++ t) = (pre ++ line) :: lines := by
  have htrans : translate (pre ++ t) = pre ++ translate t := by
    clear hnl
    induction pre with
    | nil => rfl
    | cons u pre ih =>
        rw [List.cons_append, translate, if_neg (hcr u List.mem_cons_self),
          ih (fun v hv => hcr v (List.mem_cons_of_mem _ hv))]
        rfl
  have hne : translate t ≠ [] := by
    cases t with
    | nil => exact absurd rfl ht
    | cons u t => exact translate_ne_nil u t
  unfold readlines
  rw [htrans]
  exact splitLines_start hnl hne

/-- Lines that were read once are read back as they are. -/
theorem readlines_flatten {lines : List (Text τ)} (hline : ∀ line ∈ lines, IsLine line)
    (hcr : ∀ line ∈ lines, ∀ u ∈ line, u.1 ≠ '\r') : readlines lines.flatten = lines := by
  have hflat : ∀ u ∈ lines.flatten, u.1 ≠ '\r' := by
    intro u hu
    obtain ⟨line, hmem, hu⟩ := List.mem_flatten.mp hu
    exact hcr line hmem u hu
  unfold readlines
  rw [translate_of_no_cr hflat, splitLines_flatten hline]

/-! ## Writing at an offset -/

/-- A write at an offset; `pad` stamps the zero characters of a gap. -/
def writeAt (pad : τ) (content : Text τ) (offset : Nat) (text : Text τ) : Text τ :=
  content.take offset ++ List.replicate (offset - content.length) ('\x00', pad) ++ text ++
    content.drop (offset + text.length)

/-- A write at the end appends. -/
theorem writeAt_end (pad : τ) (content text : Text τ) :
    writeAt pad content content.length text = content ++ text := by
  simp [writeAt]

/-- A write past a beginning leaves the beginning alone. -/
theorem writeAt_append (pad : τ) (a b text : Text τ) {offset : Nat} (h : a.length ≤ offset) :
    writeAt pad (a ++ b) offset text = a ++ writeAt pad b (offset - a.length) text := by
  unfold writeAt
  rw [List.take_append, List.take_of_length_le h, List.length_append, List.drop_append,
    List.drop_eq_nil_of_le (by omega), List.nil_append]
  have hgap : offset - (a.length + b.length) = offset - a.length - b.length := by omega
  have hdrop : offset + text.length - a.length = offset - a.length + text.length := by omega
  rw [hgap, hdrop]
  simp only [List.append_assoc]

theorem writeAt_stamp {p : τ → Prop} {pad : τ} (hpad : p pad) {content text : Text τ}
    (hc : ∀ u ∈ content, p u.2) (ht : ∀ u ∈ text, p u.2) (offset : Nat) :
    ∀ u ∈ writeAt pad content offset text, p u.2 := by
  intro u hu
  unfold writeAt at hu
  rcases List.mem_append.mp hu with hu | hu
  · rcases List.mem_append.mp hu with hu | hu
    · rcases List.mem_append.mp hu with hu | hu
      · exact hc u (List.mem_of_mem_take hu)
      · rw [List.eq_of_mem_replicate hu]
        exact hpad
    · exact ht u hu
  · exact hc u (List.mem_of_mem_drop hu)

end Clev2er.Lib
