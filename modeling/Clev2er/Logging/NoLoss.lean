import Clev2er.Logging.MpFiles

/-!
# When no record is lost

A `.mp` file that is merged once the logger has written all its records brings
every record into the main log, and what the main process logs later keeps them
there where it starts behind them (`Safe`). `StepOk` says what each step of the
main process relies on for that. Nothing in the program brings it about: the main
process neither waits for the logger nor moves its own offset behind what it has
inserted.
-/

namespace Clev2er.Logging

open Clev2er.Lib

/-! ## Logs that keep their records -/

/-- A text that belongs to no record. -/
def Unstamped (log : Log) : Prop := ∀ u ∈ log, u.2 = none

theorem mainLine_unstamped (body : List Char) : Unstamped (mainLine body) := by
  intro u hu
  obtain ⟨c, -, rfl⟩ := List.mem_map.mp hu
  rfl

theorem Unstamped.readlines {log : Log} (h : Unstamped log) :
    ∀ line ∈ readlines log, Unstamped line :=
  readlines_stamp (p := fun stamp => stamp = none) h

theorem filter_touches_unstamped {lines : List Log} (h : ∀ line ∈ lines, Unstamped line)
    (id : Nat) : lines.filter (touches id) = [] := by
  rw [List.filter_eq_nil_iff]
  intro line hline htouch
  obtain ⟨u, hu, hid⟩ := List.any_eq_true.mp htouch
  rw [h line hline u hu] at hid
  simp at hid

/-- The log has the records, each once, in a part that ends by `bound` and at a
line's end; the rest belongs to the main process. -/
def Safe (es : List Entry) (log : Log) (bound : Nat) : Prop :=
  ∃ a b, log = a ++ b ∧ Closed a ∧ a.length ≤ bound ∧ Unstamped b ∧ ∀ e ∈ es, OccursOnce e a

/-- The main process may log behind the records. -/
theorem Safe.writeAt {es : List Entry} {log : Log} {bound bound' offset : Nat}
    (h : Safe es log bound) (hoffset : bound ≤ offset) (hbound : bound ≤ bound')
    (body : List Char) : Safe es (writeAt none log offset (mainLine body)) bound' := by
  obtain ⟨a, b, rfl, hclosed, hle, hb, honce⟩ := h
  refine ⟨a, _, writeAt_append none a b _ (hle.trans hoffset), hclosed, hle.trans hbound, ?_,
    honce⟩
  exact writeAt_stamp (p := fun stamp => stamp = none) rfl hb (mainLine_unstamped body) _

/-- A log made of lines of the main process and, once, the lines of the records. -/
theorem occursOnce_of_lines {es : List Entry} (hdistinct : (es.map Entry.id).Nodup)
    {log : Log} {own recorded : List Log} (hlog : readlines log = own ++ recorded)
    (hown : ∀ line ∈ own, Unstamped line) (hrecorded : recorded.Perm (es.flatMap Entry.lines))
    {e : Entry} (he : e ∈ es) : OccursOnce e log := by
  unfold OccursOnce
  rw [hlog, List.filter_append, filter_touches_unstamped hown, List.nil_append]
  have hfilter := hrecorded.filter (touches e.id)
  rw [filter_touches_flatMap hdistinct he] at hfilter
  exact hfilter

/-! ## Inserting after the marker -/

/-- The lines up to the first that has the marker. -/
def throughMarker : List Log → List Log
  | [] => []
  | line :: lines => if hasMarker line then [line] else line :: throughMarker lines

theorem insertLines_no_marker {t : Log} : ∀ {lines : List Log},
    lines.countP hasMarker = 0 → insertLines t lines = lines
  | [], _ => rfl
  | line :: lines, h => by
      rw [List.countP_cons] at h
      have hline : ¬ hasMarker line = true := by
        intro hmark
        rw [if_pos hmark] at h
        omega
      rw [insertLines, if_neg hline, insertLines_no_marker (by omega)]

theorem insertLines_once {t : Log} : ∀ {lines : List Log}, lines.countP hasMarker = 1 →
    ∃ rest, lines = throughMarker lines ++ rest ∧
      insertLines t lines = throughMarker lines ++ t :: rest
  | [], h => by simp at h
  | line :: lines, h => by
      rw [List.countP_cons] at h
      by_cases hmark : hasMarker line = true
      · rw [if_pos hmark] at h
        refine ⟨lines, ?_, ?_⟩
        · rw [throughMarker, if_pos hmark]
          rfl
        · rw [throughMarker, insertLines, if_pos hmark, if_pos hmark,
            insertLines_no_marker (by omega)]
          rfl
      · rw [if_neg hmark] at h
        obtain ⟨rest, hlines, hinsert⟩ := insertLines_once (t := t) h
        refine ⟨rest, ?_, ?_⟩
        · rw [throughMarker, if_neg hmark, List.cons_append, ← hlines]
        · rw [throughMarker, insertLines, if_neg hmark, if_neg hmark, hinsert]
          rfl

theorem insertLines_nil_flatten : ∀ lines : List Log,
    (insertLines [] lines).flatten = lines.flatten
  | [] => rfl
  | line :: lines => by
      rw [insertLines]
      split
      · simp [insertLines_nil_flatten lines]
      · simp [insertLines_nil_flatten lines]

/-- Nothing to insert: there is no record of that level. -/
theorem safe_insert_nothing {es : List Entry} {log c : Log} (hstamp : Unstamped log)
    (hlines : (readlines c).Perm (es.flatMap Entry.lines)) (hempty : translate c = [])
    (bound : Nat) : Safe es (insertLines (translate c) (readlines log)).flatten bound := by
  have hnone : es = [] := by
    have hread : readlines c = [] := by
      rw [← readlines_translate, hempty]
      rfl
    rw [hread] at hlines
    have hflat := List.nil_perm.mp hlines
    rw [List.flatMap_eq_nil_iff] at hflat
    rw [List.eq_nil_iff_forall_not_mem]
    intro e he
    exact e.lines_ne_nil (hflat e he)
  refine ⟨[], _, rfl, trivial, Nat.zero_le _, ?_, ?_⟩
  · rw [hempty, insertLines_nil_flatten]
    intro u hu
    obtain ⟨line, hline, hu⟩ := List.mem_flatten.mp hu
    exact hstamp.readlines line hline u hu
  · rw [hnone]
    intro e he
    cases he

/-- The records go in once, and end by `bound` where there is room for them. -/
theorem safe_insert_once {es : List Entry} (hdistinct : (es.map Entry.id).Nodup) {log c : Log}
    (hstamp : Unstamped log) (hclosed : Closed log) (hcclosed : Closed c)
    (hlines : (readlines c).Perm (es.flatMap Entry.lines))
    (honce : (readlines log).countP hasMarker = 1) {bound : Nat}
    (hroom : (throughMarker (readlines log)).flatten.length + (translate c).length ≤ bound) :
    Safe es (insertLines (translate c) (readlines log)).flatten bound := by
  obtain ⟨post, hsplit, hinsert⟩ := insertLines_once (t := translate c) honce
  have hthrough : ∀ line ∈ throughMarker (readlines log), line ∈ readlines log := by
    intro line hline
    rw [hsplit]
    exact List.mem_append_left _ hline
  have hpost : ∀ line ∈ post, line ∈ readlines log := by
    intro line hline
    rw [hsplit]
    exact List.mem_append_right _ hline
  have hthrough_closed : Closed (throughMarker (readlines log)).flatten := by
    apply closed_flatten
    intro line hline
    exact (readlines_isLine hclosed line (hthrough line hline)).closed
  -- the safe part ends with the inserted text
  refine ⟨(throughMarker (readlines log)).flatten ++ translate c, post.flatten, ?_, ?_, ?_, ?_,
    ?_⟩
  · rw [hinsert, List.flatten_append, List.flatten_cons, List.append_assoc]
  · exact hthrough_closed.append (closed_translate hcclosed)
  · rw [List.length_append]
    exact hroom
  · intro u hu
    obtain ⟨line, hline, hu⟩ := List.mem_flatten.mp hu
    exact hstamp.readlines line (hpost line hline) u hu
  · intro e he
    have hread : readlines ((throughMarker (readlines log)).flatten ++ translate c) =
        throughMarker (readlines log) ++ readlines c := by
      rw [readlines_append hthrough_closed, readlines_translate, readlines_flatten]
      · intro line hline
        exact readlines_isLine hclosed line (hthrough line hline)
      · intro line hline
        exact readlines_no_cr log line (hthrough line hline)
    apply occursOnce_of_lines hdistinct hread _ hlines he
    intro line hline
    exact hstamp.readlines line (hthrough line hline)

/-! ## What the steps rely on -/

/-- The logger has written every record of the file. -/
def State.Written (s : State) (f : MpLog) : Prop := f ∉ s.opening ∧ s.unwritten f = []

/-- A `.mp` file can be sorted: it exists; and where the logger has still to write
to it, sorting leaves its length. -/
def SortOk (s : State) (f : MpLog) : Prop :=
  ∃ c ∈ (s.mp f).content,
    f ∈ s.opening ∨ s.unwritten f = [] ∨ (translate c).length = c.length

/-- The info log of the children can be inserted: all of it is there, the marker
is in one line, and the main process's own next write goes behind what is
inserted. -/
def InsertOk (s : State) : Prop :=
  s.Written .info ∧ ∀ c ∈ (s.mp .info).content, translate c = [] ∨
    ((readlines s.infoLog).countP hasMarker = 1 ∧
      (throughMarker (readlines s.infoLog)).flatten.length + (translate c).length ≤ s.infoOffset)

/-- What a step relies on in the state before it. -/
def StepOk (s : State) : Step → Prop
  | .child _ => True
  | .logger => True
  | .main =>
      match s.main with
      | .sort f :: _ => SortOk s f
      | .insertInfo :: _ => InsertOk s
      | .appendErrors :: _ => s.Written .errors
      | _ => True
  | .removeFails _ => s.errorLog.length ≤ s.errorOffset

/-- Every step of a run meets its condition. -/
def RunOk (key : List Char → Nat) : State → List Step → Prop
  | _, [] => True
  | s, st :: steps => StepOk s st ∧
      match step key s st with
      | none => True
      | some s' => RunOk key s' steps

instance SortOk.decidable (s : State) (f : MpLog) : Decidable (SortOk s f) :=
  match h : (s.mp f).content with
  | none => .isFalse (by simp [SortOk, h])
  | some c => decidable_of_iff
      (f ∈ s.opening ∨ s.unwritten f = [] ∨ (translate c).length = c.length) (by simp [SortOk, h])

instance InsertOk.decidable (s : State) : Decidable (InsertOk s) :=
  inferInstanceAs (Decidable ((_ ∧ _) ∧ _))

instance StepOk.decidable (s : State) : ∀ st, Decidable (StepOk s st)
  | .child _ => .isTrue trivial
  | .logger => .isTrue trivial
  | .main =>
      match h : s.main with
      | .sort f :: _ => decidable_of_iff (SortOk s f) (by simp [StepOk, h])
      | .insertInfo :: _ => decidable_of_iff (InsertOk s) (by simp [StepOk, h])
      | .appendErrors :: _ => decidable_of_iff (_ ∧ _) (by simp [StepOk, h]; rfl)
      | .logInfo _ :: _ => .isTrue (by simp [StepOk, h])
      | .putNone :: _ => .isTrue (by simp [StepOk, h])
      | .remove _ :: _ => .isTrue (by simp [StepOk, h])
      | [] => .isTrue (by simp [StepOk, h])
  | .removeFails _ => inferInstanceAs (Decidable (_ ≤ _))

instance RunOk.decidable (key : List Char → Nat) : ∀ s steps, Decidable (RunOk key s steps)
  | _, [] => .isTrue trivial
  | s, st :: steps =>
      have : Decidable (match step key s st with
          | none => True
          | some s' => RunOk key s' steps) :=
        match step key s st with
        | none => .isTrue trivial
        | some s' => RunOk.decidable key s' steps
      inferInstanceAs (Decidable (StepOk s st ∧ _))

/-! ## The invariant -/

/-- The order of the main process's steps that the invariant needs: the merges
come once, in their order, and before the removals. -/
def MainOp.rank : MainOp → Nat
  | .logInfo _ => 0
  | .putNone => 1
  | .sort _ => 2
  | .insertInfo => 3
  | .appendErrors => 4
  | .remove _ => 5

def MainOp.InOrder (a b : MainOp) : Prop :=
  b = .insertInfo ∨ b = .appendErrors → a.rank < b.rank

/-- Before its merge, the main info log has only lines of the main process, which
writes at its end, and the `.mp` file is accounted for. -/
def InfoBefore (entries : List Entry) (s : State) : Prop :=
  FileInv entries s .info ∧ Unstamped s.infoLog ∧ Closed s.infoLog ∧
    s.infoOffset = s.infoLog.length

/-- After it, the log is safe up to where the main process writes. -/
def InfoAfter (entries : List Entry) (s : State) : Prop :=
  Safe (entries.filter (MpLog.accepts .info)) s.infoLog s.infoOffset

def ErrorsBefore (entries : List Entry) (s : State) : Prop :=
  FileInv entries s .errors ∧ Unstamped s.errorLog ∧ Closed s.errorLog

def ErrorsAfter (entries : List Entry) (s : State) : Prop :=
  Safe (entries.filter (MpLog.accepts .errors)) s.errorLog s.errorLog.length

/-- The state of both logs. -/
structure Inv (entries : List Entry) (s : State) : Prop where
  order : s.main.Pairwise MainOp.InOrder
  opening : s.opening.Nodup
  info_before : .insertInfo ∈ s.main → InfoBefore entries s
  info_after : .insertInfo ∉ s.main → InfoAfter entries s
  errors_before : .appendErrors ∈ s.main → ErrorsBefore entries s
  errors_after : .appendErrors ∉ s.main → ErrorsAfter entries s

section Steps

variable {entries : List Entry} {s s' : State} {key : List Char → Nat}

/-- Steps of the other processes. -/
theorem Inv.other (h : Inv entries s) (hmain : s'.main = s.main) (hopening : s'.opening.Nodup)
    (hfile : ∀ f, FileInv entries s f → FileInv entries s' f) (hinfo : s'.infoLog = s.infoLog)
    (hoffset : s'.infoOffset = s.infoOffset) (herror : s'.errorLog = s.errorLog) :
    Inv entries s' := by
  constructor
  · rw [hmain]
    exact h.order
  · exact hopening
  · intro hmem
    obtain ⟨hf, hlog⟩ := h.info_before (hmain ▸ hmem)
    refine ⟨hfile .info hf, ?_⟩
    rw [hinfo, hoffset]
    exact hlog
  · intro hmem
    unfold InfoAfter
    rw [hinfo, hoffset]
    exact h.info_after (hmain ▸ hmem)
  · intro hmem
    obtain ⟨hf, hlog⟩ := h.errors_before (hmain ▸ hmem)
    refine ⟨hfile .errors hf, ?_⟩
    rw [herror]
    exact hlog
  · intro hmem
    unfold ErrorsAfter
    rw [herror]
    exact h.errors_after (hmain ▸ hmem)

/-- Steps of the main process that are no merge. -/
theorem Inv.pop {op : MainOp} {rest : List MainOp} (h : Inv entries s)
    (hmain : s.main = op :: rest) (hmain' : s'.main = rest) (hopening : s'.opening = s.opening)
    (hinsert : op ≠ .insertInfo) (happend : op ≠ .appendErrors)
    (hinfo : .insertInfo ∈ rest → InfoBefore entries s → InfoBefore entries s')
    (hinfo' : InfoAfter entries s → InfoAfter entries s')
    (herrors : .appendErrors ∈ rest → ErrorsBefore entries s → ErrorsBefore entries s')
    (herrors' : ErrorsAfter entries s → ErrorsAfter entries s') : Inv entries s' := by
  have horder := h.order
  rw [hmain, List.pairwise_cons] at horder
  constructor
  · rw [hmain']
    exact horder.2
  · rw [hopening]
    exact h.opening
  · intro hmem
    rw [hmain'] at hmem
    apply hinfo hmem
    apply h.info_before
    rw [hmain]
    exact List.mem_cons_of_mem _ hmem
  · intro hmem
    apply hinfo'
    apply h.info_after
    rw [hmain, List.mem_cons, not_or]
    exact ⟨Ne.symm hinsert, hmain' ▸ hmem⟩
  · intro hmem
    rw [hmain'] at hmem
    apply herrors hmem
    apply h.errors_before
    rw [hmain]
    exact List.mem_cons_of_mem _ hmem
  · intro hmem
    apply herrors'
    apply h.errors_after
    rw [hmain, List.mem_cons, not_or]
    exact ⟨Ne.symm happend, hmain' ▸ hmem⟩

theorem InfoBefore.logInfo (h : InfoBefore entries s) (body : List Char) (rest : List MainOp) :
    InfoBefore entries { logInfo s body with main := rest } := by
  obtain ⟨hf, hstamp, hclosed, hoffset⟩ := h
  have happend : writeAt none s.infoLog s.infoOffset (mainLine body) =
      s.infoLog ++ mainLine body := by
    rw [hoffset]
    exact writeAt_end none _ _
  refine ⟨?_, ?_, ?_, ?_⟩
  · exact hf.same rfl rfl rfl
  · show Unstamped (writeAt none s.infoLog s.infoOffset (mainLine body))
    rw [happend]
    intro u hu
    rcases List.mem_append.mp hu with hu | hu
    · exact hstamp u hu
    · exact mainLine_unstamped body u hu
  · show Closed (writeAt none s.infoLog s.infoOffset (mainLine body))
    rw [happend]
    exact hclosed.append (mainLine_closed body)
  · show s.infoOffset + _ = (writeAt none s.infoLog s.infoOffset (mainLine body)).length
    rw [happend, hoffset, List.length_append]

theorem InfoAfter.logInfo (h : InfoAfter entries s) (body : List Char) :
    InfoAfter entries (logInfo s body) :=
  h.writeAt (Nat.le_refl _) (Nat.le_add_right _ _) body

/-- A file that the logger has written holds the lines of its records. -/
theorem FileInv.lines_of_written {f : MpLog} (h : FileInv entries s f) (hw : s.Written f) :
    ∃ c, (s.mp f).content = some c ∧ Closed c ∧
      (readlines c).Perm ((entries.filter f.accepts).flatMap Entry.lines) := by
  obtain ⟨c, hc, -, hclosed, -⟩ := h.ready hw.1
  have haccount := h.account
  unfold State.fileLines at haccount
  rw [if_neg hw.1, hw.2, hc, List.flatMap_nil, List.append_nil] at haccount
  exact ⟨c, hc, hclosed, haccount⟩

/-- **Inserting the info log.** -/
theorem InfoBefore.insert {c : Log} (hdistinct : (entries.map Entry.id).Nodup)
    (h : InfoBefore entries s) (hok : InsertOk s) (hc : (s.mp .info).content = some c)
    (rest : List MainOp) :
    InfoAfter entries { s with
      infoLog := (insertLines (translate c) (readlines s.infoLog)).flatten
      main := rest } := by
  obtain ⟨hf, hstamp, hclosed, -⟩ := h
  obtain ⟨c', hc', hcclosed, hlines⟩ := hf.lines_of_written hok.1
  obtain rfl : c = c' := Option.some.inj (hc.symm.trans hc')
  have hsub : ((entries.filter (MpLog.accepts .info)).map Entry.id).Nodup :=
    hdistinct.sublist (List.filter_sublist.map _)
  rcases hok.2 c hc with hempty | ⟨honce, hroom⟩
  · exact safe_insert_nothing hstamp hlines hempty _
  · exact safe_insert_once hsub hstamp hclosed hcclosed hlines honce hroom

/-- **Appending the error log.** -/
theorem ErrorsBefore.append {c : Log} (hdistinct : (entries.map Entry.id).Nodup)
    (h : ErrorsBefore entries s) (hok : s.Written .errors)
    (hc : (s.mp .errors).content = some c) (rest : List MainOp) :
    ErrorsAfter entries { s with errorLog := s.errorLog ++ translate c, main := rest } := by
  obtain ⟨hf, hstamp, hclosed⟩ := h
  obtain ⟨c', hc', hcclosed, hlines⟩ := hf.lines_of_written hok
  obtain rfl : c = c' := Option.some.inj (hc.symm.trans hc')
  have hsub : ((entries.filter (MpLog.accepts .errors)).map Entry.id).Nodup :=
    hdistinct.sublist (List.filter_sublist.map _)
  refine ⟨s.errorLog ++ translate c, [], (List.append_nil _).symm,
    hclosed.append (closed_translate hcclosed), Nat.le_refl _, ?_, ?_⟩
  · intro u hu
    cases hu
  · intro e he
    apply occursOnce_of_lines hsub _ hstamp.readlines hlines he
    rw [readlines_append hclosed, readlines_translate]

theorem Inv.sort {f : MpLog} {c : Log} {rest : List MainOp} (h : Inv entries s)
    (hmain : s.main = .sort f :: rest) (hc : (s.mp f).content = some c)
    (hok : f ∈ s.opening ∨ s.unwritten f = [] ∨ (translate c).length = c.length) :
    Inv entries { s with
      mp := Function.update s.mp f { s.mp f with content := some (sortFileBy key c) }
      main := rest } := by
  have hfile : ∀ g, FileInv entries s g → FileInv entries { s with
      mp := Function.update s.mp f { s.mp f with content := some (sortFileBy key c) }
      main := rest } g := by
    intro g hg
    by_cases hgf : g = f
    · subst hgf
      exact hg.sort hc hok
    · exact hg.same rfl (Function.update_of_ne hgf _ _) rfl
  refine h.pop hmain ?_ ?_ (by simp) (by simp) ?_ ?_ ?_ ?_
  · rfl
  · rfl
  · intro _ hbefore
    exact ⟨hfile .info hbefore.1, hbefore.2⟩
  · intro hafter
    exact hafter
  · intro _ hbefore
    exact ⟨hfile .errors hbefore.1, hbefore.2⟩
  · intro hafter
    exact hafter

theorem Inv.insertInfo {c : Log} {rest : List MainOp} (h : Inv entries s)
    (hdistinct : (entries.map Entry.id).Nodup) (hmain : s.main = .insertInfo :: rest)
    (hok : InsertOk s) (hc : (s.mp .info).content = some c) :
    Inv entries { s with
      infoLog := (insertLines (translate c) (readlines s.infoLog)).flatten
      main := rest } := by
  have horder := h.order
  rw [hmain, List.pairwise_cons] at horder
  have hrest : MainOp.insertInfo ∉ rest := by
    intro hmem
    exact absurd (horder.1 _ hmem (.inl rfl)) (Nat.lt_irrefl _)
  have hbefore := h.info_before (hmain ▸ List.mem_cons_self)
  constructor
  · exact horder.2
  · exact h.opening
  · intro hmem
    exact absurd hmem hrest
  · intro _
    exact hbefore.insert hdistinct hok hc rest
  · intro hmem
    obtain ⟨hf, hlog⟩ := h.errors_before (hmain ▸ List.mem_cons_of_mem _ hmem)
    exact ⟨hf.same rfl rfl rfl, hlog⟩
  · intro hmem
    apply h.errors_after
    rw [hmain, List.mem_cons, not_or]
    exact ⟨by simp, hmem⟩

theorem Inv.appendErrors {c : Log} {rest : List MainOp} (h : Inv entries s)
    (hdistinct : (entries.map Entry.id).Nodup) (hmain : s.main = .appendErrors :: rest)
    (hok : s.Written .errors) (hc : (s.mp .errors).content = some c) :
    Inv entries { s with errorLog := s.errorLog ++ translate c, main := rest } := by
  have horder := h.order
  rw [hmain, List.pairwise_cons] at horder
  have hrest : MainOp.appendErrors ∉ rest := by
    intro hmem
    exact absurd (horder.1 _ hmem (.inr rfl)) (Nat.lt_irrefl _)
  have hinsert : MainOp.insertInfo ∉ rest := by
    intro hmem
    exact absurd (horder.1 _ hmem (.inl rfl)) (by decide)
  have hbefore := h.errors_before (hmain ▸ List.mem_cons_self)
  constructor
  · exact horder.2
  · exact h.opening
  · intro hmem
    exact absurd hmem hinsert
  · intro _
    apply h.info_after
    rw [hmain, List.mem_cons, not_or]
    exact ⟨by simp, hinsert⟩
  · intro hmem
    exact absurd hmem hrest
  · intro _
    exact hbefore.append hdistinct hok hc rest

/-- After a removal, no merge is left. -/
theorem Inv.no_merge_after_remove {f : MpLog} {rest : List MainOp} (h : Inv entries s)
    (hmain : s.main = .remove f :: rest) :
    MainOp.insertInfo ∉ rest ∧ MainOp.appendErrors ∉ rest := by
  have horder := h.order
  rw [hmain, List.pairwise_cons] at horder
  constructor
  · intro hmem
    exact absurd (horder.1 _ hmem (.inl rfl)) (by simp [MainOp.rank])
  · intro hmem
    exact absurd (horder.1 _ hmem (.inr rfl)) (by simp [MainOp.rank])

theorem Inv.logInfo {body : List Char} {rest : List MainOp} (h : Inv entries s)
    (hmain : s.main = .logInfo body :: rest) :
    Inv entries { logInfo s body with main := rest } := by
  refine h.pop hmain ?_ ?_ (by simp) (by simp) ?_ ?_ ?_ ?_
  · rfl
  · rfl
  · intro _ hbefore
    exact hbefore.logInfo body rest
  · intro hafter
    exact hafter.logInfo body
  · rintro _ ⟨hf, hlog⟩
    exact ⟨hf.same rfl rfl rfl, hlog⟩
  · intro hafter
    exact hafter

theorem Inv.putNone {rest : List MainOp} (h : Inv entries s) (hmain : s.main = .putNone :: rest) :
    Inv entries { s with queue := s.queue ++ [none], main := rest } := by
  have hway : ∀ f, State.unwritten { s with queue := s.queue ++ [none], main := rest } f =
      s.unwritten f := by
    intro f
    simp [State.unwritten]
  refine h.pop hmain ?_ ?_ (by simp) (by simp) ?_ ?_ ?_ ?_
  · rfl
  · rfl
  · rintro _ ⟨hf, hlog⟩
    exact ⟨hf.same rfl rfl (hway _), hlog⟩
  · intro hafter
    exact hafter
  · rintro _ ⟨hf, hlog⟩
    exact ⟨hf.same rfl rfl (hway _), hlog⟩
  · intro hafter
    exact hafter

/-- A removal does not touch the main logs, and no merge comes after it. -/
theorem Inv.remove {f : MpLog} {rest : List MainOp} (h : Inv entries s)
    (hmain : s.main = .remove f :: rest) (hrest : s'.main = rest)
    (hopening : s'.opening = s.opening) (hinfo : InfoAfter entries s → InfoAfter entries s')
    (herrors : ErrorsAfter entries s → ErrorsAfter entries s') : Inv entries s' := by
  obtain ⟨hinsert, happend⟩ := h.no_merge_after_remove hmain
  refine h.pop hmain hrest hopening (by simp) (by simp) ?_ hinfo ?_ herrors
  · intro hmem
    exact absurd hmem hinsert
  · intro hmem
    exact absurd hmem happend

theorem Inv.mainStep (h : Inv entries s) (hdistinct : (entries.map Entry.id).Nodup)
    (hok : StepOk s .main) (hstep : mainStep key s = some s') : Inv entries s' := by
  unfold Logging.mainStep at hstep
  unfold StepOk at hok
  cases hmain : s.main with
  | nil =>
      rw [hmain] at hstep
      cases hstep
  | cons op rest =>
      rw [hmain] at hstep hok
      cases op with
      | logInfo body =>
          obtain rfl := Option.some.inj hstep
          exact h.logInfo hmain
      | putNone =>
          simp only at hstep
          split at hstep
          · obtain rfl := Option.some.inj hstep
            exact h.putNone hmain
          · cases hstep
      | sort f =>
          obtain ⟨c, hc, hsort⟩ := hok
          have hc' : (s.mp f).content = some c := hc
          simp only [hc'] at hstep
          obtain rfl := Option.some.inj hstep
          exact h.sort hmain hc' hsort
      | insertInfo =>
          -- the file is there, since the logger has written it
          obtain ⟨hf, -⟩ := h.info_before (hmain ▸ List.mem_cons_self)
          obtain ⟨c, hc, -, -⟩ := hf.ready hok.1.1
          simp only [hc] at hstep
          obtain rfl := Option.some.inj hstep
          exact h.insertInfo hdistinct hmain hok hc
      | appendErrors =>
          -- so is the error file
          obtain ⟨hf, -⟩ := h.errors_before (hmain ▸ List.mem_cons_self)
          obtain ⟨c, hc, -, -⟩ := hf.ready hok.1
          simp only [hc] at hstep
          obtain rfl := Option.some.inj hstep
          exact h.appendErrors hdistinct hmain hok hc
      | remove f =>
          simp only at hstep
          split at hstep
          · obtain rfl := Option.some.inj hstep
            exact h.remove hmain rfl rfl id id
          · obtain rfl := Option.some.inj hstep
            exact h.remove hmain rfl rfl id id

/-- A removal that fails is logged to both logs, behind the records. -/
theorem Inv.removeFails {body : List Char} (h : Inv entries s)
    (hok : s.errorLog.length ≤ s.errorOffset) (hstep : removeFailsStep s body = some s') :
    Inv entries s' := by
  unfold removeFailsStep at hstep
  split at hstep
  · next f rest hmain =>
    split at hstep
    · obtain rfl := Option.some.inj hstep
      refine h.remove hmain ?_ ?_ ?_ ?_
      · rfl
      · rfl
      · intro hafter
        exact hafter.logInfo body
      · intro hafter
        -- the error log may only grow at its end, where `hok` puts the write
        have hlonger : s.errorLog.length ≤
            (writeAt none s.errorLog s.errorOffset (mainLine body)).length := by
          simp only [writeAt, List.length_append, List.length_take]
          omega
        exact hafter.writeAt hok hlonger body
    · cases hstep
  · cases hstep

theorem Inv.step {st : Step} (h : Inv entries s) (hdistinct : (entries.map Entry.id).Nodup)
    (hok : StepOk s st) (hstep : step key s st = some s') : Inv entries s' := by
  cases st with
  | child i =>
      -- children and logger only move records towards the files
      have hfile : ∀ f, FileInv entries s f → FileInv entries s' f := fun f hf => hf.child hstep
      obtain ⟨e, rest, -, rfl⟩ := childStep_eq hstep
      exact h.other rfl h.opening hfile rfl rfl rfl
  | logger =>
      have hfile : ∀ f, FileInv entries s f → FileInv entries s' f :=
        fun f hf => hf.logger h.opening hstep
      rcases loggerStep_cases hstep with ⟨g, rest, hopening, rfl⟩ | ⟨g, e, rest, -, -, rfl⟩ |
        ⟨e, rest, -, -, rfl⟩ | ⟨rest, -, rfl⟩
      · have hnodup := h.opening
        rw [hopening, List.nodup_cons] at hnodup
        exact h.other rfl hnodup.2 hfile rfl rfl rfl
      · exact h.other rfl h.opening hfile rfl rfl rfl
      · exact h.other rfl h.opening hfile rfl rfl rfl
      · exact h.other rfl h.opening hfile rfl rfl rfl
  | main => exact h.mainStep hdistinct hok hstep
  | removeFails body => exact h.removeFails hok hstep

/-- The invariant holds in every state of a run whose steps meet their conditions. -/
theorem Inv.exec (hdistinct : (entries.map Entry.id).Nodup) : ∀ {steps : List Step} {s : State},
    Inv entries s → RunOk key s steps → exec key s steps = some s' → Inv entries s'
  | [], s, h, _, hexec => by
      obtain rfl := Option.some.inj hexec
      exact h
  | st :: steps, s, h, hok, hexec => by
      obtain ⟨s₁, hstep, hrest⟩ := Option.bind_eq_some_iff.mp hexec
      have hok' : RunOk key s₁ steps := by
        have hnext := hok.2
        rw [hstep] at hnext
        exact hnext
      exact Inv.exec hdistinct (h.step hdistinct hok.1 hstep) hok' hrest

end Steps

instance OccursOnce.decidable (e : Entry) (log : Log) : Decidable (OccursOnce e log) :=
  inferInstanceAs (Decidable (List.Perm _ _))

instance NothingLost.decidable (setting : Setting) (s : State) :
    Decidable (NothingLost setting s) :=
  inferInstanceAs (Decidable (∀ e ∈ setting.entries, _ ∧ _))

end Clev2er.Logging
