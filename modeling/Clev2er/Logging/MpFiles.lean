import Clev2er.Logging.Protocol
import Mathlib.Data.List.Perm.Basic
import Mathlib.Data.List.Range

/-!
# The account of the `.mp` files

The records that a `.mp` file is to get are at every moment its lines and the
records on their way to it: with the children, on the queue, or taken by the
logger. `FileInv` says so, up to the order of the lines, and every step but the
removal of the file keeps it.
-/

namespace Clev2er.Logging

open Clev2er.Lib

/-! ## Entries and their lines -/

def Entry.lines (e : Entry) : List Log := readlines e.text

theorem Entry.text_closed (e : Entry) : Closed e.text := by
  unfold Entry.text
  rw [List.map_append]
  exact closed_append_newline _ rfl

theorem mainLine_closed (body : List Char) : Closed (mainLine body) := by
  unfold mainLine
  rw [List.map_append]
  exact closed_append_newline _ rfl

theorem Entry.lines_ne_nil (e : Entry) : e.lines ≠ [] := by
  intro hnil
  have hflat : translate e.text = [] := by
    rw [← flatten_readlines]
    show e.lines.flatten = []
    rw [hnil]
    rfl
  cases htext : e.text with
  | nil => simp [Entry.text] at htext
  | cons u rest => exact translate_ne_nil u rest (htext ▸ hflat)

theorem Entry.touches_lines (e : Entry) (id : Nat) :
    ∀ line ∈ e.lines, touches id line = decide (e.id = id) := by
  intro line hline
  have hstamp : ∀ u ∈ line, u.2 = some e.id := by
    apply readlines_stamp (p := fun stamp => stamp = some e.id) _ line hline
    intro u hu
    obtain ⟨c, -, rfl⟩ := List.mem_map.mp hu
    rfl
  have hne : line ≠ [] := (readlines_isLine e.text_closed line hline).ne_nil
  obtain ⟨u, rest, rfl⟩ := List.exists_cons_of_ne_nil hne
  rw [Bool.eq_iff_iff]
  unfold touches
  rw [List.any_eq_true, decide_eq_true_eq]
  constructor
  · rintro ⟨v, hv, hid⟩
    rw [hstamp v hv] at hid
    simpa using hid
  · intro hid
    refine ⟨u, List.mem_cons_self, ?_⟩
    rw [hstamp u List.mem_cons_self, hid]
    simp

/-- Among the lines of distinct records, those with a byte of a record are its own. -/
theorem filter_touches_flatMap {es : List Entry} (hdistinct : (es.map Entry.id).Nodup)
    {e : Entry} (he : e ∈ es) : (es.flatMap Entry.lines).filter (touches e.id) = e.lines := by
  have hlines : ∀ d : Entry, d.lines.filter (touches e.id) =
      if d.id = e.id then d.lines else [] := by
    intro d
    split
    · next hid =>
      rw [List.filter_eq_self]
      intro line hline
      rw [d.touches_lines e.id line hline, decide_eq_true hid]
    · next hid =>
      rw [List.filter_eq_nil_iff]
      intro line hline
      rw [d.touches_lines e.id line hline, decide_eq_false hid]
      simp
  have hother : ∀ {ds : List Entry}, e.id ∉ ds.map Entry.id →
      (ds.flatMap Entry.lines).filter (touches e.id) = [] := by
    intro ds hds
    rw [List.filter_flatMap, List.flatMap_eq_nil_iff]
    intro d hd
    rw [hlines d, if_neg]
    intro hid
    exact hds (List.mem_map.mpr ⟨d, hd, hid⟩)
  induction es with
  | nil => cases he
  | cons d ds ih =>
      rw [List.map_cons, List.nodup_cons] at hdistinct
      rw [List.flatMap_cons, List.filter_append, hlines d]
      -- the ids are distinct, so the lines come from one record only
      rcases List.mem_cons.mp he with rfl | he
      · rw [if_pos rfl, hother hdistinct.1, List.append_nil]
      · have hne : ¬ d.id = e.id := by
          intro hid
          exact hdistinct.1 (hid ▸ List.mem_map.mpr ⟨e, he, rfl⟩)
        rw [if_neg hne, List.nil_append, ih hdistinct.2 he]

/-- The records on their way to a file: taken by the logger, on the queue, or
still with the children. -/
def State.unwritten (s : State) (f : MpLog) : List Entry :=
  (s.writing.filter (fun w => w.1 = f)).map Prod.snd ++
    (s.queue.filterMap id).filter f.accepts ++ s.pending.flatten.filter f.accepts

/-- The lines of a file, once the logger has opened it. -/
def State.fileLines (s : State) (f : MpLog) : List Log :=
  if f ∈ s.opening then [] else readlines ((s.mp f).content.getD [])

/-- The records that a file is to get are its lines and those on their way; the
logger's next write goes to its end. -/
structure FileInv (entries : List Entry) (s : State) (f : MpLog) : Prop where
  account : (s.fileLines f ++ (s.unwritten f).flatMap Entry.lines).Perm
    ((entries.filter f.accepts).flatMap Entry.lines)
  ready : f ∉ s.opening → ∃ c, (s.mp f).content = some c ∧ (s.mp f).linked = true ∧ Closed c ∧
    ((s.mp f).offset = c.length ∨ s.unwritten f = [])

section FileInv

variable {entries : List Entry} {s s' : State} {f : MpLog}

/-- Steps that leave the file alone. -/
theorem FileInv.frame (h : FileInv entries s f) (hopening : f ∈ s'.opening ↔ f ∈ s.opening)
    (hfile : s'.mp f = s.mp f) (hway : (s'.unwritten f).Perm (s.unwritten f)) :
    FileInv entries s' f := by
  have hlines : s'.fileLines f = s.fileLines f := by
    unfold State.fileLines
    simp only [hopening, hfile]
  constructor
  · rw [hlines]
    exact ((hway.flatMap_right _).append_left _).trans h.account
  · intro hopen
    obtain ⟨c, hc, hlinked, hclosed, hoffset⟩ := h.ready (fun hmem => hopen (hopening.mpr hmem))
    refine ⟨c, hfile ▸ hc, hfile ▸ hlinked, hclosed, ?_⟩
    rcases hoffset with hoffset | hnil
    · exact .inl (hfile ▸ hoffset)
    · exact .inr (List.perm_nil.mp (hnil ▸ hway))

theorem FileInv.same (h : FileInv entries s f) (hopening : s'.opening = s.opening)
    (hfile : s'.mp f = s.mp f) (hway : s'.unwritten f = s.unwritten f) :
    FileInv entries s' f :=
  h.frame (hopening ▸ Iff.rfl) hfile (hway ▸ List.Perm.refl _)

theorem flatten_set_perm {e : Entry} {rest : List Entry} : ∀ {pending : List (List Entry)}
    {i : Nat}, pending[i]? = some (e :: rest) →
      (e :: (pending.set i rest).flatten).Perm pending.flatten
  | [], _, h => by simp at h
  | records :: pending, 0, h => by
      have hrecords : records = e :: rest := by simpa using h
      rw [hrecords]
      exact List.Perm.refl _
  | records :: pending, i + 1, h => by
      have hnext : pending[i]? = some (e :: rest) := by simpa using h
      have ih := flatten_set_perm hnext
      show (e :: (records ++ (pending.set i rest).flatten)).Perm (records ++ pending.flatten)
      exact List.perm_middle.symm.trans (ih.append_left records)

theorem childStep_eq {i : Nat} (hstep : childStep s i = some s') :
    ∃ e rest, s.pending[i]? = some (e :: rest) ∧
      s' = { s with pending := s.pending.set i rest, queue := s.queue ++ [some e] } := by
  unfold childStep at hstep
  split at hstep
  · next e rest hchild => exact ⟨e, rest, hchild, (Option.some.inj hstep).symm⟩
  · cases hstep

/-- Putting a record moves it from the child to the queue. -/
theorem FileInv.child {i : Nat} (h : FileInv entries s f) (hstep : childStep s i = some s') :
    FileInv entries s' f := by
  obtain ⟨e, rest, hchild, rfl⟩ := childStep_eq hstep
  refine h.frame ?_ ?_ ?_
  · exact Iff.rfl
  · rfl
  · -- the record leaves the child and enters the queue behind the others
    have hmoved := (flatten_set_perm hchild).filter f.accepts
    unfold State.unwritten
    simp only [List.filterMap_append, List.filter_append, List.append_assoc]
    apply List.Perm.append_left
    apply List.Perm.append_left
    rw [List.filter_cons] at hmoved
    by_cases he : f.accepts e = true
    · simpa [he] using hmoved
    · simpa [he] using hmoved

/-- What the logger can do. -/
theorem loggerStep_cases (hstep : loggerStep s = some s') :
    (∃ g rest, s.opening = g :: rest ∧
      s' = { s with opening := rest, mp := Function.update s.mp g MpFile.opened }) ∨
    (∃ g e rest, s.opening = [] ∧ s.writing = (g, e) :: rest ∧
      s' = { s with writing := rest, mp := Function.update s.mp g ((s.mp g).write e.text) }) ∨
    (∃ e rest, s.writing = [] ∧ s.queue = some e :: rest ∧
      s' = { s with queue := rest, writing := handlersOf e }) ∨
    (∃ rest, s.queue = none :: rest ∧ s' = { s with queue := rest, stopped := true }) := by
  unfold loggerStep at hstep
  cases hopening : s.opening with
  | cons g rest =>
      rw [hopening] at hstep
      exact .inl ⟨g, rest, rfl, (Option.some.inj hstep).symm⟩
  | nil =>
      rw [hopening] at hstep
      cases hwriting : s.writing with
      | cons w rest =>
          rw [hwriting] at hstep
          exact .inr (.inl ⟨w.1, w.2, rest, rfl, rfl, (Option.some.inj hstep).symm⟩)
      | nil =>
          rw [hwriting] at hstep
          simp only at hstep
          split at hstep
          · cases hstep
          · cases hqueue : s.queue with
            | nil =>
                rw [hqueue] at hstep
                cases hstep
            | cons entry rest =>
                rw [hqueue] at hstep
                cases entry with
                | none => exact .inr (.inr (.inr ⟨rest, rfl, (Option.some.inj hstep).symm⟩))
                | some e =>
                    exact .inr (.inr (.inl ⟨e, rest, rfl, rfl, (Option.some.inj hstep).symm⟩))

/-- Opening a file empties it: no record has been written yet. -/
theorem FileInv.open {rest : List MpLog} (h : FileInv entries s f) (hnodup : s.opening.Nodup)
    (hopening : s.opening = f :: rest) :
    FileInv entries { s with opening := rest, mp := Function.update s.mp f MpFile.opened } f := by
  have hrest : f ∉ rest := by
    rw [hopening, List.nodup_cons] at hnodup
    exact hnodup.1
  have hnone : s.fileLines f = [] := by
    unfold State.fileLines
    rw [hopening, if_pos List.mem_cons_self]
  constructor
  · have haccount := h.account
    rw [hnone] at haccount
    unfold State.fileLines
    simp only [hrest, if_false, Function.update_self]
    exact haccount
  · intro _
    simp only [Function.update_self]
    exact ⟨[], rfl, rfl, trivial, .inl rfl⟩

/-- A write moves a record to the end of the file. -/
theorem FileInv.write {e : Entry} {rest : List (MpLog × Entry)} (h : FileInv entries s f)
    (hopening : s.opening = []) (hwriting : s.writing = (f, e) :: rest) :
    FileInv entries
      { s with writing := rest, mp := Function.update s.mp f ((s.mp f).write e.text) } f := by
  have hopen : f ∉ s.opening := by simp [hopening]
  have hway : s.unwritten f = e :: State.unwritten { s with writing := rest } f := by
    unfold State.unwritten
    rw [hwriting, List.filter_cons_of_pos (by simp)]
    rfl
  obtain ⟨c, hc, hlinked, hclosed, hoffset⟩ := h.ready hopen
  have hend : (s.mp f).offset = c.length := by
    rcases hoffset with hoffset | hnil
    · exact hoffset
    · -- there is a record left, the one being written
      rw [hway] at hnil
      cases hnil
  have hfile : Function.update s.mp f ((s.mp f).write e.text) f =
      ⟨some (c ++ e.text), (c ++ e.text).length, true⟩ := by
    rw [Function.update_self]
    unfold MpFile.write
    simp [hlinked, hc, hend, writeAt_end]
  constructor
  · have haccount := h.account
    unfold State.fileLines at haccount ⊢
    rw [if_neg hopen, hc, hway, List.flatMap_cons, ← List.append_assoc] at haccount
    simp only [hopen, if_false, hfile, Option.getD_some]
    rw [readlines_append hclosed]
    exact haccount
  · intro _
    exact ⟨c ++ e.text, congrArg MpFile.content hfile, congrArg MpFile.linked hfile,
      hclosed.append e.text_closed, .inl (congrArg MpFile.offset hfile)⟩

/-- Taking a record from the queue is taking it for each of its files. -/
theorem FileInv.take {e : Entry} {rest : List (Option Entry)} (h : FileInv entries s f)
    (hwriting : s.writing = []) (hqueue : s.queue = some e :: rest) :
    FileInv entries { s with queue := rest, writing := handlersOf e } f := by
  refine h.frame ?_ ?_ ?_
  · exact Iff.rfl
  · rfl
  · have htaken : ((handlersOf e).filter (fun w => w.1 = f)).map Prod.snd =
        [e].filter f.accepts := by
      cases f
      · cases herr : MpLog.accepts .errors e <;> cases hinf : MpLog.accepts .info e <;>
          simp [handlersOf, herr, hinf]
      · cases herr : MpLog.accepts .errors e <;> cases hinf : MpLog.accepts .info e <;>
          simp [handlersOf, herr, hinf]
    unfold State.unwritten
    rw [hwriting, hqueue]
    simp only [htaken, List.filterMap_cons, id_eq, List.filter_nil, List.map_nil,
      List.nil_append]
    rw [← List.filter_append]
    exact List.Perm.refl _

/-- The logger keeps account. -/
theorem FileInv.logger (h : FileInv entries s f) (hnodup : s.opening.Nodup)
    (hstep : loggerStep s = some s') : FileInv entries s' f := by
  rcases loggerStep_cases hstep with ⟨g, rest, hopening, rfl⟩ |
    ⟨g, e, rest, hopening, hwriting, rfl⟩ | ⟨e, rest, hwriting, hqueue, rfl⟩ | ⟨rest, hqueue, rfl⟩
  · by_cases hfg : f = g
    · subst hfg
      exact h.open hnodup hopening
    · refine h.frame ?_ ?_ ?_
      · simp [hopening, hfg]
      · exact Function.update_of_ne hfg _ _
      · exact List.Perm.refl _
  · by_cases hfg : f = g
    · subst hfg
      exact h.write hopening hwriting
    · refine h.frame ?_ ?_ ?_
      · exact Iff.rfl
      · exact Function.update_of_ne hfg _ _
      · unfold State.unwritten
        rw [hwriting, List.filter_cons_of_neg (by simpa using Ne.symm hfg)]
  · exact h.take hwriting hqueue
  · refine h.frame ?_ ?_ ?_
    · exact Iff.rfl
    · rfl
    · unfold State.unwritten
      rw [hqueue]
      exact List.Perm.refl _

/-- Sorting a file keeps its lines. It may be shorter afterwards, and the logger,
whose offset is where it was, must not write to it then. -/
theorem FileInv.sort {key : List Char → Nat} {c : Log} (h : FileInv entries s f)
    (hc : (s.mp f).content = some c) {rest : List MainOp}
    (hok : f ∈ s.opening ∨ s.unwritten f = [] ∨ (translate c).length = c.length) :
    FileInv entries
      { s with
        mp := Function.update s.mp f { s.mp f with content := some (sortFileBy key c) }
        main := rest } f := by
  have hlength : (sortFileBy key c).length = (translate c).length := by
    unfold sortFileBy
    rw [← flatten_readlines]
    exact (sortBy_perm _ (readlines c)).flatten.length_eq
  have hfile : Function.update s.mp f { s.mp f with content := some (sortFileBy key c) } f =
      { s.mp f with content := some (sortFileBy key c) } := Function.update_self ..
  constructor
  · refine List.Perm.trans ?_ h.account
    apply List.Perm.append_right
    unfold State.fileLines
    by_cases hopen : f ∈ s.opening
    · -- what is sorted here is left from an earlier run
      simp only [hopen, if_true]
      exact List.Perm.refl _
    · obtain ⟨c', hc', -, hclosed, -⟩ := h.ready hopen
      obtain rfl : c = c' := Option.some.inj (hc.symm.trans hc')
      simp only [hopen, if_false, hfile, hc, Option.getD_some]
      rw [readlines_sortFileBy key hclosed]
      exact sortBy_perm _ _
  · intro hopen
    obtain ⟨c', hc', hlinked, hclosed, hoffset⟩ := h.ready hopen
    obtain rfl : c = c' := Option.some.inj (hc.symm.trans hc')
    have hsorted : Closed (sortFileBy key c) := by
      apply closed_flatten
      intro line hline
      exact (readlines_isLine hclosed line ((mem_sortBy _).mp hline)).closed
    refine ⟨sortFileBy key c, congrArg MpFile.content hfile,
      (congrArg MpFile.linked hfile).trans hlinked, hsorted, ?_⟩
    rcases hoffset with hoffset | hnil
    · rcases hok with hmem | hnil | hsame
      · exact absurd hmem hopen
      · exact .inr hnil
      · left
        apply (congrArg MpFile.offset hfile).trans
        show (s.mp f).offset = _
        rw [hoffset, hlength, hsame]
    · exact .inr hnil

end FileInv

end Clev2er.Logging
