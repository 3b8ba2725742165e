import Clev2er.SharedMemory
import Clev2er.SharedMemory.Contents

/-!
# Loads that nothing interrupts

A process that loads and cleans up while no other takes a step does what `Resource.load`
and `Handle.cleanUp` say: it attaches to the segment of the name (`attach_alone`) or
creates it (`create_alone`), and the array it is left with is that of a private load.
`serial_refines` carries this over to any sequence of loads and clean-ups.
-/

namespace Clev2er.Segments

open Clev2er.Lib

section Alone

variable {setting : Setting} {s s' s'' : State} {p gen : Nat}

/-- A process brings about a state by steps of its own. -/
def Reaches (setting : Setting) (p : Nat) (s s' : State) : Prop :=
  ∃ n, run (step setting) s (List.replicate n p) = s'

theorem Reaches.refl (s : State) : Reaches setting p s s :=
  ⟨0, rfl⟩

theorem Reaches.head (h : Reaches setting p (step setting s p) s') : Reaches setting p s s' := by
  obtain ⟨n, hn⟩ := h
  exact ⟨n + 1, hn⟩

theorem Reaches.trans (h : Reaches setting p s s') (h' : Reaches setting p s' s'') :
    Reaches setting p s s'' := by
  obtain ⟨n, rfl⟩ := h
  obtain ⟨m, rfl⟩ := h'
  refine ⟨n + m, ?_⟩
  rw [List.replicate_add, run_append]

/-- The two states differ in the process and the array of a segment only. -/
structure Alone (p gen : Nat) (s s' : State) : Prop where
  live_eq : s'.live = s.live
  created_eq : s'.created = s.created
  phase_of_ne : ∀ q, q ≠ p → s'.phase q = s.phase q
  cells_of_ne : ∀ g, g ≠ gen → s'.cells g = s.cells g

theorem Alone.trans (h : Alone p gen s s') (h' : Alone p gen s' s'') : Alone p gen s s'' :=
  ⟨h'.live_eq.trans h.live_eq, h'.created_eq.trans h.created_eq,
    fun q hq => (h'.phase_of_ne q hq).trans (h.phase_of_ne q hq),
    fun g hg => (h'.cells_of_ne g hg).trans (h.cells_of_ne g hg)⟩

theorem alone_setPhase (s : State) (p gen : Nat) (phase : Phase) :
    Alone p gen s (s.setPhase p phase) :=
  ⟨rfl, rfl, fun _ hq => setPhase_of_ne s phase hq, fun _ _ => rfl⟩

theorem alone_write (s : State) (p gen i : Nat) (value : Cell) (phase : Phase) :
    Alone p gen s ((s.write gen i value).setPhase p phase) :=
  ⟨rfl, rfl, fun _ hq => setPhase_of_ne _ phase hq, fun _ hg => Function.update_of_ne hg _ _⟩

/-- The rest of the array is copied. -/
theorem copying_alone : ∀ (left next : Nat) (s : State), next + left = setting.size →
    s.phase p = .copying gen next → ∃ s', Reaches setting p s s' ∧ Alone p gen s s' ∧
      s'.phase p = .scanning gen false 0 [] ∧
      ∀ i, s'.cells gen i =
        if next ≤ i ∧ i < setting.size then setting.file i else s.cells gen i := by
  intro left
  induction left with
  | zero =>
      intro next s hleft hphase
      have hstep : step setting s p = s.setPhase p (.scanning gen false 0 []) := by
        rw [Nat.add_zero] at hleft
        simp only [step, hphase, hleft, lt_irrefl, if_false]
      refine ⟨_, Reaches.head (hstep ▸ Reaches.refl _), alone_setPhase _ _ _ _, setPhase_self _ _ _,
        fun i => ?_⟩
      rw [if_neg (by omega)]
      rfl
  | succ left ih =>
      intro next s hleft hphase
      have hstep : step setting s p =
          (s.write gen next (setting.file next)).setPhase p (.copying gen (next + 1)) := by
        have hlt : next < setting.size := by omega
        simp only [step, hphase, hlt, if_true]
      obtain ⟨s', hreach, halone, hdone, hcells⟩ := ih (next + 1) (step setting s p)
        (by omega) (by rw [hstep, setPhase_self])
      refine ⟨s', hreach.head, ?_, hdone, fun i => ?_⟩
      · rw [hstep] at halone
        exact (alone_write s p gen next _ _).trans halone
      · rw [hcells, hstep]
        simp only [State.setPhase, State.write, Function.update_self]
        by_cases hi : i = next
        · rw [hi, Function.update_self, if_neg (by omega), if_pos (by omega)]
        · rw [Function.update_of_ne hi]
          by_cases hrest : next + 1 ≤ i ∧ i < setting.size
          · rw [if_pos hrest, if_pos (by omega)]
          · rw [if_neg hrest, if_neg (by omega)]

/-- The void cells are looked up, and the process goes on with those. -/
theorem scanning_alone {child : Bool} : ∀ (left next : Nat) (found : List Nat) (s : State),
    next + left = setting.size → s.phase p = .scanning gen child next found →
    found = (List.range next).filter (fun i => setting.isVoid (s.cells gen i)) →
    ∃ s', Reaches setting p s s' ∧ Alone p gen s s' ∧ s'.cells = s.cells ∧
      s'.phase p =
        if (setting.voidCells (s.cells gen)).any (fun i => i != 0) then
          .voiding gen child (setting.voidCells (s.cells gen))
        else .loaded gen child 0 := by
  intro left
  induction left with
  | zero =>
      intro next found s hleft hphase hfound
      obtain rfl : next = setting.size := hleft
      rw [← Setting.voidCells] at hfound
      have hstep : step setting s p = s.setPhase p
          (if (setting.voidCells (s.cells gen)).any (fun i => i != 0) then
            .voiding gen child (setting.voidCells (s.cells gen)) else .loaded gen child 0) := by
        simp only [step, hphase, lt_irrefl, if_false, hfound]
        split <;> rfl
      exact ⟨_, Reaches.head (hstep ▸ Reaches.refl _), alone_setPhase _ _ _ _, rfl,
        setPhase_self _ _ _⟩
  | succ left ih =>
      intro next found s hleft hphase hfound
      have hlt : next < setting.size := by omega
      have hstep : step setting s p = s.setPhase p (.scanning gen child (next + 1)
          (if setting.isVoid (s.cells gen next) then found ++ [next] else found)) := by
        simp only [step, hphase, hlt, if_true]
      have hnext : (if setting.isVoid (s.cells gen next) then found ++ [next] else found) =
          (List.range (next + 1)).filter (fun i => setting.isVoid (s.cells gen i)) := by
        rw [List.range_succ, List.filter_append, ← hfound, List.filter_singleton]
        cases setting.isVoid (s.cells gen next) with
        | true => rfl
        | false => exact (List.append_nil found).symm
      obtain ⟨s', hreach, halone, hcells, hdone⟩ := ih (next + 1) _ (step setting s p) (by omega)
        (by rw [hstep, setPhase_self]) (by rw [hstep]; exact hnext)
      rw [hstep] at halone hcells hdone
      exact ⟨s', hreach.head, (alone_setPhase _ _ _ _).trans halone, hcells, hdone⟩

/-- The cells that were found become NaN. -/
theorem voiding_alone {child : Bool} : ∀ (left : List Nat) (s : State),
    s.phase p = .voiding gen child left →
    ∃ s', Reaches setting p s s' ∧ Alone p gen s s' ∧ s'.phase p = .loaded gen child 0 ∧
      ∀ i, s'.cells gen i = if i ∈ left then .nan else s.cells gen i := by
  intro left
  induction left with
  | nil =>
      intro s hphase
      have hstep : step setting s p = s.setPhase p (.loaded gen child 0) := by
        simp only [step, hphase]
      refine ⟨_, Reaches.head (hstep ▸ Reaches.refl _), alone_setPhase _ _ _ _, setPhase_self _ _ _,
        fun i => ?_⟩
      rw [if_neg List.not_mem_nil]
      rfl
  | cons j left ih =>
      intro s hphase
      have hstep : step setting s p =
          (s.write gen j .nan).setPhase p (.voiding gen child left) := by
        simp only [step, hphase]
      obtain ⟨s', hreach, halone, hdone, hcells⟩ := ih (step setting s p)
        (by rw [hstep, setPhase_self])
      rw [hstep] at halone hcells
      refine ⟨s', hreach.head, (alone_write s p gen j _ _).trans halone, hdone, fun i => ?_⟩
      rw [hcells]
      simp only [State.setPhase, State.write, Function.update_self, List.mem_cons]
      by_cases hij : i = j
      · rw [hij, Function.update_self, ite_self, if_pos (.inl rfl)]
      · rw [Function.update_of_ne hij]
        exact if_congr (by rw [or_iff_right hij]) rfl rfl

/-- The void cells of the array become NaN as in a private load. -/
theorem voidToNan_alone {child : Bool} {s : State} (hphase : s.phase p = .scanning gen child 0 []) :
    ∃ s', Reaches setting p s s' ∧ Alone p gen s s' ∧ s'.phase p = .loaded gen child 0 ∧
      ∀ i < setting.size, s'.cells gen i = setting.voidToNan (s.cells gen) i := by
  obtain ⟨s₁, hreach, halone, hcells, hnext⟩ :=
    scanning_alone setting.size 0 [] s (Nat.zero_add _) hphase rfl
  unfold Setting.voidToNan
  cases hany : (setting.voidCells (s.cells gen)).any (fun i => i != 0) with
  | false =>
      rw [hany, if_neg Bool.false_ne_true] at hnext
      exact ⟨s₁, hreach, halone, hnext, fun i _ => by rw [hcells]; rfl⟩
  | true =>
      rw [hany, if_pos rfl] at hnext
      obtain ⟨s₂, hreach', halone', hdone, hvoid⟩ := voiding_alone _ s₁ hnext
      refine ⟨s₂, hreach.trans hreach', halone.trans halone', hdone, fun i hi => ?_⟩
      rw [hvoid, hcells]
      refine if_congr ?_ rfl rfl
      rw [Setting.voidCells, List.mem_filter, List.mem_range, Bool.true_and]
      exact and_iff_right hi

/-- The first pass over the void cells leaves none that a second one would see. -/
theorem voidToNan_again {values : Nat → Cell}
    (h : ∀ i < setting.size, values i = setting.zdem i) :
    ∀ i < setting.size, setting.voidToNan values i = setting.zdem i := by
  intro i hi
  have hnone : (setting.voidCells values).any (fun i => i != 0) = false := by
    rw [List.any_eq_false]
    intro j hj hne
    obtain ⟨hmem, hvoid⟩ := List.mem_filter.mp hj
    rw [h j (List.mem_range.mp hmem), Setting.zdem, Setting.voidToNan] at hvoid
    split at hvoid
    · rw [Setting.isVoid_nan] at hvoid
      cases hvoid
    · next hnot =>
      apply hnot
      rw [hvoid, Bool.and_true]
      exact List.any_eq_true.mpr ⟨j, List.mem_filter.mpr ⟨hmem, hvoid⟩, hne⟩
  rw [Setting.voidToNan, hnone, Bool.false_and, if_neg Bool.false_ne_true, h i hi]

/-- What a load without interruption leaves. -/
structure LoadedAlone (setting : Setting) (p : Nat) (s s' : State) (gen : Nat) (child : Bool) :
    Prop where
  reaches : Reaches setting p s s'
  phase_eq : s'.phase p = .loaded gen child 0
  phase_of_ne : ∀ q, q ≠ p → s'.phase q = s.phase q
  live_eq : s'.live = some gen
  cells_of_ne : ∀ g, g ≠ gen → s'.cells g = s.cells g

/-- **A load that finds no segment** creates one, with the array of a private load. -/
theorem create_alone {s : State} (hphase : s.phase p = .start) (hlive : s.live = none) :
    ∃ s', LoadedAlone setting p s s' s.created false ∧
      ∀ i < setting.size, s'.cells s.created i = setting.zdem i := by
  have hmiss : step setting s p = s.setPhase p .missed := by
    simp only [step, hphase, hlive]
  have hcreate : step setting (s.setPhase p .missed) p =
      (s.setPhase p .missed).create.setPhase p (.copying s.created 0) := by
    have hlive' : (s.setPhase p .missed).live = none := hlive
    simp only [step, setPhase_self, hlive']
    rfl
  obtain ⟨s₁, hreach, halone, hscan, hcopied⟩ := copying_alone setting.size 0
    ((s.setPhase p .missed).create.setPhase p (.copying s.created 0)) (Nat.zero_add _)
    (setPhase_self _ _ _)
  obtain ⟨s₂, hreach', halone', hdone, hcells⟩ := voidToNan_alone hscan
  have hall := halone.trans halone'
  refine ⟨s₂, ⟨?_, hdone, fun q hq => ?_, hall.live_eq, fun g hg => ?_⟩, fun i hi => ?_⟩
  · apply Reaches.head
    rw [hmiss]
    apply Reaches.head
    rw [hcreate]
    exact hreach.trans hreach'
  · rw [hall.phase_of_ne q hq, setPhase_of_ne _ _ hq]
    exact setPhase_of_ne s _ hq
  · rw [hall.cells_of_ne g hg]
    exact Function.update_of_ne hg _ _
  · rw [hcells i hi, Setting.zdem, Setting.voidToNan, Setting.voidToNan]
    have hsame : ∀ j < setting.size, s₁.cells s.created j = setting.file j := by
      intro j hj
      rw [hcopied, if_pos ⟨Nat.zero_le j, hj⟩]
    have hvoid : setting.voidCells (s₁.cells s.created) = setting.voidCells setting.file := by
      apply List.filter_congr
      intro j hj
      rw [hsame j (List.mem_range.mp hj)]
    rw [hvoid, hsame i hi]

/-- **A load that finds the segment** attaches to it, and leaves the array as it is if that
is the one of a private load. -/
theorem attach_alone {s : State} (hphase : s.phase p = .start) (hlive : s.live = some gen)
    (hcells : ∀ i < setting.size, s.cells gen i = setting.zdem i) :
    ∃ s', LoadedAlone setting p s s' gen true ∧
      ∀ i < setting.size, s'.cells gen i = setting.zdem i := by
  have hattach : step setting s p = s.setPhase p (.scanning gen true 0 []) := by
    simp only [step, hphase, hlive]
  have hscan : (s.setPhase p (.scanning gen true 0 [])).phase p = .scanning gen true 0 [] :=
    setPhase_self _ _ _
  obtain ⟨s', hreach, halone, hdone, hvoid⟩ := voidToNan_alone hscan
  refine ⟨s', ⟨?_, hdone, fun q hq => ?_, halone.live_eq.trans hlive, halone.cells_of_ne⟩,
    fun i hi => ?_⟩
  · apply Reaches.head
    rw [hattach]
    exact hreach
  · rw [halone.phase_of_ne q hq]
    exact setPhase_of_ne s _ hq
  · rw [hvoid i hi]
    exact voidToNan_again hcells i hi

end Alone

/-! ## Whole loads and clean-ups -/

/-- What a process does without interruption. -/
inductive Op where
  | load (p : Nat)
  | cleanUp (p : Nat)

/-- The segments, and the handle of each process with the number of its clean-ups. -/
structure Coarse where
  store : Store
  handle : Nat → Option Handle
  cleaned : Nat → Nat

/-- The segments before any process has started. -/
def Coarse.init : Coarse := ⟨⟨[], []⟩, fun _ => none, fun _ => 0⟩

/-- A load or a clean-up, where the process has it before it. -/
def coarseStep (setting : Setting) (hashName : String → String) (r : Resource) (c : Coarse) :
    Op → Coarse
  | .load p =>
      match c.handle p with
      | none =>
          ⟨(r.load hashName true c.store).2,
            Function.update c.handle p (some (r.load hashName true c.store).1), c.cleaned⟩
      | some _ => c
  | .cleanUp p =>
      match c.handle p with
      | none => c
      | some handle =>
          if c.cleaned p < setting.cleanUps p then
            ⟨handle.cleanUp c.store, c.handle, Function.update c.cleaned p (c.cleaned p + 1)⟩
          else c

/-- The processes have the handles, the segment is live in both or in none, and the arrays
are those of a private load. -/
structure Simulates (setting : Setting) (seg : String) (s : State) (c : Coarse) : Prop where
  live_iff : seg ∈ c.store.live ↔ s.live.isSome = true
  live_array : ∀ gen, s.live = some gen → ∀ i < setting.size, s.cells gen i = setting.zdem i
  started : ∀ p, c.handle p = none → s.phase p = .start ∧ c.cleaned p = 0
  loaded : ∀ p handle, c.handle p = some handle →
    handle.storeInSharedMemory = true ∧ handle.sharedMem = some seg ∧
      ∃ gen, s.phase p = .loaded gen handle.sharedMemChild (c.cleaned p) ∧
        ∀ i < setting.size, s.cells gen i = setting.zdem i

section Serial

variable {setting : Setting} {hashName : String → String} {r : Resource} {seg : String}
  {s : State} {c : Coarse}

theorem simulates_init : Simulates setting seg State.init Coarse.init :=
  ⟨iff_of_false List.not_mem_nil nofun, nofun, fun _ _ => ⟨rfl, rfl⟩, nofun⟩

/-- A load into shared memory: the handle, and the segments after it. -/
theorem load_shared (hseg : r.segment hashName = some seg) (store : Store) :
    (seg ∈ store.live ∧ r.load hashName true store = (⟨r, true, some seg, true⟩, store)) ∨
    (seg ∉ store.live ∧ r.load hashName true store =
      (⟨r, true, some seg, false⟩, ⟨seg :: store.live, seg :: store.created⟩)) := by
  unfold Resource.load
  rw [hseg]
  by_cases hlive : seg ∈ store.live
  · exact .inl ⟨hlive, if_pos hlive⟩
  · exact .inr ⟨hlive, if_neg hlive⟩

/-- A process that has loaded without interruption has the new handle. -/
theorem Simulates.load (h : Simulates setting seg s c) {p gen : Nat} {child : Bool} {s' : State}
    (hload : LoadedAlone setting p s s' gen child)
    (harray : ∀ i < setting.size, s'.cells gen i = setting.zdem i) (hnone : c.handle p = none)
    {store : Store} (hstore : seg ∈ store.live) :
    Simulates setting seg s'
      ⟨store, Function.update c.handle p (some ⟨r, true, some seg, child⟩), c.cleaned⟩ := by
  have hcells : ∀ g, (∀ i < setting.size, s.cells g i = setting.zdem i) →
      ∀ i < setting.size, s'.cells g i = setting.zdem i := by
    intro g hg
    by_cases heq : g = gen
    · rw [heq]
      exact harray
    · rw [hload.cells_of_ne g heq]
      exact hg
  refine ⟨?_, ?_, ?_, ?_⟩
  · rw [hload.live_eq]
    exact iff_of_true hstore rfl
  · intro g hg
    obtain rfl : gen = g := Option.some.inj (hload.live_eq.symm.trans hg)
    exact harray
  · intro q hq
    by_cases hqp : q = p
    · simp only [hqp, Function.update_self] at hq
      cases hq
    · simp only [Function.update_of_ne hqp] at hq
      rw [hload.phase_of_ne q hqp]
      exact h.started q hq
  · intro q handle hq
    by_cases hqp : q = p
    · simp only [hqp, Function.update_self] at hq
      obtain rfl := Option.some.inj hq
      refine ⟨rfl, rfl, gen, ?_, harray⟩
      rw [hqp, (h.started p hnone).2]
      exact hload.phase_eq
    · simp only [Function.update_of_ne hqp] at hq
      obtain ⟨hshared, hmem, g, hphase, hg⟩ := h.loaded q handle hq
      exact ⟨hshared, hmem, g, by rw [hload.phase_of_ne q hqp]; exact hphase, hcells g hg⟩

/-- A clean-up is one step. -/
theorem Simulates.cleanUp (h : Simulates setting seg s c) {p : Nat} {handle : Handle}
    (hhandle : c.handle p = some handle) (hleft : c.cleaned p < setting.cleanUps p) :
    Simulates setting seg (step setting s p)
      ⟨handle.cleanUp c.store, c.handle, Function.update c.cleaned p (c.cleaned p + 1)⟩ := by
  obtain ⟨hshared, hmem, gen, hphase, harray⟩ := h.loaded p handle hhandle
  have hstep : step setting s p = (if handle.sharedMemChild then s else s.unlink).setPhase p
      (.loaded gen handle.sharedMemChild (c.cleaned p + 1)) := by
    simp only [step, hphase, hleft, if_true]
  have hcells : (step setting s p).cells = s.cells := by
    rw [hstep]
    cases handle.sharedMemChild <;> rfl
  have hothers : ∀ q, q ≠ p → (step setting s p).phase q = s.phase q :=
    fun q hq => step_phase_of_ne hq
  have hliveAfter : (seg ∈ (handle.cleanUp c.store).live ↔
      (step setting s p).live.isSome = true) ∧
      ∀ g, (step setting s p).live = some g → s.live = some g := by
    rw [hstep, Handle.cleanUp, hshared, hmem]
    cases handle.sharedMemChild with
    | true => exact ⟨h.live_iff, fun g hg => hg⟩
    | false =>
        refine ⟨iff_of_false ?_ Bool.false_ne_true, fun g hg => by cases hg⟩
        exact fun hlive => (mem_live_unlink.mp hlive).2 rfl
  refine ⟨hliveAfter.1, ?_, ?_, ?_⟩
  · intro g hg
    rw [hcells]
    exact h.live_array g (hliveAfter.2 g hg)
  · intro q hq
    have hqp : q ≠ p := by
      rintro rfl
      rw [hhandle] at hq
      cases hq
    simp only [Function.update_of_ne hqp]
    rw [hothers q hqp]
    exact h.started q hq
  · intro q other hq
    rw [hcells]
    by_cases hqp : q = p
    · obtain rfl : handle = other := by
        rw [hqp, hhandle] at hq
        exact Option.some.inj hq
      refine ⟨hshared, hmem, gen, ?_, harray⟩
      simp only [hqp, Function.update_self]
      rw [hstep, setPhase_self]
    · simp only [Function.update_of_ne hqp]
      rw [hothers q hqp]
      exact h.loaded q other hq

/-- **Whole loads and clean-ups refine the loads and clean-ups of single handles**: any
sequence of them is one of the runs of the processes, with the array of a private load in
every handle. -/
theorem serial_refines (setting : Setting) (hashName : String → String) {r : Resource}
    {seg : String} (hseg : r.segment hashName = some seg) (ops : List Op) :
    ∃ schedule, Simulates setting seg (run (step setting) State.init schedule)
      (run (coarseStep setting hashName r) Coarse.init ops) := by
  induction ops using List.reverseRecOn with
  | nil => exact ⟨[], simulates_init⟩
  | append_singleton ops op ih =>
      obtain ⟨schedule, hsim⟩ := ih
      rw [run_append]
      generalize run (coarseStep setting hashName r) Coarse.init ops = c at hsim
      have hdone : ∀ {s'}, (∃ p, Reaches setting p (run (step setting) State.init schedule) s') →
          ∃ schedule', run (step setting) State.init schedule' = s' := by
        rintro s' ⟨p, n, hn⟩
        exact ⟨schedule ++ List.replicate n p, by rw [run_append, hn]⟩
      have hsame : ∃ schedule', Simulates setting seg (run (step setting) State.init schedule') c :=
        ⟨schedule, hsim⟩
      rw [run, List.foldl_cons, List.foldl_nil]
      cases op with
      | load p =>
          cases hhandle : c.handle p with
          | some handle =>
              simp only [coarseStep, hhandle]
              exact hsame
          | none =>
              simp only [coarseStep, hhandle]
              have hstart := (hsim.started p hhandle).1
              cases hlive : (run (step setting) State.init schedule).live with
              | some gen =>
                  obtain ⟨s', hload, harray⟩ := attach_alone hstart hlive
                    (hsim.live_array gen hlive)
                  have hmem : seg ∈ c.store.live := hsim.live_iff.mpr (by rw [hlive]; rfl)
                  obtain ⟨schedule', rfl⟩ := hdone ⟨p, hload.reaches⟩
                  rcases load_shared hseg c.store with ⟨-, heq⟩ | ⟨hnot, -⟩
                  · rw [heq]
                    exact ⟨schedule', hsim.load hload harray hhandle hmem⟩
                  · exact absurd hmem hnot
              | none =>
                  obtain ⟨s', hload, harray⟩ : ∃ s', LoadedAlone setting p _ s' _ false ∧
                      ∀ i < setting.size, s'.cells _ i = setting.zdem i :=
                    create_alone hstart hlive
                  obtain ⟨schedule', rfl⟩ := hdone ⟨p, hload.reaches⟩
                  rcases load_shared hseg c.store with ⟨hmem, -⟩ | ⟨-, heq⟩
                  · have hsome := hsim.live_iff.mp hmem
                    rw [hlive] at hsome
                    cases hsome
                  · rw [heq]
                    exact ⟨schedule', hsim.load hload harray hhandle List.mem_cons_self⟩
      | cleanUp p =>
          cases hhandle : c.handle p with
          | none =>
              simp only [coarseStep, hhandle]
              exact hsame
          | some handle =>
              simp only [coarseStep, hhandle]
              split
              · next hleft =>
                obtain ⟨schedule', hrun⟩ := hdone ⟨p, Reaches.head (Reaches.refl _)⟩
                exact ⟨schedule', by rw [hrun]; exact hsim.cleanUp hhandle hleft⟩
              · exact hsame

/-- Two loads, and the creator cleans up first. -/
theorem serial_refines_twoVoid : ∃ schedule, Simulates twoVoid "rema_ant_1km"
    (run (step twoVoid) State.init schedule)
    (run (coarseStep twoVoid id (.dem "rema_ant_1km" true)) Coarse.init
      [.load 0, .load 1, .cleanUp 0]) :=
  serial_refines twoVoid id rfl [.load 0, .load 1, .cleanUp 0]

end Serial

end Clev2er.Segments
