import Mathlib.Data.List.Perm.Basic
import Mathlib.Logic.Function.Basic

/-!
# Writes into a store

Some writes, each of a value under a key, where a later write replaces an earlier one.
The order of the writes matters just where two of them put different values under one
key (`writeEach_perm_iff`).
-/

namespace Clev2er.Lib

variable {W K V : Type} [DecidableEq K] (key : W → K) (value : W → V)

/-- A store after some writes, in their order. -/
def writeEach (writes : List W) (store : K → Option V) : K → Option V :=
  writes.foldl (fun store write => Function.update store (key write) (some (value write))) store

/-- No two writes put different values under one key. -/
def Consistent (writes : List W) : Prop :=
  ∀ a ∈ writes, ∀ b ∈ writes, key a = key b → value a = value b

variable {key value}

theorem writeEach_append (writes more : List W) (store : K → Option V) :
    writeEach key value (writes ++ more) store =
      writeEach key value more (writeEach key value writes store) :=
  List.foldl_append

/-- The last write stays. -/
theorem writeEach_concat (writes : List W) (write : W) (store : K → Option V) :
    writeEach key value (writes ++ [write]) store (key write) = some (value write) := by
  rw [writeEach_append]
  exact Function.update_self _ _ _

theorem Consistent.writeEach_perm {writes other : List W} (h : Consistent key value writes)
    (hperm : writes.Perm other) (store : K → Option V) :
    writeEach key value writes store = writeEach key value other store := by
  apply hperm.foldl_eq'
  intro a ha b hb store
  by_cases hkey : key a = key b
  · rw [hkey, h a ha b hb hkey]
  · exact Function.update_comm hkey _ _ _

/-- **The order of the writes does not matter** just if they are consistent. -/
theorem writeEach_perm_iff (writes : List W) :
    (∀ other, writes.Perm other → ∀ store,
      writeEach key value other store = writeEach key value writes store) ↔
      Consistent key value writes := by
  constructor
  · -- either write may come last
    intro h a ha b hb hkey
    have hlast : ∀ write ∈ writes,
        writeEach key value writes (fun _ => none) (key write) = some (value write) := by
      intro write hwrite
      obtain ⟨front, back, rfl⟩ := List.append_of_mem hwrite
      have hmove : (front ++ write :: back).Perm ((front ++ back) ++ [write]) := by
        rw [List.append_assoc]
        exact (List.perm_append_singleton write back).symm.append_left front
      rw [← h _ hmove]
      exact writeEach_concat _ _ _
    have hboth := hlast a ha
    rw [hkey, hlast b hb] at hboth
    exact (Option.some.inj hboth).symm
  · exact fun h other hperm store => (h.writeEach_perm hperm store).symm

end Clev2er.Lib
