import ContentForms.Proofs.Disk
import ContentForms.Text.Split
import Mathlib.Data.List.Nodup
import Mathlib.Order.Lattice

/-!
Directories that are listed. A directory yields the name of each node in it once, in an order of its
own, and what a program makes of the names must not depend on that order. Sorting sees to it: where
the rank by which a list is sorted tells its items apart, the list comes out strictly ascending, and
the same whichever way its items stood before.
-/

namespace ContentForms

theorem Text.dropEnd?_eq_some_iff {ending : String} {cs rest : List Char} :
    dropEnd? ending cs = some rest ↔ cs = rest ++ ending.toList := by
  rw [dropEnd?, List.isSuffixOf?, Option.map_eq_some_iff]
  simp only [List.isPrefixOf?_eq_some_iff_append_eq]
  constructor
  · rintro ⟨before, happend, rfl⟩
    rw [← List.reverse_reverse cs, ← happend, List.reverse_append, List.reverse_reverse]
  · rintro rfl
    exact ⟨rest.reverse, by rw [List.reverse_append], List.reverse_reverse rest⟩

/-! ### Names in a directory -/

namespace FiniteMap

variable {κ : Type u} {α : Type v} [DecidableEq κ]

theorem mem_keys_iff {map : FiniteMap κ α} {key : κ} : key ∈ map.keys ↔ (map.get? key).isSome := by
  rw [keys, get?, Option.isSome_map, List.find?_isSome, List.mem_map]
  simp

end FiniteMap

namespace Disk

variable {disk : Disk} {directory : DiskPath} {names : List String}

/-- The directory is there, and these are the names in it, each once and in some order. -/
structure Yields (disk : Disk) (directory : DiskPath) (names : List String) : Prop where
  there : disk.lookup directory = .ok .directory
  nodup : names.Nodup
  mem_iff : ∀ name, name ∈ names ↔ (disk.node? (directory ++ [name])).isSome

theorem eq_append_of_nameIn? {path : DiskPath} {name : String}
    (h : nameIn? directory path = some name) : path = directory ++ [name] := by
  unfold nameIn? at h
  split at h
  · next hprefix =>
      cases h
      exact (List.isPrefixOf?_eq_some_iff_append_eq.mp hprefix).symm
  · cases h

theorem nameIn?_append (directory : DiskPath) (name : String) :
    nameIn? directory (directory ++ [name]) = some name := by
  have hprefix : List.isPrefixOf? directory (directory ++ [name]) = some [name] :=
    List.isPrefixOf?_eq_some_iff_append_eq.mpr rfl
  rw [nameIn?, hprefix]

theorem yields_of_names (h : disk.names directory = .ok names) : disk.Yields directory names := by
  unfold Disk.names at h
  split at h
  case h_1 hthere =>
    cases h
    refine ⟨hthere, ?_, fun name => ?_⟩
    · refine List.Nodup.filterMap ?_ disk.nodes.nodup
      intro path path' name hname hname'
      rw [eq_append_of_nameIn? hname, eq_append_of_nameIn? hname']
    · have hroot : directory ++ [name] ≠ [] := by simp
      rw [node?, if_neg hroot, ← FiniteMap.mem_keys_iff, List.mem_filterMap]
      constructor
      · rintro ⟨path, hpath, hname⟩
        rwa [← eq_append_of_nameIn? hname]
      · intro hmem
        exact ⟨_, hmem, nameIn?_append directory name⟩
  case h_2 => cases h
  case h_3 => cases h

/-- A directory is listed in one of the orders, and all the orders differ in nothing else. -/
theorem Yields.exists_names (h : disk.Yields directory names) :
    ∃ listed, disk.names directory = .ok listed ∧ listed.Perm names := by
  have hlisted : disk.names directory = .ok (disk.nodes.keys.filterMap (nameIn? directory)) := by
    rw [Disk.names, h.there]
  have hyields := yields_of_names hlisted
  refine ⟨_, hlisted, (List.perm_ext_iff_of_nodup hyields.nodup h.nodup).mpr fun name => ?_⟩
  rw [hyields.mem_iff, h.mem_iff]

theorem Yields.of_perm {names' : List String} (h : disk.Yields directory names)
    (hperm : names.Perm names') : disk.Yields directory names' where
  there := h.there
  nodup := hperm.nodup_iff.mp h.nodup
  mem_iff name := by
    rw [← hperm.mem_iff, h.mem_iff]

end Disk

/-! ### Sorting by rank -/

section Sorting

variable {α : Type u} {β : Type v} [LinearOrder β] {rank : α → β} {le : α → α → Bool}
  {xs ys : List α}

theorem pairwise_lt_mergeSort (hle : ∀ a b, le a b = true ↔ rank a ≤ rank b)
    (hdistinct : (xs.map rank).Nodup) :
    (xs.mergeSort le).Pairwise fun a b => rank a < rank b := by
  have hsorted : (xs.mergeSort le).Pairwise fun a b => le a b = true := by
    apply List.pairwise_mergeSort
    · intro a b c hab hbc
      exact (hle a c).mpr (le_trans ((hle a b).mp hab) ((hle b c).mp hbc))
    · intro a b
      rw [Bool.or_eq_true, hle, hle]
      exact le_total (rank a) (rank b)
  have hranks : ((xs.mergeSort le).map rank).Nodup :=
    ((xs.mergeSort_perm le).map rank).nodup_iff.mpr hdistinct
  refine hsorted.imp₂ ?_ (List.pairwise_map.mp hranks)
  intro a b hab hne
  exact lt_of_le_of_ne ((hle a b).mp hab) hne

theorem mergeSort_eq_of_perm (hle : ∀ a b, le a b = true ↔ rank a ≤ rank b)
    (hdistinct : (xs.map rank).Nodup) (h : xs.Perm ys) : xs.mergeSort le = ys.mergeSort le := by
  have hdistinct' : (ys.map rank).Nodup := (h.map rank).nodup_iff.mp hdistinct
  have hperm : (xs.mergeSort le).Perm (ys.mergeSort le) :=
    ((xs.mergeSort_perm le).trans h).trans (ys.mergeSort_perm le).symm
  apply hperm.eq_of_pairwise _ (pairwise_lt_mergeSort hle hdistinct)
    (pairwise_lt_mergeSort hle hdistinct')
  intro a b _ _ hab hba
  exact absurd hba (lt_asymm hab)

end Sorting

end ContentForms
