import Mathlib
import Esdc.Lib.Dict

namespace vms.disk_model

/-- Every disk of the active definition is the number in its path; the later of two with one number wins. -/
def get_disk_map (disks : List ℕ) : Dict ℕ ℕ :=
  disks.zipIdx.foldl (fun ret disk => ret.insert disk.1 disk.2) ∅

def array_disk_id (disks : List ℕ) (disk_id : ℕ) : Option ℕ :=
  ((get_disk_map disks).lookup disk_id).map fun i => i + 1

/-- The number of the disk at a position, which is checked to be positive by the views. -/
def get_disk_id (disks : List ℕ) (array_disk_id : ℕ) : Option ℕ :=
  if 0 < array_disk_id then disks[array_disk_id - 1]? else none

theorem lookup_foldl_insert {disk_id i : ℕ} (entries : List (ℕ × ℕ)) (ret : Dict ℕ ℕ)
    (hlookup : (entries.foldl (fun ret disk => ret.insert disk.1 disk.2) ret).lookup disk_id = some i) :
    (disk_id, i) ∈ entries ∨ ret.lookup disk_id = some i := by
  induction entries generalizing ret with
  | nil => exact Or.inr hlookup
  | cons disk entries ih =>
    rcases ih _ hlookup with hmem | hlookup
    · exact Or.inl (List.mem_cons_of_mem _ hmem)
    · by_cases hdisk : disk_id = disk.1
      · subst hdisk
        rw [AList.lookup_insert] at hlookup
        obtain rfl := Option.some.inj hlookup
        exact Or.inl List.mem_cons_self
      · rw [AList.lookup_insert_ne hdisk] at hlookup
        exact Or.inr hlookup

/-- The position of a disk leads back to the disk. -/
theorem get_disk_id_array_disk_id {disks : List ℕ} {disk_id array_id : ℕ}
    (harray : array_disk_id disks disk_id = some array_id) : get_disk_id disks array_id = some disk_id := by
  obtain ⟨i, hlookup, rfl⟩ := Option.map_eq_some_iff.mp harray
  rcases lookup_foldl_insert _ _ hlookup with hmem | hlookup
  · rw [get_disk_id, if_pos i.succ_pos, Nat.add_sub_cancel]
    exact List.mk_mem_zipIdx_iff_getElem?.mp hmem
  · cases hlookup

theorem array_disk_id_pos {disks : List ℕ} {disk_id array_id : ℕ}
    (harray : array_disk_id disks disk_id = some array_id) : 0 < array_id := by
  obtain ⟨i, -, rfl⟩ := Option.map_eq_some_iff.mp harray
  exact i.succ_pos

end vms.disk_model
