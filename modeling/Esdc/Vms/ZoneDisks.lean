import Mathlib

namespace vms.zone_disks

/-- The compressions of a disk. -/
inductive Compression
  | off
  | lzjb
  | gzip
  | gzip_level (level : Fin 9)
  | zle
  | lz4
  deriving DecidableEq

/-- The keys of a zone's definition that its disks are spread over. -/
structure Json where
  quota : Option ℕ
  zpool : Option String
  zfs_root_compression : Option Compression
  zfs_root_recsize : Option ℕ
  image_uuid : Option String
  delegate_dataset : Option Bool
  zfs_data_compression : Option Compression
  zfs_data_recsize : Option ℕ
  zfs_filesystem : Option String
  /-- the delegated datasets that the node has reported -/
  datasets : Option (List String)
  deriving DecidableEq

/-- The keys of a disk that are saved. -/
structure Disk where
  size : ℕ
  compression : Compression
  block_size : ℕ
  zpool : String
  image_uuid : Option String
  deriving DecidableEq

/-- A disk as it is read back. -/
structure JsonDisk extends Disk where
  path : String
  zfs_filesystem : String
  refreservation : ℕ
  boot : Bool
  model : String
  deriving DecidableEq

structure Vm where
  uuid : String
  is_notcreated : Bool
  json : Json
  /-- `VMS_DISK_IMAGE_ZONE_DEFAULT` of the datacenter -/
  image_zone_default : String
  deriving DecidableEq

inductive Error
  | KeyError
  deriving DecidableEq

section definition

def ZPOOL : String := "zones"

/-- `int(round(float(n) / float(d)))`, a half goes up. -/
def round_div (n d : ℕ) : ℕ := (2 * n + d) / (2 * d)

/-- `root['image_uuid']` is only read if the disk or the datacenter has an image. -/
def saved_image (image_zone_default : String) (root : Disk) : Except Error (Option String) :=
  match root.image_uuid with
  | some image_uuid => .ok (if image_uuid = "" then none else some image_uuid)
  | none => if image_zone_default = "" then .ok none else .error .KeyError

/-- The branch of a zone; there are no other disks than the first two. -/
def Vm.save_disks (vm : Vm) (disks : List Disk) : Except Error Vm :=
  match disks with
  | [] => .ok vm
  | root :: rest => do
    let image_uuid ← saved_image vm.image_zone_default root
    let json := { vm.json with
      quota := some (round_div root.size 1024)
      zfs_root_compression := some root.compression
      zfs_root_recsize := some root.block_size
      zpool := some root.zpool
      image_uuid := image_uuid }
    match rest with
    | [] =>
      if vm.is_notcreated then
        return { vm with json := { json with
          delegate_dataset := none
          zfs_data_compression := none
          zfs_data_recsize := none } }
      else return { vm with json := json }
    | data :: _ =>
      return { vm with json := { json with
        delegate_dataset := if vm.is_notcreated then some true else json.delegate_dataset
        zfs_data_compression := some data.compression
        zfs_data_recsize := some data.block_size } }

def root_dataset (zpool uuid : String) : String := zpool ++ "/" ++ uuid

def data_dataset (zpool uuid : String) : String := root_dataset zpool uuid ++ "/data"

/-- The branch of a zone with the pool that the disks are wanted for. -/
def parse_json_disks (uuid : String) (json : Json) (is_notcreated : Bool) (zpool : Option String) : List JsonDisk :=
  let _zpool := json.zpool.getD ZPOOL
  if zpool.any fun zpool => zpool ≠ "" && _zpool ≠ zpool then []
  else
    let quota := json.quota.getD 0 * 1024
    let root : JsonDisk := {
      path := "disk0"
      zfs_filesystem := json.zfs_filesystem.getD (root_dataset _zpool uuid)
      size := quota
      refreservation := 0
      boot := true
      model := "zfs"
      compression := json.zfs_root_compression.getD .off
      block_size := json.zfs_root_recsize.getD 131072
      zpool := _zpool
      image_uuid := json.image_uuid.filter (· ≠ "") }
    let data : JsonDisk := {
      path := "disk1"
      zfs_filesystem := data_dataset _zpool uuid
      size := quota
      refreservation := 0
      boot := false
      model := "zfs"
      compression := json.zfs_data_compression.getD .off
      block_size := json.zfs_data_recsize.getD 131072
      zpool := _zpool
      image_uuid := none }
    if (is_notcreated && json.delegate_dataset.getD false) || (data_dataset _zpool uuid ∈ json.datasets.getD []) then
      [root, data]
    else [root]

def Vm.json_get_disks (vm : Vm) : List JsonDisk := parse_json_disks vm.uuid vm.json vm.is_notcreated none

end definition

section round_trip

/-- The size after the quota was rounded. -/
def whole_gib (size : ℕ) : ℕ := round_div size 1024 * 1024

/-- Sizes that are the same up to the rounding of the quota. -/
def Near (size size' : ℕ) : Prop := size' ≤ size + 512 ∧ size < size' + 512

instance (size size' : ℕ) : Decidable (Near size size') := inferInstanceAs (Decidable (_ ∧ _))

/-- What the serializer makes of one or two disks: only the first one has an image. -/
structure Accepted (disks : List Disk) : Prop where
  nonempty : disks ≠ []
  at_most_two : disks.length ≤ 2
  image : ∀ disk ∈ disks, disk.image_uuid ≠ some ""
  first : ∀ disk ∈ disks.tail, disk.image_uuid = none

/-- A disk that is read back as it was saved. -/
structure Same (disk read : Disk) : Prop where
  size : Near disk.size read.size
  zpool : read.zpool = disk.zpool
  compression : read.compression = disk.compression
  block_size : read.block_size = disk.block_size
  image : read.image_uuid = disk.image_uuid

def Vm.read_disks (vm : Vm) : List Disk := vm.json_get_disks.map JsonDisk.toDisk

/-- The disks of a VM after they were saved, and that saving them again changes nothing. -/
def RoundTrip (vm : Vm) (disks : List Disk) : Prop :=
  ∃ vm', vm.save_disks disks = .ok vm' ∧ List.Forall₂ Same disks vm'.read_disks ∧ vm'.save_disks vm'.read_disks = .ok vm'

/-- A disk that shares the quota and the pool of the first one. -/
def sharing (root disk : Disk) : Disk := { disk with size := whole_gib root.size, zpool := root.zpool }

theorem near_whole_gib (size : ℕ) : Near size (whole_gib size) := by
  unfold Near whole_gib round_div
  constructor <;> omega

/-- A quota in GiB is not rounded again. -/
theorem round_div_mul (n : ℕ) : round_div (n * 1024) 1024 = n := by
  unfold round_div
  omega

theorem saved_image_eq {image_zone_default : String} {root : Disk} (hempty : root.image_uuid ≠ some "")
    (himage : root.image_uuid = none → image_zone_default = "") :
    saved_image image_zone_default root = .ok root.image_uuid := by
  unfold saved_image
  cases hroot : root.image_uuid with
  | none =>
    simp only
    rw [if_pos (himage hroot)]
  | some image_uuid =>
    have hne : image_uuid ≠ "" := fun h => hempty (h ▸ hroot)
    simp only
    rw [if_neg hne]

theorem filter_image {image_uuid : Option String} (hempty : image_uuid ≠ some "") :
    image_uuid.filter (fun image_uuid => !decide (image_uuid = "")) = image_uuid := by
  cases image_uuid with
  | none => rfl
  | some image_uuid =>
    have hne : image_uuid ≠ "" := fun h => hempty (h ▸ rfl)
    simp [hne]

/-- The definition of a zone that is not deployed with its one or two disks. -/
def Vm.with_disks (vm : Vm) (root : Disk) (data : Option Disk) : Vm := { vm with json := { vm.json with
  quota := some (round_div root.size 1024)
  zfs_root_compression := some root.compression
  zfs_root_recsize := some root.block_size
  zpool := some root.zpool
  image_uuid := root.image_uuid
  delegate_dataset := data.map fun _ => true
  zfs_data_compression := data.map Disk.compression
  zfs_data_recsize := data.map Disk.block_size } }

theorem save_disks_eq {vm : Vm} {root : Disk} {data : Option Disk} (hnotcreated : vm.is_notcreated = true)
    (hempty : root.image_uuid ≠ some "") (himage : root.image_uuid = none → vm.image_zone_default = "") :
    vm.save_disks (root :: data.toList) = .ok (vm.with_disks root data) := by
  rw [Vm.save_disks, Vm.with_disks, saved_image_eq hempty himage, hnotcreated]
  cases data with
  | none => rfl
  | some data => rfl

/-- The data disk has the size and the pool of the root disk. -/
theorem read_disks_with_disks {vm : Vm} {root : Disk} {data : Option Disk} (hnotcreated : vm.is_notcreated = true)
    (hempty : root.image_uuid ≠ some "") (hdata : ∀ disk ∈ data, disk.image_uuid = none)
    (hdatasets : data = none → data_dataset root.zpool vm.uuid ∉ vm.json.datasets.getD []) :
    (vm.with_disks root data).read_disks = (root :: data.toList).map (sharing root) := by
  cases data with
  | none =>
    simp [Vm.read_disks, Vm.json_get_disks, Vm.with_disks, parse_json_disks, hdatasets, filter_image hempty, sharing,
      whole_gib]
  | some data =>
    have hnone : data.image_uuid = none := hdata data rfl
    simp [Vm.read_disks, Vm.json_get_disks, Vm.with_disks, parse_json_disks, hnotcreated, filter_image hempty, hnone,
      sharing, whole_gib]

theorem with_disks_again (vm : Vm) (root : Disk) (data : Option Disk) :
    (vm.with_disks root data).with_disks (sharing root root) (data.map (sharing root)) = vm.with_disks root data := by
  cases data with
  | none => simp [Vm.with_disks, sharing, whole_gib, round_div_mul]
  | some data => simp [Vm.with_disks, sharing, whole_gib, round_div_mul]

/-- The disks of a zone that is not deployed are read back with their compressions, block sizes and image, and with the
size and the pool of the first one. -/
theorem zone_disks_read_back {vm : Vm} {root : Disk} {rest : List Disk} (hnotcreated : vm.is_notcreated = true)
    (haccepted : Accepted (root :: rest)) (himage : root.image_uuid = none → vm.image_zone_default = "")
    (hdatasets : rest = [] → data_dataset root.zpool vm.uuid ∉ vm.json.datasets.getD []) :
    ∃ vm', vm.save_disks (root :: rest) = .ok vm' ∧ vm'.read_disks = (root :: rest).map (sharing root) ∧
      Near root.size (whole_gib root.size) ∧ vm'.save_disks vm'.read_disks = .ok vm' := by
  obtain ⟨data, rfl⟩ : ∃ data : Option Disk, rest = data.toList := by
    match rest with
    | [] => exact ⟨none, rfl⟩
    | [data] => exact ⟨some data, rfl⟩
    | _ :: _ :: _ =>
      have htwo := haccepted.at_most_two
      simp only [List.length_cons] at htwo
      omega
  have hempty := haccepted.image root List.mem_cons_self
  have hdata : ∀ disk ∈ data, disk.image_uuid = none := fun disk hmem =>
    haccepted.first disk (Option.mem_toList.mpr hmem)
  have hread : (vm.with_disks root data).read_disks = (root :: data.toList).map (sharing root) :=
    read_disks_with_disks hnotcreated hempty hdata fun hnone => hdatasets (hnone ▸ rfl)
  refine ⟨vm.with_disks root data, save_disks_eq hnotcreated hempty himage, hread, near_whole_gib root.size, ?_⟩
  have hagain : (vm.with_disks root data).save_disks (sharing root root :: (data.map (sharing root)).toList) =
      .ok ((vm.with_disks root data).with_disks (sharing root root) (data.map (sharing root))) :=
    save_disks_eq hnotcreated hempty himage
  rw [with_disks_again] at hagain
  rw [hread, List.map_cons, ← Option.toList_map]
  exact hagain

def image_uuid : String := "0f1e2d3c-4b5a-6978-8796-a5b4c3d2e1f0"

/-- A zone with a data disk. -/
def two_disks_vm : Vm where
  uuid := "00000000-0000-0000-0000-000000000001"
  is_notcreated := true
  json := {
    quota := some 10
    zpool := some ZPOOL
    zfs_root_compression := some .lz4
    zfs_root_recsize := some 131072
    image_uuid := some image_uuid
    delegate_dataset := some true
    zfs_data_compression := some .off
    zfs_data_recsize := some 131072
    zfs_filesystem := none
    datasets := none }
  image_zone_default := "base-64-es"

/-- Its first disk with twice the size. -/
def resized : List Disk := [
  { size := 20480, compression := .lz4, block_size := 131072, zpool := ZPOOL, image_uuid := some image_uuid },
  { size := 10240, compression := .off, block_size := 131072, zpool := ZPOOL, image_uuid := none }]

theorem accepted_resized : Accepted resized := ⟨by decide, by decide, by decide, by decide⟩

theorem zone_disks_read_back_resized :
    ∃ vm', two_disks_vm.save_disks resized = .ok vm' ∧ vm'.read_disks = resized.map (sharing (resized.head (by decide))) ∧
      Near 20480 (whole_gib 20480) ∧ vm'.save_disks vm'.read_disks = .ok vm' :=
  @zone_disks_read_back two_disks_vm _ _ rfl accepted_resized nofun nofun

/-- The data disk is read back with the size of the first one. -/
theorem not_roundTrip_resized : ¬ RoundTrip two_disks_vm resized := by
  rintro ⟨vm', hsave, hsame, -⟩
  have hread : (two_disks_vm.save_disks resized).map (fun vm => vm.read_disks.map Disk.size) = .ok [20480, 20480] := by
    decide +kernel
  rw [hsave] at hread
  have hsizes : vm'.read_disks.map Disk.size = [20480, 20480] := Except.ok.inj hread
  generalize vm'.read_disks = read at hsame hsizes
  cases hsame with
  | cons hroot hrest =>
    cases hrest with
    | cons hdata hnil =>
      simp only [List.map_cons, List.cons.injEq] at hsizes
      have hnear := hdata.size
      rw [hsizes.2.1] at hnear
      exact absurd hnear (by decide)

end round_trip

end vms.zone_disks
