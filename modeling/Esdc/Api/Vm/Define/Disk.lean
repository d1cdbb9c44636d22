import Mathlib
import Esdc.Vms.ZoneDisks

namespace api.vm.define.disk

open vms.zone_disks (Compression JsonDisk)

inductive OSType
  | LINUX
  | SUNOS
  | BSD
  | WINDOWS
  | SUNOS_ZONE
  | LINUX_ZONE
  deriving DecidableEq

inductive Hypervisor
  | KVM
  | BHYVE
  | NONE
  deriving DecidableEq

/-- A row of the table of images. -/
structure Image where
  uuid : String
  name : String
  size : ℕ
  resize : Bool
  /-- `access in Image.UNUSABLE` -/
  unusable : Bool
  ostype : OSType
  /-- `status == Image.OK` -/
  ok : Bool
  /-- `disk_driver` in the manifest -/
  disk_driver : Option String
  deriving DecidableEq

/-- The fields of a disk with their native values; an image that is not set is sent as `None` or as an empty name. -/
structure Data where
  size : Option ℕ
  boot : Option Bool
  compression : Option Compression
  zpool : Option String
  block_size : Option ℕ
  image : Option (Option String)
  refreservation : Option ℕ
  model : Option String

/-- The keys of a disk, in the definition or in a serializer. -/
structure Disk extends Data where
  image_uuid : Option String
  image_size : Option ℕ
  nocreate : Option Bool

structure Node where
  zpool : String
  /-- the storages in the datacenter of the VM by their pool, with `check_free_space` -/
  get_node_storage : String → Option (Int → Bool)
  /-- of the node in the datacenter of the VM, for `disk` -/
  check_free_resources : Int → Bool

/-- The settings of a datacenter. -/
structure Settings where
  VMS_DISK_COMPRESSION_DEFAULT : Compression
  VMS_DISK_MODEL_KVM_DEFAULT : String
  VMS_DISK_MODEL_BHYVE_DEFAULT : String
  VMS_DISK_IMAGE_DEFAULT : String
  VMS_DISK_IMAGE_LX_ZONE_DEFAULT : String

structure Vm extends vms.zone_disks.Vm where
  ostype : OSType
  hvm_type : Hypervisor
  node : Option Node
  /-- `get_vm_define_disk` of the template -/
  template : ℕ → Data
  settings : Settings
  /-- `disks` in the definition of a KVM or bhyve VM -/
  disks : List Disk

/-- The images and the pools of the user, and the default image of all datacenters. -/
structure Request where
  images : List Image
  get_images : Image → Bool
  get_zpools : String → Bool
  VMS_DISK_IMAGE_DEFAULT : String

inductive Error
  /-- the request is not valid -/
  | invalid (field : String)
  | APIError
  | AttributeError
  | DoesNotExist
  | KeyError
  | TypeError
  | ItemNotFound
  | ItemOutOfRange
  | ItemAlreadyExists
  | OperationNotSupported
  deriving DecidableEq

section definition

def Data.empty : Data where
  size := none
  boot := none
  compression := none
  zpool := none
  block_size := none
  image := none
  refreservation := none
  model := none

/-- The fields, and those of `data'` that are missing. -/
def Data.or (data data' : Data) : Data where
  size := data.size.or data'.size
  boot := data.boot.or data'.boot
  compression := data.compression.or data'.compression
  zpool := data.zpool.or data'.zpool
  block_size := data.block_size.or data'.block_size
  image := data.image.or data'.image
  refreservation := data.refreservation.or data'.refreservation
  model := data.model.or data'.model

def Disk.empty : Disk where
  toData := .empty
  image_uuid := none
  image_size := none
  nocreate := none

/-- `disk.update(attrs)` -/
def Disk.update (disk : Disk) (attrs : Data) : Disk := { disk with toData := attrs.or disk.toData }

/-- `disk[key]` -/
def item {α : Type} (value : Option α) : Except Error α := value.elim (.error .KeyError) .ok

def Vm.is_hvm (vm : Vm) : Bool := vm.hvm_type ≠ .NONE

def Vm.is_deployed (vm : Vm) : Bool := !vm.is_notcreated

def is_disk (disk : Disk) : Bool := disk.size.isSome || disk.image_uuid.isSome

/-- A disk of a zone as a dictionary. -/
def of_zone (disk : JsonDisk) : Disk where
  size := some disk.size
  boot := some disk.boot
  compression := some disk.compression
  zpool := some disk.zpool
  block_size := some disk.block_size
  image := none
  refreservation := some disk.refreservation
  model := some disk.model
  image_uuid := disk.image_uuid
  image_size := none
  nocreate := none

def to_zone (disk : Disk) : Except Error vms.zone_disks.Disk := do
  return {
    size := ← item disk.size
    compression := ← item disk.compression
    block_size := ← item disk.block_size
    zpool := ← item disk.zpool
    image_uuid := disk.image_uuid }

def Vm.json_get_disks (vm : Vm) : List Disk :=
  if vm.is_hvm then vm.disks.filter is_disk else vm.toVm.json_get_disks.map of_zone

def remove_nocreate (disk : Disk) : Disk := { disk with nocreate := disk.nocreate.filter id }

def Vm.save_disks (vm : Vm) (disks : List Disk) : Except Error Vm :=
  if vm.is_hvm then .ok { vm with disks := disks.map remove_nocreate }
  else do
    let disks ← disks.mapM to_zone
    match vm.toVm.save_disks disks with
    | .ok zone => return { vm with toVm := zone }
    | .error .KeyError => .error .KeyError

/-- There is no image for the first disk. -/
def Vm.is_blank (vm : Vm) : Bool := vm.json_get_disks.head?.all fun disk => disk.image_uuid.isNone

/-- `vm.zpool` -/
def Vm.zpool (vm : Vm) : String := vm.json.zpool.getD vms.zone_disks.ZPOOL

def DISK_BLOCK_SIZE : OSType → ℕ
  | .LINUX => 4096
  | .SUNOS => 131072
  | .BSD => 32768
  | .WINDOWS => 4096
  | .SUNOS_ZONE => 131072
  | .LINUX_ZONE => 131072

def DISK_MODEL_KVM : List String := ["virtio", "ide", "scsi"]

def DISK_MODEL_BHYVE : List String := ["virtio", "ahci", "nvme"]

end definition

section serializer

structure VmDefineDiskSerializer where
  object : Option Disk
  attrs : Data
  img : Option Image
  img_error : Bool
  zpool_changed : Option String

/-- A value that is set and not empty. -/
def truthy (value : Option String) : Bool := value.any (· ≠ "")

def Request.find_image (req : Request) (name : String) : Option Image :=
  req.images.find? fun img => req.get_images img && img.name = name

/-- Rewrite a disk from json to a serializer compatible object. -/
def fix_before (req : Request) (disk : Disk) : Except Error (Disk × Option Image) :=
  match disk.image_uuid with
  | none => .ok (disk, none)
  | some uuid =>
    match req.images.find? fun img => img.uuid = uuid with
    | none => .error .APIError
    | some img => .ok ({ disk with image_uuid := none, image := some (some img.name) }, some img)

/-- The image that is not set on the first disk of a zone is the one of the settings. -/
def default_image (req : Request) (vm : Vm) (disk_id : ℕ) : Option (Option String) :=
  if vm.is_hvm then
    if vm.is_blank || vm.json_get_disks.length = 0 then some (some vm.settings.VMS_DISK_IMAGE_DEFAULT)
    else (vm.template disk_id).image.or (some (some req.VMS_DISK_IMAGE_DEFAULT))
  else if vm.ostype = .LINUX_ZONE then some (some vm.settings.VMS_DISK_IMAGE_LX_ZONE_DEFAULT)
  else some (some vm.image_zone_default)

/-- The defaults of a new disk; those of the template are used first, except for the image and the model. -/
def defaults (req : Request) (vm : Vm) (disk_id : ℕ) (data : Data) (img : Option Image) : Data where
  size := (vm.template disk_id).size.or (img.map Image.size)
  boot := (vm.template disk_id).boot.or (some (disk_id = 0))
  compression := (vm.template disk_id).compression.or (some vm.settings.VMS_DISK_COMPRESSION_DEFAULT)
  zpool := (vm.template disk_id).zpool.or (some vm.zpool)
  block_size := (vm.template disk_id).block_size.or (some (DISK_BLOCK_SIZE vm.ostype))
  image := default_image req vm disk_id
  refreservation := (vm.template disk_id).refreservation.or ((data.size.or (img.map Image.size)).or (some 0))
  model := some (if vm.hvm_type = .KVM then vm.settings.VMS_DISK_MODEL_KVM_DEFAULT
    else vm.settings.VMS_DISK_MODEL_BHYVE_DEFAULT)

/-- A zone has fewer fields, and some of them are read only. -/
def writable (vm : Vm) (disk_id : ℕ) (data : Data) : Data :=
  if vm.is_hvm then data
  else if disk_id = 0 then { data with boot := none, refreservation := none, model := none }
  else { data with
    size := none
    boot := none
    zpool := none
    image := none
    refreservation := none
    model := none }

/-- What a zone sets in the object of a serializer. -/
def zone_object (vm : Vm) (disk_id : ℕ) (object : Option Disk) : Except Error (Option Disk) :=
  if vm.is_hvm then .ok object
  else if disk_id = 0 then
    match object with
    | none => .error .TypeError
    | some object => .ok (some { object with boot := some true })
  else .ok (some { object.getD Disk.empty with
    boot := some false
    image := some none
    size := some (vm.json.quota.getD 0 * 1024)
    zpool := some vm.zpool })

/-- The checks of the values alone. -/
def valid_values (vm : Vm) (data : Data) : Bool :=
  data.size.all (fun size => 1 ≤ size && size ≤ 268435456) &&
    data.zpool.all (fun zpool => zpool ≠ "" && zpool.length ≤ 64) &&
    data.block_size.all (fun block_size => 512 ≤ block_size && block_size ≤ 131072 && block_size % 2 = 0) &&
    data.image.all (fun image => (vm.is_hvm || truthy image) && (image.getD "").length ≤ 64) &&
    data.refreservation.all (fun refreservation => refreservation ≤ 268435456) &&
    data.model.all fun model => model ∈ if vm.hvm_type = .KVM then DISK_MODEL_KVM else DISK_MODEL_BHYVE

/-- Only the first disk can have the boot flag, and only if no other disk has it. -/
def validate_boot (vm : Vm) (disk_id : ℕ) (data : Data) : Except Error Unit :=
  if data.boot = some true then
    if disk_id ≠ 0 then .error (.invalid "boot")
    else (vm.json_get_disks.eraseIdx disk_id).forM fun d => do
      if ← item d.boot then .error (.invalid "boot") else .ok ()
  else .ok ()

def check_image (vm : Vm) (ser : VmDefineDiskSerializer) : Except Error VmDefineDiskSerializer :=
  if ser.img.all fun img => !img.unusable && img.ostype = vm.ostype && img.ok then .ok ser
  else .error (.invalid "image")

/-- The image of an existing disk. -/
def validate_new_image (req : Request) (vm : Vm) (value : Option String) (ser : VmDefineDiskSerializer) :
    Except Error VmDefineDiskSerializer :=
  if ser.img.map Image.name = value then .ok ser
  else if vm.is_notcreated then
    match value with
    | none => .ok { ser with img := none }
    | some name =>
      match req.find_image name with
      | none => .error (.invalid "image")
      | some img => check_image vm { ser with img := some img }
  else .error (.invalid "image")

def validate_image (req : Request) (vm : Vm) (disk_id : ℕ) (ser : VmDefineDiskSerializer) :
    Except Error VmDefineDiskSerializer :=
  match ser.attrs.image with
  | none => .ok ser
  | some image =>
    if ser.img_error then .error (.invalid "image")
    else
      let value := image.filter (· ≠ "")
      let ser := { ser with attrs := { ser.attrs with image := some value } }
      if value.isSome && disk_id ≠ 0 then .error (.invalid "image")
      else if ser.object.isSome then validate_new_image req vm value ser
      else if value.isSome && vm.is_deployed then .error (.invalid "image")
      else check_image vm ser

/-- The pool exists, on the node of the VM if it has one. -/
def validate_zpool_name (req : Request) (vm : Vm) (name : String) : Bool :=
  req.get_zpools name && vm.node.all fun node => (node.get_node_storage name).isSome

def validate_zpool (req : Request) (vm : Vm) (ser : VmDefineDiskSerializer) : Except Error VmDefineDiskSerializer :=
  match ser.attrs.zpool with
  | none => .ok ser
  | some value =>
    match ser.object with
    | some object =>
      if object.zpool = some value then .ok ser
      else if vm.is_deployed || !validate_zpool_name req vm value then .error (.invalid "zpool")
      else .ok { ser with zpool_changed := object.zpool }
    | none =>
      if validate_zpool_name req vm value then .ok { ser with zpool_changed := some value }
      else .error (.invalid "zpool")

/-- Only of a KVM or bhyve VM. -/
def validate_block_size (vm : Vm) (ser : VmDefineDiskSerializer) : Except Error Unit :=
  if vm.is_hvm && vm.is_deployed && ser.object.any fun object =>
      ser.attrs.block_size.any fun value => object.block_size ≠ some value then .error (.invalid "block_size")
  else .ok ()

/-- The size that is taken from the storage. -/
def new_size (size : ℕ) (ser : VmDefineDiskSerializer) : Except Error Int :=
  match ser.object with
  | none => .ok size
  | some object =>
    if truthy ser.zpool_changed then .ok size
    else
      match object.size with
      | none => .error .TypeError
      | some old_size => .ok (size - old_size)

def find_storage (node : Node) (zpool : String) : Except Error (Int → Bool) :=
  (node.get_node_storage zpool).elim (.error .DoesNotExist) .ok

/-- Check storage or node resources. -/
def validate_storage_resources (vm : Vm) (zpool : String) (size : ℕ) (ser : VmDefineDiskSerializer) :
    Except Error Unit :=
  match vm.node with
  | none => .ok ()
  | some node => do
    let new_size ← new_size size ser
    if new_size = 0 then .ok ()
    else do
      let check_free_space ← find_storage node zpool
      if check_free_space new_size && truthy ser.zpool_changed then
        let _ ← find_storage node (ser.zpool_changed.getD "")
      if !check_free_space new_size || (zpool = node.zpool && !node.check_free_resources new_size) then
        .error (.invalid "size")
      else .ok ()

/-- The value of a field that was sent, or else that of the disk. -/
def attr_or_object {α : Type} (ser : VmDefineDiskSerializer) (key : Data → Option α) : Except Error α :=
  match key ser.attrs, ser.object with
  | some value, _ => .ok value
  | none, some object => item (key object.toData)
  | none, none => .error .TypeError

/-- The size and the model that an image needs. -/
def validate_image_size (vm : Vm) (size : ℕ) (ser : VmDefineDiskSerializer) : Except Error Unit :=
  match ser.img with
  | none => .ok ()
  | some img =>
    if !vm.is_hvm then .ok ()
    else if (!img.resize && size ≠ img.size) || size < img.size then .error (.invalid "size")
    else if vm.hvm_type = .KVM && vm.is_notcreated then
      match img.disk_driver.filter (· ≠ "") with
      | none => .ok ()
      | some driver => do
        if (← attr_or_object ser Data.model) ≠ driver then .error (.invalid "image") else .ok ()
    else .ok ()

/-- A reservation that is not sent follows the size of the disk, unless it is zero. -/
def validate_refreservation (vm : Vm) (size : ℕ) (ser : VmDefineDiskSerializer) :
    Except Error VmDefineDiskSerializer :=
  if !vm.is_hvm then .ok ser
  else
    match ser.attrs.refreservation, ser.object with
    | some refreservation, _ => if size < refreservation then .error (.invalid "refreservation") else .ok ser
    | none, none => .error .TypeError
    | none, some object =>
      if object.refreservation = some 0 then .ok ser
      else .ok { ser with attrs := { ser.attrs with refreservation := some size } }

def validate (vm : Vm) (disk_id : ℕ) (ser : VmDefineDiskSerializer) : Except Error VmDefineDiskSerializer := do
  let size ← attr_or_object ser Data.size
  let zpool ← attr_or_object ser Data.zpool
  validate_image_size vm size ser
  let ser' ← validate_refreservation vm size ser
  if (ser.attrs.size.isSome || truthy ser.zpool_changed) && (vm.is_hvm || disk_id = 0) then
    validate_storage_resources vm zpool size ser
  return ser'

/-- The serializer with the restored object, for a request that is valid. -/
def is_valid (req : Request) (vm : Vm) (disk_id : ℕ) (ser : VmDefineDiskSerializer) :
    Except Error VmDefineDiskSerializer :=
  if valid_values vm ser.attrs then do
    validate_boot vm disk_id ser.attrs
    let ser ← validate_zpool req vm ser
    validate_block_size vm ser
    let ser ← validate_image req vm disk_id ser
    let ser ← validate vm disk_id ser
    return { ser with object := some ((ser.object.getD .empty).update ser.attrs) }
  else .error (.invalid "fields")

/-- Rewrite the validated disk to json usable data. -/
def VmDefineDiskSerializer.jsondata (vm : Vm) (ser : VmDefineDiskSerializer) : Except Error Disk :=
  let data := ser.object.getD .empty
  match data.image with
  | none => .ok data
  | some image =>
    if truthy image then
      match ser.img with
      | none => .error .AttributeError
      | some img => .ok { data with
          image := none
          image_uuid := some img.uuid
          image_size := some img.size
          block_size := if vm.is_hvm then none else data.block_size }
    else .ok { data with image := none, image_uuid := none, image_size := none }

end serializer

section views

/-- Bug #chili-462 -/
def DISK_ID_MAX : ℕ := 1

def DISK_ID_MAX_BHYVE : ℕ := 5

def DISK_ID_MAX_OS : ℕ := 1

def Vm.disk_id_max (vm : Vm) : ℕ :=
  match vm.hvm_type with
  | .BHYVE => DISK_ID_MAX_BHYVE
  | .KVM => DISK_ID_MAX
  | .NONE => DISK_ID_MAX_OS

def Vm.existing_disk (vm : Vm) (disk_id : ℕ) : Except Error Disk :=
  if vm.disk_id_max < disk_id then .error .ItemOutOfRange
  else vm.json_get_disks[disk_id]?.elim (.error .ItemNotFound) .ok

def Vm.new_disk (vm : Vm) (disk_id : ℕ) : Except Error Unit :=
  if vm.disk_id_max < disk_id then .error .ItemOutOfRange
  else if disk_id < vm.json_get_disks.length then .error .ItemAlreadyExists
  else if vm.json_get_disks.length < disk_id then .error .ItemOutOfRange
  else .ok ()

/-- The serializer of a new disk. -/
def VmDefineDiskSerializer.new (req : Request) (vm : Vm) (disk_id : ℕ) (data : Data) :
    Except Error VmDefineDiskSerializer := do
  let image := (data.image.getD none).filter (· ≠ "")
  let img := image.bind req.find_image
  return {
    object := ← zone_object vm disk_id none
    attrs := writable vm disk_id (data.or (defaults req vm disk_id data img))
    img := img
    img_error := image.isSome && img.isNone
    zpool_changed := none }

/-- The serializer of an existing disk. -/
def VmDefineDiskSerializer.update (req : Request) (vm : Vm) (disk_id : ℕ) (disk : Disk) (data : Data) :
    Except Error VmDefineDiskSerializer := do
  let (object, img) ← fix_before req disk
  return {
    object := ← zone_object vm disk_id (some object)
    attrs := writable vm disk_id data
    img := img
    img_error := false
    zpool_changed := none }

def VmDefineDiskView.post (req : Request) (vm : Vm) (disk_id : ℕ) (data : Data) : Except Error Vm := do
  vm.new_disk disk_id
  if !vm.is_hvm && vm.is_deployed then .error .OperationNotSupported
  else do
    let ser ← VmDefineDiskSerializer.new req vm disk_id data
    -- the only field that has no default
    if ser.object.isNone && ser.attrs.size.isNone then .error (.invalid "size")
    else do
      let ser ← is_valid req vm disk_id ser
      vm.save_disks (vm.json_get_disks ++ [← ser.jsondata vm])

def VmDefineDiskView.put (req : Request) (vm : Vm) (disk_id : ℕ) (data : Data) : Except Error Vm := do
  let disk ← vm.existing_disk disk_id
  let ser ← VmDefineDiskSerializer.update req vm disk_id disk data
  let ser ← is_valid req vm disk_id ser
  vm.save_disks (vm.json_get_disks.set disk_id (← ser.jsondata vm))

def VmDefineDiskView.delete (req : Request) (vm : Vm) (disk_id : ℕ) : Except Error Vm := do
  let disk ← vm.existing_disk disk_id
  if !vm.is_hvm && (disk_id = 0 || vm.is_deployed) then .error .OperationNotSupported
  else do
    let ser ← VmDefineDiskSerializer.update req vm disk_id disk .empty
    match vm.node with
    | none => pure ()
    | some node => let _ ← find_storage node (ser.object.bind (·.zpool) |>.getD "")
    vm.save_disks (vm.json_get_disks.eraseIdx disk_id)

end views

end api.vm.define.disk
