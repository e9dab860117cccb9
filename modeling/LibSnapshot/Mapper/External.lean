import LibSnapshot.Mapper.DeviceMapper

/-!
# The manager's external collaborators

What the snapshot manager calls outside `snapshot.cpp`, `utility.cpp` and `dm.cpp`: the image
manager (libfiemap), the logical-partition helpers of fs_mgr (`CreateLogicalPartition`,
`CreateDmTable`), and liblp's metadata. None of them is under src/; each is modelled from the
spec (§6 "Dependencies exposed as interfaces") as an external call whose result the oracle
decides, acting on the model's images, devices and metadata in the way the spec describes.
-/

namespace LibSnapshot

open SM DeviceMapper

/-! ## The image manager -/

namespace ImageManager

/-- Modelled from the spec: `IImageManager::CreateBackingImage` (libfiemap): a persistent
backing file of `size` bytes, refused when one of that name exists. -/
def createBackingImage (name : String) (size : UInt64) : SM Bool := do
  let ok ← extCall
  if ok ∧ lookup (← sys).images name = none then
    effect (.createImage name size)
    return true
  else return false

/-- Modelled from the spec: `IImageManager::BackingImageExists` (libfiemap). -/
def backingImageExists (name : String) : SM Bool := do
  let ok ← extCall
  return ok && (lookup (← sys).images name).isSome

/-- Modelled from the spec: `IImageManager::DeleteBackingImage` (libfiemap). -/
def deleteBackingImage (name : String) : SM Bool := do
  let ok ← extCall
  if ok ∧ (lookup (← sys).images name).isSome then
    effect (.deleteImage name)
    return true
  else return false

/-- Map the backing image `name` as a device of the same name: a linear table over the image's
file, refused when the image does not exist or is mapped. The call may wait for the device. -/
def mapImage (name : String) : SM (Option String) := do
  let ok ← waitCall
  let s ← sys
  match ok, lookup s.images name, lookup s.devices name with
  | true, some size, none =>
    let table := [⟨0, size.toNat / 512, .linear ("/data/gsi/ota/" ++ name ++ ".img") 0⟩]
    setDevice name { uuid := generateUuid name, table := table }
    return some ("/dev/block/dm-" ++ name)
  | _, _, _ => return none

/-- Modelled from the spec: `IImageManager::MapImageDevice` (libfiemap). -/
def mapImageDevice (name : String) (_timeout_ms : Int) : SM (Option String) := mapImage name

/-- Modelled from the spec: `ImageManager::MapImageWithDeviceMapper` (libfiemap), the
first-stage variant. -/
def mapImageWithDeviceMapper (name : String) : SM (Option String) := mapImage name

/-- Modelled from the spec: `IImageManager::UnmapImageIfExists` (libfiemap). -/
def unmapImageIfExists (name : String) : SM Bool := do
  let ok ← extCall
  if !ok then return false
  modifySys fun s => { s with devices := erase s.devices name }
  return true

end ImageManager

/-! ## Partition metadata and logical partitions -/

/-- `LP_METADATA_DEFAULT_PARTITION_NAME`, the super partition. -/
def LP_METADATA_DEFAULT_PARTITION_NAME : String := "super"

/-- `kSectorSize`, 512 bytes. -/
def kSectorSize : UInt64 := 512

/-- Modelled from the spec: `android::fs_mgr::ReadMetadata` (liblp): the metadata of a slot of
the super partition. -/
def readMetadata (slot : String) : SM (Option (List Partition)) := do
  let ok ← extCall
  let s ← sys
  return if ok then some (s.metadata slot) else none

/-- `android::fs_mgr::FindPartition` (liblp). -/
def findPartition (metadata : List Partition) (name : String) : Option Partition :=
  metadata.find? (·.name = name)

/-- `CreateLogicalPartitionParams` (fs_mgr) with the fields the manager sets. -/
structure CreateLogicalPartitionParams where
  block_device : String := LP_METADATA_DEFAULT_PARTITION_NAME
  metadata : Option (List Partition) := none
  metadata_slot : String := ""
  partition : Option Partition := none
  partition_name : String := ""
  device_name : String := ""
  force_writable : Bool := false
  timeout_ms : Int := 0

namespace CreateLogicalPartitionParams

/-- `GetPartitionName()`: the partition's name, or `partition_name` without a partition. -/
def getPartitionName (p : CreateLogicalPartitionParams) : String :=
  match p.partition with
  | some part => part.name
  | none => p.partition_name

/-- `GetDeviceName()`: `device_name`, or the partition's name when it is empty. -/
def getDeviceName (p : CreateLogicalPartitionParams) : String :=
  if p.device_name.isEmpty then p.getPartitionName else p.device_name

/-- Modelled from the spec: `CreateLogicalPartitionParams::InitDefaults` (fs_mgr): read the
metadata of `metadata_slot` if none is given, and find the partition by name if none is given. -/
def initDefaults (p : CreateLogicalPartitionParams) : SM (Option CreateLogicalPartitionParams) := do
  let metadata ← match p.metadata with
    | some m => pure (some m)
    | none => readMetadata p.metadata_slot
  let some metadata := metadata | return none
  let partition := match p.partition with
    | some part => some part
    | none => findPartition metadata p.partition_name
  let some partition := partition | return none
  return some
    { p with metadata := some metadata, partition := some partition, partition_name := partition.name }

end CreateLogicalPartitionParams

/-- The linear targets of a partition's extents on `block_device`, one after another. -/
def linearTargets (block_device : String) : Nat → List (Nat × Nat) → List DmTarget
  | _, [] => []
  | start, (len, sector) :: es => ⟨start, len, .linear block_device sector⟩ ::
      linearTargets block_device (start + len) es

/-- Modelled from the spec: `android::fs_mgr::CreateDmTable` (fs_mgr): the linear table of the
partition's extents in super. -/
def createDmTable (params : CreateLogicalPartitionParams) : SM (Option (List DmTarget)) := do
  let some p ← params.initDefaults | return none
  return p.partition.map fun part => linearTargets p.block_device 0 part.extents

/-- Modelled from the spec: `android::fs_mgr::CreateLogicalPartition` (fs_mgr): the partition's
linear table under `GetDeviceName()`, with `DeviceMapper::CreateDevice`. -/
def createLogicalPartition (params : CreateLogicalPartitionParams) : SM (Bool × String) := do
  let some p ← params.initDefaults | return (false, "")
  let some table ← createDmTable p | return (false, "")
  createDeviceTable p.getDeviceName table "" p.timeout_ms

end LibSnapshot
