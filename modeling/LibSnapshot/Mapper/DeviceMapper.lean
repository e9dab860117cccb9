import LibSnapshot.Core.World

/-!
# The device-mapper client

`DeviceMapper` (`dm.cpp`) over the model's devices. Each ioctl is one external call: it fails
when the oracle says so, and when the kernel would refuse it (creating a name in use, removing or
loading a device that does not exist). The composite `CreateDevice(name, table, path, timeout)`
(`dm.cpp:116`) deletes the device it created when a later step fails.
-/

namespace LibSnapshot

namespace DeviceMapper

open SM

/-- `DmDeviceState` (`dm.h`). -/
inductive DmDeviceState
  | INVALID
  | SUSPENDED
  | ACTIVE
  deriving DecidableEq, Repr

/-- `DM_NAME_LEN`, the size of the name field of `dm_ioctl`. -/
def DM_NAME_LEN : Nat := 128

/-- An ioctl on the device named `name`: it succeeds if the oracle lets it and the device
exists, and returns the device. -/
def ioctl (name : String) : SM (Option Device) := do
  let ok ← extCall
  let s ← sys
  return if ok then lookup s.devices name else none

/-- Store `d` as the device named `name`. -/
def setDevice (name : String) (d : Device) : SM Unit :=
  modifySys fun s => { s with devices := insert s.devices name d }

/-- `DeviceMapper::GetState` (`dm.cpp:169`): `INVALID` when `DM_DEV_STATUS` fails, `ACTIVE`
with an active table, `SUSPENDED` without. -/
def getState (name : String) : SM DmDeviceState := do
  match ← ioctl name with
  | none => return .INVALID
  | some d => return if d.table = [] then .SUSPENDED else .ACTIVE

/-- `DeviceMapper::CreateDevice(name, uuid)` (`dm.cpp:52`): `DM_DEV_CREATE` of an empty device,
which the kernel refuses for a name in use. -/
def createDevice (name uuid : String) : SM Bool := do
  if name.isEmpty then return false
  if name.length ≥ DM_NAME_LEN then return false
  let ok ← extCall
  if ok ∧ lookup (← sys).devices name = none then
    setDevice name { uuid := uuid }
    return true
  else return false

/-- `DeviceMapper::DeleteDevice` (`dm.cpp:89`): `DM_DEV_REMOVE`. -/
def deleteDevice (name : String) : SM Bool := do
  match ← ioctl name with
  | none => return false
  | some _ =>
    modifySys fun s => { s with devices := erase s.devices name }
    return true

/-- `DeviceMapper::DeleteDeviceIfExists` (`dm.cpp:82`). -/
def deleteDeviceIfExists (name : String) : SM Bool := do
  if (← getState name) = .INVALID then return true
  deleteDevice name

/-- `DeviceMapper::LoadTableAndActivate` (`dm.cpp:207`): `DM_TABLE_LOAD` into the inactive
slot, then `DM_DEV_SUSPEND` to resume, which makes it the active table. -/
def loadTableAndActivate (name : String) (table : List DmTarget) : SM Bool := do
  let some d ← ioctl name | return false
  setDevice name { d with inactive := some table }
  let some d ← ioctl name | return false
  setDevice name { d with table := table, inactive := none }
  return true

/-- `DeviceMapper::GetDeviceUniquePath` (`dm.cpp:144`): the by-uuid path, for a device with a
uuid. -/
def getDeviceUniquePath (name : String) : SM (Option String) := do
  match ← ioctl name with
  | some d => return if d.uuid.isEmpty then none else some ("/dev/block/mapper/by-uuid/" ++ d.uuid)
  | none => return none

/-- `DeviceMapper::GetDmDevicePathByName` (`dm.cpp:375`): the `dm-N` node of the device. -/
def getDmDevicePathByName (name : String) : SM (Option String) := do
  return (← ioctl name).map fun _ => "/dev/block/dm-" ++ name

/-- `DeviceMapper::GetDeviceString` (`dm.cpp:399`): the device's `major:minor`, which the model
writes as the device's name. -/
def getDeviceString (name : String) : SM (Option String) := do
  return (← ioctl name).map fun _ => name

/-- Modelled from the spec: `WaitForFile` (fs_mgr, not under src/), polling up to `timeout_ms`
for a device node: the node appears after the call's wait, and the call fails when it did not
appear or when the wait took longer than `timeout_ms`. -/
def waitForFile (_path : String) (timeout_ms : Int) : SM Bool := do
  let begin ← now
  let appeared ← waitCall
  return appeared && decide ((← now) - begin ≤ timeout_ms)

/-- `GenerateUuid` (`dm.cpp:106`): a fresh, nonempty uuid. -/
def generateUuid (name : String) : String := "uuid-" ++ name

/-- `DeviceMapper::CreateDevice(name, table, path, timeout_ms)` (`dm.cpp:116`): create, load
and resume, find the paths, and wait for the by-uuid path when `timeout_ms > 0`; the device is
deleted again when a step after its creation fails. Returns the result and `*path`: the `dm-N`
node once `GetDmDevicePathByName` has written it, else `path` as it was. -/
def createDeviceTable (name : String) (table : List DmTarget) (path : String) (timeout_ms : Int) :
    SM (Bool × String) := do
  if !(← createDevice name (generateUuid name)) then return (false, path)
  let loaded ← loadTableAndActivate name table
  let unique_path ← if loaded then getDeviceUniquePath name else pure none
  let dm_path ← if unique_path.isSome then getDmDevicePathByName name else pure none
  match unique_path, dm_path with
  | some unique_path, some dm_path =>
    if timeout_ms ≤ 0 then return (true, dm_path)
    if !(← waitForFile unique_path timeout_ms) then
      let _ ← deleteDevice name
      return (false, dm_path)
    return (true, dm_path)
  | _, _ =>
    let _ ← deleteDevice name
    return (false, path)

/-- `DeviceMapper::TargetInfo` (`dm.h`): a target of the active table with the counters of its
status line. -/
structure TargetInfo where
  spec : DmTarget
  status : Option (UInt64 × UInt64)

/-- `DeviceMapper::GetTable` (`dm.cpp:417`) behind `GetTableStatus` and `GetTableInfo`: the
targets of the device's active table. -/
def getTable (name : String) : SM (Option (List TargetInfo)) := do
  return (← ioctl name).map fun d => d.table.map fun t => ⟨t, d.status⟩

/-- `DeviceMapper::GetTableStatus` (`dm.cpp:408`). -/
def getTableStatus (name : String) : SM (Option (List TargetInfo)) := getTable name

/-- `DeviceMapper::GetTableInfo` (`dm.cpp:412`). -/
def getTableInfo (name : String) : SM (Option (List TargetInfo)) := getTable name

/-- `DeviceMapper::GetTargetType` (`dm.cpp:474`). -/
def getTargetType (spec : DmTarget) : String := spec.name

end DeviceMapper

/-- Modelled from the spec: `DmTargetSnapshot::GetDevicesFromParams` (libdm's `dm_target.cpp`,
not under src/): the base and COW devices of a snapshot target's parameters. -/
def getDevicesFromParams (t : DmTarget) : Option (String × String) :=
  match t.kind with
  | .snapshot base cow _ _ => some (base, cow)
  | .linear .. => none

end LibSnapshot
