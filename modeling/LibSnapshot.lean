import LibSnapshot.Text.Status
import LibSnapshot.Text.State
import LibSnapshot.Core.World
import LibSnapshot.Core.Spec
import LibSnapshot.Mapper.DeviceMapper
import LibSnapshot.Mapper.External
import LibSnapshot.Mapper.TableStatus
import LibSnapshot.Manager.Files
import LibSnapshot.Manager.Map
import LibSnapshot.Manager.Merge
import LibSnapshot.Manager.Update
import LibSnapshot.Manager.System
import LibSnapshot.Proof.Frames
import LibSnapshot.Proof.Locking
import LibSnapshot.Proof.Invariant
import LibSnapshot.Proof.Calls
import LibSnapshot.Proof.Cleanup
import LibSnapshot.Proof.Sound
import LibSnapshot.Proof.UpdateSections
import LibSnapshot.Proof.MergeSections
import LibSnapshot.Proof.Reachable
import LibSnapshot.Proof.Stack
import LibSnapshot.Proof.Poll
import LibSnapshot.Proof.Crash
import LibSnapshot.Proof.Faultless
import LibSnapshot.Proof.Initiate
import LibSnapshot.Proof.Complete
import LibSnapshot.Proof.Verdict
import LibSnapshot.Proof.Build
import LibSnapshot.Proof.Tables
import LibSnapshot.Proof.Remap
