import CamFlow.Ifc.Label
import CamFlow.Ifc.Fs
import CamFlow.Ifc.System
import CamFlow.Ifc.Requests
import CamFlow.Provenance.Record
import CamFlow.Provenance.Monad
import CamFlow.Provenance.Hooks
import CamFlow.Provenance.Events
import CamFlow.Provenance.Moves
import CamFlow.Provenance.HookSteps
import CamFlow.Provenance.Ownership
import CamFlow.Provenance.Names
import CamFlow.Provenance.Ids
import CamFlow.Provenance.Lifecycle
import CamFlow.Provenance.Superblock
import CamFlow.Provenance.Capture
import CamFlow.Provenance.Faults
import CamFlow.Provenance.Lookup
import CamFlow.Provenance.Dangling
import CamFlow.Provenance.Errors
import CamFlow.Provenance.Schema
import CamFlow.Provenance.Crashes
