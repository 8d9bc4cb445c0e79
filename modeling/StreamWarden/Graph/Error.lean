import StreamWarden.Graph.State
import StreamWarden.Files.Error

/-!
# Why a graph or a recording branch could not be made

Each failure has a label that stays the same whatever the details, a message for
people, a full account of its parts (`detail`), and at times a cause in the
system below (`reason?`).
-/

namespace StreamWarden

/-- Why a graph could not be built or set playing. -/
inductive BuildError where
  /-- A plugin that the graph needs is not installed. -/
  | capabilityMissing (factory : String)
  /-- Two stages do not fit together. -/
  | linkFailed (source target : String)
  /-- The graph refused a run state. -/
  | stateChange (target : GraphState)
  deriving DecidableEq, Repr

namespace BuildError

/-- The label of a failed build. -/
def label : BuildError → String
  | .capabilityMissing _ => "build_capability_missing"
  | .linkFailed _ _ => "build_link_failed"
  | .stateChange _ => "build_state_change"

/-- The message of a failed build. -/
def message : BuildError → String
  | .capabilityMissing factory => "no such element or plugin \"" ++ factory ++ "\""
  | .linkFailed source target => "could not link " ++ source ++ " to " ++ target
  | .stateChange target => "unable to set graph to " ++ target.tag

/-- A failed build in full. -/
def detail : BuildError → String
  | .capabilityMissing factory =>
    Text.showFields "CapabilityMissing" [("factory", Text.quote factory)]
  | .linkFailed source target =>
    Text.showFields "Link" [("from", Text.quote source), ("to", Text.quote target)]
  | .stateChange target => Text.showFields "StateChange" [("target", target.tag)]

end BuildError

/-- Why there is no place to record to. -/
inductive StorageError where
  /-- The file that names the mount point is missing. -/
  | helperAbsent (path : String)
  /-- The file that names the mount point cannot be read. -/
  | helperUnreadable (path : String) (reason : Files.Error)
  /-- It names nothing. -/
  | notMounted
  /-- It names something that is no directory. -/
  | notADirectory (path : String)
  deriving DecidableEq, Repr

namespace StorageError

/-- The label of a storage failure. -/
def label : StorageError → String
  | .helperAbsent _ => "storage_helper_absent"
  | .helperUnreadable _ _ => "storage_helper_unreadable"
  | .notMounted => "storage_not_mounted"
  | .notADirectory _ => "storage_not_a_directory"

/-- The message of a storage failure. -/
def message : StorageError → String
  | .helperAbsent path => "mount helper " ++ path ++ " is absent"
  | .helperUnreadable path reason =>
    "mount helper " ++ path ++ " is unreadable: " ++ reason.message
  | .notMounted => "no removable storage mounted"
  | .notADirectory path => "mount point " ++ path ++ " is not a directory"

/-- The failure of the file system behind a storage failure. -/
def reason? : StorageError → Option Files.Error
  | .helperUnreadable _ reason => some reason
  | _ => none

/-- A storage failure in full. -/
def detail : StorageError → String
  | .helperAbsent path => Text.showFields "HelperAbsent" [("path", Text.quote path)]
  | .helperUnreadable path reason =>
    Text.showFields "HelperUnreadable"
      [("path", Text.quote path), ("source", reason.detail)]
  | .notMounted => "NotMounted"
  | .notADirectory path => Text.showFields "NotADirectory" [("path", Text.quote path)]

end StorageError

/-- Why a recording branch could not be made. -/
inductive BranchError where
  /-- The graph has no stage that duplicates its data. -/
  | noDuplicationPoint
  /-- That stage gives out no further attach point. -/
  | attachPointUnavailable
  /-- A stage of the branch could not be built. -/
  | build (cause : BuildError)
  /-- There is no place to record to. -/
  | storage (cause : StorageError)
  deriving DecidableEq, Repr

namespace BranchError

/-- The label of a branch failure. -/
def label : BranchError → String
  | .noDuplicationPoint => "branch_no_duplication_point"
  | .attachPointUnavailable => "branch_attach_point_unavailable"
  | .build _ => "branch_build_failed"
  | .storage cause => cause.label

/-- The message of a branch failure. -/
def message : BranchError → String
  | .noDuplicationPoint => "graph has no duplication point"
  | .attachPointUnavailable => "duplication point refused a new attach point"
  | .build cause => cause.message
  | .storage cause => cause.message

/-- The failure of the file system behind a branch failure. -/
def reason? : BranchError → Option Files.Error
  | .storage cause => cause.reason?
  | _ => none

/-- A branch failure in full. -/
def detail : BranchError → String
  | .noDuplicationPoint => "NoDuplicationPoint"
  | .attachPointUnavailable => "AttachPointUnavailable"
  | .build cause => Text.showWrapped "Build" cause.detail
  | .storage cause => Text.showWrapped "Storage" cause.detail

end BranchError

end StreamWarden
