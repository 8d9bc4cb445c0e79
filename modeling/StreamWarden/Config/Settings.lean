import StreamWarden.Config.Profile
import StreamWarden.Retry.Backoff

/-!
# Settings

The delays, sizes and paths with which a supervisor runs.

* `Settings.check` refuses a watchdog that would never rest.
-/

namespace StreamWarden

/-- The settings of a supervisor; spans are in nanoseconds. -/
structure Settings where
  /-- How often the watchdog looks. -/
  watchdogInterval : Nat := Time.seconds 1
  /-- The age of the latest frame that counts as a stall. -/
  stallThreshold : Nat := Time.millis 300
  /-- The waits between failed builds. -/
  retry : Backoff := Backoff.default
  /-- The wait between the teardown of a graph and the rebuild. -/
  settleDelay : Nat := Time.millis 250
  /-- The time that a recording gets to write out what it holds. -/
  drainGrace : Nat := Time.millis 50
  /-- How many events are kept for slow readers. -/
  busCapacity : Nat := 1024
  /-- The file that shares the recording flag with other programs. -/
  statusPath : String := "/dev/shm/channel_data"
  /-- The file that names the mount point of removable storage. -/
  mountHelperPath : String := "/sys/kernel/mount_helper/mount_point"
  deriving DecidableEq, Repr

namespace Settings

/-- The spans that must not be zero. -/
def check (s : Settings) : Except ConfigError Unit :=
  if s.watchdogInterval = 0 then .error (.zeroDuration "watchdog_interval")
  else if s.stallThreshold = 0 then .error (.zeroDuration "stall_threshold")
  else .ok ()

/-- The number of events to keep, at least one. -/
def busRoom (s : Settings) : Nat := Nat.max s.busCapacity 1

/-- Settings and profile are both in order; the settings are looked at first. -/
def checkAll (s : Settings) (p : Profile) : Except ConfigError Unit :=
  match s.check with
  | .error e => .error e
  | .ok () => p.check

theorem check_eq_ok_iff {s : Settings} :
    s.check = .ok () ↔ 0 < s.watchdogInterval ∧ 0 < s.stallThreshold := by
  simp only [check]
  split
  · simp_all
  · split
    · simp_all
    · simp_all; omega

end Settings

end StreamWarden
