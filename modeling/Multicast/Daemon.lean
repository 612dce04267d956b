import Multicast.World

/-!
# `Multicast.Daemon` — leaving the terminal behind

A daemon is the grandchild of the process that was started: the first child opens a session of its
own, and its child cannot get a terminal any more. Parents leave at once.

## Contents
- `Act.fork` and `Act.becomeDaemon`.
-/

namespace Multicast.Act

/-- Splits the process in two; the parent leaves. -/
def fork : Act Unit := do
  let forks := (← get).host.forks
  let pid := forks.headD 0
  modifyHost ({ · with forks := forks.tail })
  call (.fork pid)
  if 0 < pid then throw .departed

/-- Becomes a daemon, in a working directory if one is given, with the null device for the standard
streams. -/
def becomeDaemon (directory : Option String) : Act Unit := do
  fork
  call .newSession
  fork
  match directory with
  | some path => if path ≠ "" then call (.changeDirectory path)
  | none => pure ()
  call (.setMask 0)
  call .openNull
  let null := (← get).host.nullDescriptor
  [0, 1, 2].forM fun stream => call (.duplicate null stream)
  if 2 < null then call (.closeDescriptor null)

end Multicast.Act
