import Multicast.Program

/-!
# `Multicast.Main` — the command line

A dry run: the arguments are those of the program, and the host is one without a network on which
the loop is told to end at the first wait. What the run writes is written, its calls to the system
are not made, and its status is the process's own.

## Contents
- `Multicast.Main.host` and `main`.
-/

namespace Multicast.Main

/-- A host on which nothing happens but the end of the run. -/
def host : Host := { idle := [.signal .terminate] }

end Multicast.Main

/-- Runs the program on a host without a network. -/
def main (arguments : List String) : IO UInt32 := do
  let start : Multicast.World :=
    { host := Multicast.Main.host, flags := { period := .ofNat 0 } }
  let (exit, world) := match (Multicast.Program.main arguments).run start with
    | .ok exit world => (exit, world)
    | .error _ world => (Multicast.Program.failure, world)
  IO.print world.host.stdout
  IO.eprint world.host.stderr
  match exit with
  | .status n => pure n.toUInt32
  | .departed => pure 0
