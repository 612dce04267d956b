import Multicast.World

/-!
# `Multicast.Descriptors` — room for one socket per group

Every group that is received needs a descriptor of its own. The soft limit on open descriptors is
raised when it is below what a full table would need, as far as the hard limit allows it. The refusal
names the limit that was wanted, unless that has too many digits to be written.

## Contents
- `Act.raiseDescriptorLimit`.
-/

namespace Multicast

/-- The limit that stands for none. -/
def noLimit : Int := -1

/-- Raises the soft limit to hold `capacity` sockets and some descriptors in reserve; tells the
limit that is in force then. -/
def Act.raiseDescriptorLimit (capacity reserve : Int) : Act Int := do
  recover (check .readLimits) Fault.isRefusal fun e => throw (.resource (.reading e.message))
  let host := (← get).host
  log .debug s!"NOFILE: current {host.softLimit} max {host.hardLimit}"
  let wanted := capacity + reserve
  if host.softLimit = noLimit ∨ wanted ≤ host.softLimit then pure host.softLimit
  else if host.hardLimit ≠ noLimit ∧ host.hardLimit < wanted then do
    let _ ← ofExcept ((Text.writeInteger wanted).mapError .numeral)
    throw (.resource (.bounded wanted host.hardLimit))
  else
    recover (attempt .setLimits (.setLimits wanted host.hardLimit)) Fault.isRefusal fun e =>
      throw (.resource (.raising wanted e.message))
    modifyHost ({ · with softLimit := wanted })
    log .debug s!"NOFILE: set new current {wanted} max {host.hardLimit}"
    pure wanted

end Multicast
