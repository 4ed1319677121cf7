import AuctionHouse.Group.Address

/-!
# Messages

What is posted in the multicast group: commands to a replica, and announcements of which two
addresses belong together.
-/

namespace AuctionHouse

/-- What a replica can be commanded. -/
inductive Command where
  /-- To replace its state by that of a peer. -/
  | sync
deriving DecidableEq

/-- The body of a message. -/
inductive Multicast where
  /-- A command that concerns a peer. -/
  | command (command : Command) (peer : Address)
  /-- One process has these two addresses. -/
  | announce (rpc multicast : Address)
deriving DecidableEq

/-- A message with its sender and, if it is not for everybody, its only receiver. -/
structure Envelope where
  /-- The sender. -/
  sender : Address
  /-- The only receiver, if there is one. -/
  receiver : Option Address
  /-- What the message says. -/
  body : Multicast
deriving DecidableEq

end AuctionHouse
