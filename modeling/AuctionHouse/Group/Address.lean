/-!
# Addresses

A process has an address in the multicast group and may have others in the RPC group.  All numbers
come from one counter, so the two kinds never share one.
-/

namespace AuctionHouse

/-- The two groups. -/
inductive Channel where
  /-- The group in which requests are answered. -/
  | rpc
  /-- The group in which states and commands are exchanged. -/
  | multicast
deriving DecidableEq

/-- A member's address in one of the groups. -/
structure Address where
  /-- The group. -/
  channel : Channel
  /-- The number within the common count. -/
  id : UInt64
deriving DecidableEq

namespace Address

/-- The address as it is shown. -/
def text (address : Address) : String :=
  (match address.channel with
    | .rpc => "rpc#"
    | .multicast => "mc#") ++ toString address.id.toNat

/-- Position in the order of addresses: the RPC group first, then by number. -/
def rank (address : Address) : Nat :=
  (match address.channel with
    | .rpc => 0
    | .multicast => UInt64.size) + address.id.toNat

theorem rank_lt (address : Address) : address.rank < 2 * UInt64.size := by
  obtain ⟨channel, id⟩ := address
  have bound : id.toNat < UInt64.size := id.toNat_lt_size
  cases channel <;> simp only [rank] <;> omega

/-- Different addresses have different positions. -/
theorem rank_injective {left right : Address} (same : left.rank = right.rank) : left = right := by
  obtain ⟨leftChannel, leftId⟩ := left
  obtain ⟨rightChannel, rightId⟩ := right
  have leftBound : leftId.toNat < UInt64.size := leftId.toNat_lt_size
  have rightBound : rightId.toNat < UInt64.size := rightId.toNat_lt_size
  cases leftChannel <;> cases rightChannel <;> simp only [rank] at same
  · have ids : leftId = rightId := UInt64.toNat_inj.mp (by omega)
    rw [ids]
  · omega
  · omega
  · have ids : leftId = rightId := UInt64.toNat_inj.mp (by omega)
    rw [ids]

end Address

end AuctionHouse
