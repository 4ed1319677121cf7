import AuctionHouse.Group.Address
import AuctionHouse.Replica.Seed
import AuctionHouse.Request
import AuctionHouse.Wire.Fault

/-!
# Faults

What can go wrong apart from the ordinary negative answers, and how it is reported.
-/

namespace AuctionHouse

/-- Why an operation gave no answer. -/
inductive Fault where
  /-- Nobody replied. -/
  | noReplies
  /-- There was no free number for an auction. -/
  | capacityExhausted
  /-- A member cannot be reached. -/
  | unreachable (member : Address)
  /-- A member did not hand over its state in time. -/
  | timeout (member : Address)
  /-- Bytes from another process could not be read. -/
  | wire (fault : Wire.Fault)
  /-- Seeding failed. -/
  | seed (fault : SeedFault)
  /-- The reply does not belong to the request. -/
  | unexpectedReply (reply : Reply)
  /-- There is no such kind of session. -/
  | unknownSessionKind (text : String)
  /-- A weight or a count left its range. -/
  | overflow
deriving DecidableEq

/-- Whether the fault is an overflow, which no caller is prepared for. -/
def Fault.isOverflow : Fault → Bool
  | .overflow | .seed .overflow => true
  | _ => false

/-- The report of an overflow. -/
def overflowMessage : String := "attempt to add with overflow"

/-- The report of a failed seeding. -/
def SeedFault.message : SeedFault → String
  | .missingFile => "i/o error: No such file or directory (os error 2)"
  | .notText => "i/o error: stream did not contain valid UTF-8"
  | .badRow line fault => "bad seed row on line " ++ toString line ++ ": " ++ fault.text
  | .overflow => overflowMessage

/-- The report of a fault. -/
def Fault.message : Fault → String
  | .noReplies => "no replica replied within the timeout"
  | .capacityExhausted => "auction id space exhausted"
  | .unreachable member => "member " ++ member.text ++ " is unreachable"
  | .timeout member => "timed out waiting for state from " ++ member.text
  | .wire fault => "wire codec error: " ++ fault.message
  | .seed fault => fault.message
  | .unexpectedReply reply => "unexpected reply " ++ reply.details
  | .unknownSessionKind text => "unknown session kind " ++ Text.quoted text
  | .overflow => overflowMessage

end AuctionHouse
