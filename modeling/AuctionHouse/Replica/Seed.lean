import AuctionHouse.Price.Reading
import AuctionHouse.Replica.Basic
import AuctionHouse.Text.Blank
import AuctionHouse.Text.Lines
import AuctionHouse.Text.Utf8

/-!
# Seeding a replica

A replica can start from a file of auctions, one row each: start price, description and reserve
price between commas, with blanks around them that do not count.  Blank lines are passed over.  The
whole file is read before anything is entered, so a bad row leaves the replica as it was; then the
rows are entered one by one under the numbers from zero on.  The number of the next row is counted up
before it is known whether there is one, so the greatest number is never given to a row.
-/

namespace AuctionHouse

/-- What is wrong with a row. -/
inductive RowFault where
  /-- There are not three fields. -/
  | fieldCount
  /-- The first field is no price. -/
  | startPrice
  /-- The last field is no price. -/
  | minPrice
deriving DecidableEq

/-- Why seeding failed. -/
inductive SeedFault where
  /-- There is no such file. -/
  | missingFile
  /-- A line is not UTF-8. -/
  | notText
  /-- A row cannot be read; lines are counted from one, blank ones included. -/
  | badRow (line : Nat) (fault : RowFault)
  /-- The weight of a row could not be added up, or there were too many rows to count. -/
  | overflow
deriving DecidableEq

/-- The fault in words. -/
def RowFault.text : RowFault → String
  | .fieldCount => "expected start price, description, min price"
  | .startPrice => "start price is not a number"
  | .minPrice => "min price is not a number"

namespace Seed

/-- The owner of every seeded auction. -/
def owner : String := "Test"

/-- The auction of one row. -/
def readRow (line : List Char) : Except RowFault Auction :=
  match (line.splitOn ',').map Text.trim with
  | [start, description, reserve] =>
    match Price.read? start, Price.read? reserve with
    | none, _ => .error .startPrice
    | some _, none => .error .minPrice
    | some startPrice, some reservePrice =>
      .ok (.unbid owner startPrice (String.ofList description) reservePrice)
  | _ => .error .fieldCount

/-- The auctions of the lines from the given line number on. -/
def readLines (number : Nat) : List (List UInt8) → Except SeedFault (List Auction)
  | [] => .ok []
  | line :: rest =>
    match Text.ofUtf8 line with
    | .error _ => .error .notText
    | .ok text =>
      if Text.isBlankText text.toList then readLines (number + 1) rest
      else
        match readRow text.toList with
        | .error fault => .error (.badRow number fault)
        | .ok auction => (readLines (number + 1) rest).map (auction :: ·)

/-- The auctions in the bytes of a file. -/
def read (bytes : List UInt8) : Except SeedFault (List Auction) :=
  readLines 1 (Text.lines 10 bytes)

end Seed

namespace Replica

/-- Enters auctions under consecutive numbers, in place of any that were there, until a weight
cannot be added up.  One number more than there are auctions is counted. -/
def enter (replica : Replica) (id : AuctionId) (auctions : List Auction) :
    Except Overflow Unit × Replica :=
  if id.toNat + 1 < UInt32.size then
    match auctions with
    | [] => (.ok (), replica)
    | auction :: rest =>
      match replica.fingerprint.record? (.insert id auction) with
      | some fingerprint =>
        enter { replica with auctions := replica.auctions.insert id auction, fingerprint } (id + 1)
          rest
      | none => (.error .weight, replica)
  else
    (.error .weight, replica)

/-- Enters the auctions of a file under the numbers from zero on and tells how many there were. -/
def seed (replica : Replica) (bytes : List UInt8) : Except SeedFault Nat × Replica :=
  match Seed.read bytes with
  | .error fault => (.error fault, replica)
  | .ok auctions =>
    match replica.enter 0 auctions with
    | (.ok (), seeded) => (.ok auctions.length, seeded)
    | (.error _, partly) => (.error .overflow, partly)

/-- Seeding from a file that may not be there. -/
def seedFile (replica : Replica) : Option (List UInt8) → Except SeedFault Nat × Replica
  | some bytes => replica.seed bytes
  | none => (.error .missingFile, replica)

end Replica

end AuctionHouse
