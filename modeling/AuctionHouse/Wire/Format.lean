import AuctionHouse.Group.Message
import AuctionHouse.Request
import AuctionHouse.Wire.Integer

/-!
# The wire format

How each kind of value that travels between processes is written as bytes and read back.  The parts
of a value follow each other without marks between them; a choice is the number of the alternative
followed by what it carries; an optional value is preceded by a byte that tells whether it is
there; a text and a catalogue are preceded by their lengths.  A value read leaves the bytes behind
it alone.
-/

namespace AuctionHouse

/-- Values that travel. -/
class Wire (value : Type) where
  /-- The bytes of a value. -/
  write : value → List UInt8
  /-- Takes a value from the front of bytes. -/
  read : Wire.Reader value

namespace Wire

instance : Wire UInt32 where
  write number := writeNatural number.toNat
  read := do pure (UInt32.ofNat (← readWord32))

instance : Wire UInt64 where
  write number := writeNatural number.toNat
  read := do pure (UInt64.ofNat (← readWord64))

instance : Wire Int64 where
  write number := writeNatural (fold number.toInt)
  read := do pure (Int64.ofInt (← readSigned64))

instance : Wire Price where
  write price := littleEndian 8 price.bits.toNat
  read := do pure ⟨UInt64.ofNat (ofLittleEndian (← Reader.take 8))⟩

instance : Wire String where
  write text :=
    let bytes := Text.utf8Bytes text
    writeNatural bytes.length ++ bytes
  read := do
    match Text.ofUtf8 (← Reader.take (← readWord64)) with
    | .ok text => pure text
    | .error fault => Reader.refuse (.text fault)

instance {value : Type} [Wire value] : Wire (Option value) where
  write
    | none => [0]
    | some present => 1 :: write present
  read := do
    match ← Reader.byte with
    | 0 => pure none
    | 1 => do pure (some (← read))
    | mark => Reader.refuse (.optionMark mark.toNat)

instance {first second : Type} [Wire first] [Wire second] : Wire (first × second) where
  write pair := write pair.1 ++ write pair.2
  read := do pure (← read, ← read)

/-- Reads which of `count` alternatives was chosen and hands its number on. -/
def readChoice {value : Type} (count : Nat) (alternative : Nat → Reader value) : Reader value := do
  let chosen ← readWord32
  if chosen < count then alternative chosen
  else Reader.refuse (.unknownVariant chosen count)

instance : Wire Auction where
  write auction :=
    write auction.currentPrice ++ write auction.reservePrice ++ write auction.description ++
      write auction.owner ++ write auction.bidderName ++ write auction.bidderEmail
  read := do
    pure {
      currentPrice := ← read, reservePrice := ← read, description := ← read, owner := ← read
      bidderName := ← read, bidderEmail := ← read }

instance : Wire BidOutcome where
  write
    | .accepted => writeNatural 0
    | .tooLow => writeNatural 1
    | .noSuchAuction => writeNatural 2
  read := readChoice 3 fun
    | 0 => pure .accepted
    | 1 => pure .tooLow
    | _ => pure .noSuchAuction

instance : Wire Channel where
  write
    | .rpc => writeNatural 0
    | .multicast => writeNatural 1
  read := readChoice 2 fun
    | 0 => pure .rpc
    | _ => pure .multicast

instance : Wire Address where
  write address := write address.channel ++ write address.id
  read := do pure { channel := ← read, id := ← read }

instance : Wire Request where
  write
    | .fingerprint => writeNatural 0
    | .addAuction auction => writeNatural 1 ++ write auction
    | .removeAuction requester id => writeNatural 2 ++ write requester ++ write id
    | .placeBid id amount name email =>
      writeNatural 3 ++ write id ++ write amount ++ write name ++ write email
    | .listings => writeNatural 4
  read := readChoice 5 fun
    | 0 => pure .fingerprint
    | 1 => do pure (.addAuction (← read))
    | 2 => do pure (.removeAuction (← read) (← read))
    | 3 => do pure (.placeBid (← read) (← read) (← read) (← read))
    | _ => pure .listings

instance : Wire Reply where
  write
    | .fingerprint value => writeNatural 0 ++ write value
    | .added id => writeNatural 1 ++ write id
    | .removed auction => writeNatural 2 ++ write auction
    | .bid outcome => writeNatural 3 ++ write outcome
    | .listings text => writeNatural 4 ++ write text
  read := readChoice 5 fun
    | 0 => do pure (.fingerprint (← read))
    | 1 => do pure (.added (← read))
    | 2 => do pure (.removed (← read))
    | 3 => do pure (.bid (← read))
    | _ => do pure (.listings (← read))

instance : Wire Command where
  write
    | .sync => writeNatural 0
  read := readChoice 1 fun _ => pure .sync

instance : Wire Multicast where
  write
    | .command command peer => writeNatural 0 ++ write command ++ write peer
    | .announce rpc multicast => writeNatural 1 ++ write rpc ++ write multicast
  read := readChoice 2 fun
    | 0 => do pure (.command (← read) (← read))
    | _ => do pure (.announce (← read) (← read))

instance : Wire Envelope where
  write envelope := write envelope.sender ++ write envelope.receiver ++ write envelope.body
  read := do pure { sender := ← read, receiver := ← read, body := ← read }

instance {value : Type} [Wire value] : Wire (Catalogue value) where
  write catalogue := writeNatural catalogue.size ++ catalogue.rows.flatMap write
  read := do
    let count ← readLength
    pure (.ofList (← Reader.replicate count (read : Reader (AuctionId × value))))

instance : Wire Snapshot where
  write snapshot :=
    write snapshot.nextId ++ write snapshot.auctions ++ write snapshot.fingerprint
  read := do pure { nextId := ← read, auctions := ← read, fingerprint := ← read }

/-- The value at the front of bytes; what follows it is ignored. -/
def decode (value : Type) [Wire value] (bytes : List UInt8) : Except Fault value :=
  (read bytes : Except Fault (value × List UInt8)).map Prod.fst

/-- What a receiver makes of a value that is sent. -/
def transmit {value : Type} [Wire value] (sent : value) : Except Fault value :=
  decode value (write sent)

end Wire

end AuctionHouse
