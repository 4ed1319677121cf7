import AuctionHouse.Wire.Fault

/-!
# Readers

A reader takes a value from the front of a list of bytes and returns it with the bytes behind it.
Readers are chained: the second one goes on where the first one stopped, and the first refusal ends
the chain.
-/

namespace AuctionHouse.Wire

/-- Takes a value from the front of bytes. -/
def Reader (value : Type) : Type := List UInt8 → Except Fault (value × List UInt8)

instance : Monad Reader where
  pure value := fun bytes => .ok (value, bytes)
  bind reader next := fun bytes =>
    match reader bytes with
    | .ok (value, rest) => next value rest
    | .error fault => .error fault

namespace Reader

variable {value other : Type}

/-- Refuses whatever follows. -/
def refuse (fault : Fault) : Reader value := fun _ => .error fault

/-- Takes exactly so many bytes. -/
def take (count : Nat) : Reader (List UInt8) := fun bytes =>
  let part := bytes.take count
  if part.length < count then .error (.unexpectedEnd (count - part.length))
  else .ok (part, bytes.drop count)

/-- Takes one byte. -/
def byte : Reader UInt8
  | [] => .error (.unexpectedEnd 1)
  | first :: rest => .ok (first, rest)

/-- Reads `count` values one after the other, behind those in `done`, which stand in reverse. -/
def repeatOnto (reader : Reader value) : Nat → List value → Reader (List value)
  | 0, done, bytes => .ok (done.reverse, bytes)
  | count + 1, done, bytes =>
    match reader bytes with
    | .ok (value, rest) => repeatOnto reader count (value :: done) rest
    | .error fault => .error fault

/-- Reads `count` values one after the other. -/
def replicate (count : Nat) (reader : Reader value) : Reader (List value) :=
  reader.repeatOnto count []

@[simp]
theorem pure_apply (result : value) (bytes : List UInt8) :
    (pure result : Reader value) bytes = .ok (result, bytes) := rfl

/-- A chain whose first part succeeds goes on with the second part. -/
theorem bind_of_ok {reader : Reader value} {next : value → Reader other} {bytes rest : List UInt8}
    {result : value} (read : reader bytes = .ok (result, rest)) :
    (reader >>= next) bytes = next result rest := by
  show (match reader bytes with
    | .ok (value, rest) => next value rest
    | .error fault => .error fault) = _
  rw [read]

/-- A chain whose first part is refused is refused. -/
theorem bind_of_error {reader : Reader value} {next : value → Reader other} {bytes : List UInt8}
    {fault : Fault} (refused : reader bytes = .error fault) :
    (reader >>= next) bytes = .error fault := by
  show (match reader bytes with
    | .ok (value, rest) => next value rest
    | .error fault => .error fault) = _
  rw [refused]

end Reader

end AuctionHouse.Wire
