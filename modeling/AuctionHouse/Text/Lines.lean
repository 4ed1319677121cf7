/-!
# Lines

A file is a sequence of lines that each end with a line feed, which the last one may lack.  The
carriage return of a line that ends with both is left in place: it is blank, and whoever reads a
file here trims its lines or fields.
-/

namespace AuctionHouse.Text

/-- The parts between line feeds, without a last part that is empty. -/
def lines {symbol : Type} [DecidableEq symbol] (feed : symbol) (source : List symbol) :
    List (List symbol) :=
  let parts := source.splitOn feed
  if parts.getLast? = some [] then parts.dropLast else parts

end AuctionHouse.Text
