import AuctionHouse.Auction.Basic

/-!
# Fingerprints

A fingerprint is the sum of the weights of all changes a replica has made.  A change weighs what it
touched: code points of texts, prices in hundredths, the number of the auction.  The weight itself
is added up with care, from left to right: when a term or a partial sum does not fit into a signed
word of 64 bits there is no weight.  The running fingerprint is a word and wraps around, so changes
made in another order give the same fingerprint.
-/

namespace AuctionHouse

/-- Whether an integer fits into a signed word of 64 bits. -/
def fitsWord (value : Int) : Prop :=
  Int64.minValue.toInt ≤ value ∧ value ≤ Int64.maxValue.toInt

instance (value : Int) : Decidable (fitsWord value) := inferInstanceAs (Decidable (_ ∧ _))

/-- Adds the terms to the running sum from left to right; nothing if one of the terms or of the
partial sums does not fit into a word. -/
def checkedSum? (sum : Int) : List Int → Option Int
  | [] => some sum
  | term :: rest =>
    if fitsWord term ∧ fitsWord (sum + term) then checkedSum? (sum + term) rest else none

/-- The sum of the code points of a text. -/
def textWeight (text : String) : Int :=
  text.toList.foldl (fun sum character => sum + (character.toNat : Int)) 0

/-- What an auction weighs, term by term. -/
def Auction.weightTerms (auction : Auction) : List Int :=
  [textWeight auction.bidderEmail, textWeight auction.bidderName,
    textWeight auction.description, textWeight auction.owner,
    auction.currentPrice.hundredths, auction.reservePrice.hundredths]

/-- A change that leaves a trace in the fingerprint. -/
inductive Change where
  /-- An auction was entered under a number. -/
  | insert (id : AuctionId) (auction : Auction)
  /-- An auction was taken out at somebody's request. -/
  | remove (id : AuctionId) (requester : String)
  /-- A bid was recorded. -/
  | bid (amount : Price) (name email : String)

/-- What a change weighs, term by term. -/
def Change.weightTerms : Change → List Int
  | .insert id auction => auction.weightTerms ++ [(id.toNat : Int)]
  | .remove id requester => [textWeight requester, (id.toNat : Int)]
  | .bid amount name email => [amount.hundredths, textWeight name, textWeight email]

/-- The weight of a change, unless adding it up leaves the range of a word. -/
def Change.weight? (change : Change) : Option Int := checkedSum? 0 change.weightTerms

/-- The trace that changes have left. -/
abbrev Fingerprint := Int64

/-- The fingerprint after a change; none if the change has no weight. -/
def Fingerprint.record? (fingerprint : Fingerprint) (change : Change) : Option Fingerprint :=
  change.weight?.map fun weight => fingerprint + Int64.ofInt weight

/-- A sum that is found is the sum. -/
theorem checkedSum?_eq_some {start total : Int} {terms : List Int}
    (found : checkedSum? start terms = some total) : total = terms.foldl (· + ·) start := by
  induction terms generalizing start with
  | nil => simpa [checkedSum?] using found.symm
  | cons term rest ih =>
    rw [checkedSum?] at found
    split at found
    · rw [ih found, List.foldl_cons]
    · simp at found

end AuctionHouse
