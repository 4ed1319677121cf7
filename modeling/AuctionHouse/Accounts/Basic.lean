import AuctionHouse.Accounts.Folder
import AuctionHouse.Auction.Basic

/-!
# Accounts

Bidders do not say how to reach them; it is looked up in their accounts, which are either a fixed
table or a folder of files.
-/

namespace AuctionHouse

/-- Where the addresses of bidders come from. -/
inductive Accounts where
  /-- Users with their addresses; later entries replace earlier ones. -/
  | table (entries : List (String × String))
  /-- A folder of files. -/
  | folder (source : AccountFolder)

namespace Accounts

/-- The address on record for a user. -/
def email? (accounts : Accounts) (user : String) : Option String :=
  match accounts with
  | .table entries => (entries.reverse.find? fun entry => decide (entry.1 = user)).map Prod.snd
  | .folder source => source.email? user

/-- The address on record for a user, or the text that stands for none. -/
def emailOrPlaceholder (accounts : Accounts) (user : String) : String :=
  (accounts.email? user).getD noEmail

end Accounts

end AuctionHouse
