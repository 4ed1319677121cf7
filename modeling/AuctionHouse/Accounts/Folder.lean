import AuctionHouse.Text.Blank
import AuctionHouse.Text.Lines
import AuctionHouse.Text.Utf8

/-!
# Accounts in a folder

Each account is a file in a folder of its own, named for the user, and its first line is the user's
address.  User names are not checked: a name is part of a path, so it is resolved like one, from the
folder of all accounts or, if it begins with a slash, from the top.  A path that is too long as a
whole leads nowhere.
-/

namespace AuctionHouse

/-- A place in the file system: the names on the way from the top. -/
abbrev Path := List String

/-- The files that can be read, and the folder in which the accounts are. -/
structure AccountFolder where
  /-- Every file with its contents; later ones replace earlier ones in the same place. -/
  files : List (Path × List UInt8)
  /-- The folder of all accounts. -/
  root : Path

namespace AccountFolder

/-- The name of the file in an account's folder. -/
def fileName : String := "Details.csv"

/-- Whether a place is a folder: on the way to the accounts or to some file. -/
def isFolder (folder : AccountFolder) (place : Path) : Bool :=
  place.isPrefixOf folder.root ||
    folder.files.any fun file => place.isPrefixOf file.1 && decide (place ≠ file.1)

/-- The contents of the file in a place. -/
def contents? (folder : AccountFolder) (place : Path) : Option (List UInt8) :=
  (folder.files.reverse.find? fun file => decide (file.1 = place)).map Prod.snd

/-- Follows the parts of a path.  Each part but the last has to lead into a folder, of which an
empty part and a dot lead back into the same and two dots into the one above. -/
def follow? (folder : AccountFolder) (place : Path) : List String → Option Path
  | [] => some place
  | part :: rest =>
    if folder.isFolder place then
      if part = "" ∨ part = "." then folder.follow? place rest
      else if part = ".." then folder.follow? place.dropLast rest
      else folder.follow? (place ++ [part]) rest
    else
      none

/-- How many bytes a path may have. -/
def longestPath : Nat := 4095

/-- A path with a part behind it and one slash at least between them. -/
def extend (path part : List Char) : List Char :=
  if path.getLast? = some '/' then path ++ part else path ++ '/' :: part

/-- The folder of all accounts as a path from the top. -/
def rootPath (folder : AccountFolder) : List Char :=
  folder.root.flatMap fun name => '/' :: name.toList

/-- The path to a user's account, before it is followed. -/
def path (folder : AccountFolder) (user : String) : List Char :=
  let home :=
    if user.toList.head? = some '/' then user.toList else extend folder.rootPath user.toList
  extend home fileName.toList

/-- The place of a user's account. -/
def place? (folder : AccountFolder) (user : String) : Option Path :=
  let path := folder.path user
  if (String.ofList path).utf8ByteSize ≤ longestPath then
    folder.follow? [] ((path.splitOn '/').map String.ofList)
  else
    none

/-- The first line of a text, trimmed. -/
def firstLine? (text : String) : Option String :=
  (Text.lines '\n' text.toList).head?.map fun line => String.ofList (Text.trim line)

/-- The address on record for a user. -/
def email? (folder : AccountFolder) (user : String) : Option String := do
  let place ← folder.place? user
  let bytes ← folder.contents? place
  let text ← (Text.ofUtf8 bytes).toOption
  firstLine? text

end AccountFolder

end AuctionHouse
