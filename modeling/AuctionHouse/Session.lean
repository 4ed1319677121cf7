import AuctionHouse.Fault

/-!
# Sessions

A client works through a session, as a seller or as a bidder, in the name of a user who has been
authenticated before.  There is one session at most for each kind and user.  Sessions that nobody
has used for a while are dropped; whoever still holds one can go on using it, but it is not found
any more and a new one takes its place.  All times are readings of one clock.
-/

namespace AuctionHouse

/-- What a client may do. -/
inductive SessionKind where
  /-- Open and close auctions. -/
  | seller
  /-- Bid and look at the table. -/
  | bidder
deriving DecidableEq

namespace SessionKind

/-- The name of the kind. -/
def text : SessionKind → String
  | .seller => "Seller"
  | .bidder => "Bidder"

/-- The kind with a name. -/
def ofText (name : String) : Except Fault SessionKind :=
  if name = seller.text then .ok .seller
  else if name = bidder.text then .ok .bidder
  else .error (.unknownSessionKind name)

end SessionKind

/-- A session. -/
structure Session where
  /-- What the client may do. -/
  kind : SessionKind
  /-- In whose name. -/
  user : String
  /-- Tells this session from later ones of the same kind and user. -/
  serial : Nat
  /-- When it was last used. -/
  lastActive : Nat
deriving DecidableEq

/-- The sessions that can be found. -/
structure SessionStore where
  /-- How many sessions there have ever been. -/
  issued : Nat
  /-- Those that are open. -/
  opened : List Session
deriving DecidableEq

namespace SessionStore

/-- Nobody has opened a session. -/
def empty : SessionStore := ⟨0, []⟩

/-- Whether a session is the one of a kind and user. -/
def isFor (kind : SessionKind) (user : String) (session : Session) : Bool :=
  decide (session.kind = kind ∧ session.user = user)

/-- The open session of a kind and user. -/
def find? (store : SessionStore) (kind : SessionKind) (user : String) : Option Session :=
  store.opened.find? (isFor kind user)

/-- Notes that a session is used now. -/
def touch (store : SessionStore) (serial now : Nat) : SessionStore :=
  { store with
    opened := store.opened.map fun session =>
      if session.serial = serial then { session with lastActive := now } else session }

/-- The open session of a kind and user, which is a new one if there was none. -/
def enter (store : SessionStore) (kind : SessionKind) (user : String) (now : Nat) :
    Session × SessionStore :=
  match store.find? kind user with
  | some session => ({ session with lastActive := now }, store.touch session.serial now)
  | none =>
    let session : Session := { kind, user, serial := store.issued, lastActive := now }
    (session, ⟨store.issued + 1, store.opened ++ [session]⟩)

/-- Closes the session of a kind and user and tells whether there was one. -/
def logOut (store : SessionStore) (kind : SessionKind) (user : String) : Bool × SessionStore :=
  ((store.find? kind user).isSome,
    { store with opened := store.opened.filter fun session => !isFor kind user session })

/-- Drops the sessions that were idle longer than allowed and tells how many. -/
def evictIdle (store : SessionStore) (now maxIdle : Nat) : Nat × SessionStore :=
  let kept := store.opened.filter fun session => decide (now - session.lastActive ≤ maxIdle)
  (store.opened.length - kept.length, { store with opened := kept })

/-- How many sessions are open. -/
def size (store : SessionStore) : Nat := store.opened.length

@[simp]
theorem isFor_iff (kind : SessionKind) (user : String) (session : Session) :
    isFor kind user session = true ↔ session.kind = kind ∧ session.user = user := by
  simp [isFor]

/-- A session that is found is one of the kind and user asked for. -/
theorem isFor_of_find? {store : SessionStore} {kind : SessionKind} {user : String}
    {session : Session} (found : store.find? kind user = some session) :
    session.kind = kind ∧ session.user = user :=
  (isFor_iff kind user session).mp (List.find?_some found)

end SessionStore

end AuctionHouse
