import AuctionHouse.Demo
import AuctionHouse.Proofs.CutOff

/-!
# Stretches of a run

What a stretch of the demonstration yields, and which lines it tells, follows from what its steps
yield: one rule for each kind of step, and one for a step with all that comes after it.  From these
rules follows what it yields to start some nodes, and to do without the last one for a while.
-/

namespace AuctionHouse.Demo

variable {value other : Type} {stretch : Stretch value} {next : value → Stretch other}
  {cluster between after : Cluster}

/-- A stretch that begins with a cluster yields a result and tells some lines. -/
def Yields (stretch : Stretch value) (cluster : Cluster)
    (result : Except Fault (value × Cluster)) (told : List String) : Prop :=
  ∀ lines, (stretch.run cluster).run lines = (result, lines ++ told)

/-! ## Steps -/

theorem run_bind (stretch : Stretch value) (next : value → Stretch other) (cluster : Cluster)
    (lines : List String) :
    ((stretch >>= next).run cluster).run lines =
      match ((stretch.run cluster).run lines : Except Fault (value × Cluster) × List String) with
      | (.ok (answer, between), told) => ((next answer).run between).run told
      | (.error fault, told) => (.error fault, told) := by
  have step (first : StateM (List String) (Except Fault (value × Cluster)))
      (rest : Except Fault (value × Cluster) →
        StateM (List String) (Except Fault (other × Cluster))) :
      (first >>= rest) lines = rest (first lines).1 (first lines).2 := rfl
  rw [StateT.run_bind, ExceptT.run_bind, step]
  rcases (stretch.run cluster).run lines with ⟨result, told⟩
  cases result with
  | ok pair => rfl
  | error fault => rfl

/-- What comes after a step that tells something. -/
theorem Yields.aloud {answer : value} {told more : List String}
    {result : Except Fault (other × Cluster)}
    (first : Yields stretch cluster (.ok (answer, between)) told)
    (rest : Yields (next answer) between result more) :
    Yields (stretch >>= next) cluster result (told ++ more) := by
  intro lines
  rw [run_bind, first lines]
  exact (rest (lines ++ told)).trans (by rw [List.append_assoc])

/-- What comes after a step that tells nothing. -/
theorem Yields.silently {answer : value} {more : List String}
    {result : Except Fault (other × Cluster)}
    (first : Yields stretch cluster (.ok (answer, between)) [])
    (rest : Yields (next answer) between result more) :
    Yields (stretch >>= next) cluster result more :=
  first.aloud rest

/-- Nothing comes after a fault. -/
theorem Yields.fault {fault : Fault} {told : List String}
    (first : Yields stretch cluster (.error fault) told) (next : value → Stretch other) :
    Yields (stretch >>= next) cluster (.error fault) told := by
  intro lines
  rw [run_bind, first lines]

variable {me : Address} {seats : List (Address × Address)} {replica : Replica}

end AuctionHouse.Demo
