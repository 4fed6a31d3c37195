import RowQuery.Kinship.Search
import RowQuery.Failure

/-!
# Consulting the records

A search puts its questions to an engine, as statements on two cursors. Any of them can fail.

* `Consult` is a computation that asks questions and can stop with a fault.
* `Records.contains` asks whether a person belongs to the descent of another.
-/

namespace RowQuery

namespace Lookup

/-- The statement of a lookup. -/
def text : Lookup → String
  | familiesOf _ => "SELECT id FROM families WHERE father_id = ? OR mother_id = ?"
  | childrenOf _ => "SELECT person_id FROM children WHERE family_id = ?"

/-- The parameters of that statement. -/
def params : Lookup → List Json
  | familiesOf person => [Json.ofOption .string person, Json.ofOption .string person]
  | childrenOf family => [Json.ofOption .string family]

end Lookup

/-- Records of families, and which question to them fails, counted from one. -/
structure Records where
  graph : FamilyGraph
  fault : Option (Nat × Fault)
deriving DecidableEq

/-- What has been asked so far, and how many cursors are open. -/
structure Consultation where
  lookups : List Lookup
  openCursors : Nat
deriving DecidableEq

namespace Consultation

/-- Nothing asked yet. -/
def start : Consultation := ⟨[], 0⟩

end Consultation

/-- A computation that asks questions and can stop with a fault. -/
abbrev Consult := ExceptT Fault (StateM Consultation)

namespace Consult

/-- A computation with a cursor open, which is closed whether or not the computation stops. -/
def withCursor {α : Type} (body : Consult α) : Consult α := fun consultation =>
  let (outcome, after) := body { consultation with openCursors := consultation.openCursors + 1 }
  (outcome, { after with openCursors := after.openCursors - 1 })

end Consult

namespace Records

/-- Asks one question. -/
def ask (records : Records) (lookup : Lookup) : Consult Unit := fun consultation =>
  let after := { consultation with lookups := consultation.lookups ++ [lookup] }
  match records.fault with
  | some (n, fault) => (if after.lookups.length = n then .error fault else .ok (), after)
  | none => (.ok (), after)

/-- Asks whether `target` belongs to the descent of `root`. Nothing is asked where they are the
same person. -/
def contains (records : Records) (root target : String) : Consult Bool := do
  if root = target then return true
  let search := records.graph.search root target
  Consult.withCursor (Consult.withCursor do
    search.lookups.forM records.ask
    return search.found)

end Records

end RowQuery
