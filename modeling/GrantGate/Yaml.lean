import GrantGate.Wire.Source
import GrantGate.Yaml.Node

namespace GrantGate

/-- A node of an outline file. What a scalar means is left to whoever reads it, unless that has to
be settled before it is known what is wanted. -/
structure Yaml where
  node : Yaml.Node
  /-- The nodes that aliases name. -/
  targets : List (Nat × Yaml.Node)
  /-- Whether scalars are what they are by themselves. -/
  settled : Bool := false

namespace Yaml

/-- The node itself, or the one that it names. -/
def follow (targets : List (Nat × Node)) : Node → Node
  | .alias number => (targets.lookup number).getD nothing
  | x => x

def textOf? (targets : List (Nat × Node)) (x : Node) : Option String :=
  match follow targets x with
  | .scalar s => some s.text
  | _ => none

/-- A scalar that nobody wants to be anything in particular. -/
def settledView (s : Scalar) : Wire.View Yaml :=
  match s.meaning? with
  | some .null => .null
  | some (.bool b) => .bool b
  | some (.number n) => .number n
  | some .text => .text s.text
  | some .limitless | none => .broken

instance : Wire.Source Yaml where
  style := ⟨false, false, true⟩
  view y :=
    match follow y.targets y.node with
    | .scalar s => if y.settled then settledView s else .scalar s
    | .items xs => .items (xs.map fun x => { y with node := x }) true
    | .members ms =>
      .members (ms.map fun (k, x) => (textOf? y.targets k, { y with node := x })) true
    | .alias _ => .broken
  value? _ := none
  skippable _ := true
  settle y := { y with settled := true }

/-- Reads a text that is one document. An empty one is the empty scalar. -/
def ofText? (s : String) : Option Yaml := do
  let d ← Document.ofTokens? (← tokensOf? s)
  return { node := d.root, targets := d.targets }

end Yaml

end GrantGate
