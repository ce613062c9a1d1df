/-
Structured data as a configuration is written in: scalars, sequences and mappings. A mapping keeps
its entries in the order they were written; of entries with one key the last one counts.
-/
import ClusterPilot.Number.Binary64

namespace ClusterPilot

/-- A piece of structured data. -/
inductive Data where
  | null
  | bool (b : Bool)
  | integer (i : Int)
  | number (x : Number.Binary64)
  | text (s : String)
  | bytes (bs : List UInt8)
  | sequence (items : List Data)
  | mapping (entries : List (Data × Data))
  /-- A set; only whether it has members matters. -/
  | set (isEmpty : Bool)
  /-- A date, or a date with a time. -/
  | date
  deriving Inhabited

namespace Data

/-- Data that says nothing: null, false, a zero, or something empty. -/
def isVoid : Data → Bool
  | null => true
  | bool b => !b
  | integer i => i == 0
  | number (.finite _ m _) => m == 0
  | number _ => false
  | text s => s.isEmpty
  | bytes bs => bs.isEmpty
  | sequence items => items.isEmpty
  | mapping entries => entries.isEmpty
  | set isEmpty => isEmpty
  | date => false

/-- The value of the last entry whose key is a given text. -/
def find? (key : String) (entries : List (Data × Data)) : Option Data :=
  (entries.reverse.find? fun e => match e.1 with | .text k => k == key | _ => false).map Prod.snd

end Data

end ClusterPilot
