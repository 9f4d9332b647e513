import Mailroom.Decimal.Shortest
import Mailroom.Entries

/-! JSON values. -/
namespace Mailroom

/-- Whole numbers from -2^63 to 2^64 - 1 are exact, any other number is a double. -/
inductive JsonNumber where
  | whole (value : Int)
  | double (value : Decimal.Binary64)
  deriving DecidableEq, Repr

def JsonNumber.render : JsonNumber → String
  | .whole n => toString n
  | .double x => x.render

/-- A JSON value; an object keeps its entries in a list. -/
inductive Json where
  | null
  | bool (value : Bool)
  | number (value : JsonNumber)
  | string (value : String)
  | array (items : List Json)
  | object (entries : List (String × Json))
  deriving Repr

namespace Json

def kind : Json → String
  | null => "null"
  | bool _ => "boolean"
  | number _ => "number"
  | string _ => "string"
  | array _ => "array"
  | object _ => "object"

mutual
/-- The entries of every object in key order, the last of several entries with one key. -/
def sorted : Json → Json
  | array items => array (sortedItems items)
  | object entries => object (sortedEntries [] entries)
  | v => v

def sortedItems : List Json → List Json
  | [] => []
  | v :: r => sorted v :: sortedItems r

def sortedEntries (done : List (String × Json)) : List (String × Json) → List (String × Json)
  | [] => done
  | (k, v) :: r => sortedEntries (Entries.insert k (sorted v) done) r
end

/-- The value of the last entry of a key in an object. -/
def get? (key : String) : Json → Option Json
  | object entries => entries.foldl (fun found (k, v) => if k = key then some v else found) none
  | _ => none

end Json

end Mailroom
