/-!
# Georeference keys

A list of short numbers that tells the coordinate reference system of a raster file.
Four numbers of header are followed by entries of four: a key, the place of its value, a
count, and the value itself when the place is zero.
-/

namespace TileAudit
namespace GeoKeys

def projectedKey : UInt16 := 3072

def geographicKey : UInt16 := 2048

def isGeographic (epsg : UInt16) : Bool :=
  4000 ≤ epsg && epsg < 5000

/-- The keys that tell a code, and that samples stand for areas. -/
def ofEpsg (epsg : UInt16) : List UInt16 :=
  let geographic := isGeographic epsg
  let model : UInt16 := if geographic then 2 else 1
  let key := if geographic then geographicKey else projectedKey
  [1, 1, 0, 3,
    1024, 0, 1, model,
    1025, 0, 1, 1,
    key, 0, 1, epsg]

def entries : List UInt16 → List (UInt16 × UInt16 × UInt16 × UInt16)
  | key :: place :: count :: value :: rest => (key, place, count, value) :: entries rest
  | _ => []

/-- The values that entries keep in place for a key. -/
def valuesOf (key : UInt16) (list : List (UInt16 × UInt16 × UInt16 × UInt16)) : List UInt16 :=
  list.filterMap fun e => if e.1 = key ∧ e.2.1 = 0 then some e.2.2.2 else none

/-- The code that keys tell: the first projected one, else the last geographic one. -/
def epsg? : List UInt16 → Option UInt16
  | _ :: _ :: _ :: count :: rest =>
      let list := (entries rest).take count.toNat
      match (valuesOf projectedKey list).head? with
      | some code => some code
      | none => (valuesOf geographicKey list).getLast?
  | _ => none

end GeoKeys
end TileAudit
