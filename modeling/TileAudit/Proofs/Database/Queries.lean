import TileAudit.Database.Engine
import TileAudit.Proofs.Binary64.Cells
import TileAudit.Proofs.Binary64.Scaling
import TileAudit.Proofs.Binary64.Zeros

/-!
# What a library for databases is relied on for

A query that compares columns with parameters yields the rows in which they are equal, and a query
that cannot be asked is refused.
-/

namespace TileAudit

open Binary64

/-!
## Cells that are equal to a parameter

A number is stored as a whole number or as a binary one; no two numbers of 32 bits are stored alike.
-/

namespace Cell

/-- A cell that holds a number of 32 bits. -/
def IsNumber (cell : Cell) (n : UInt32) : Prop :=
  cell = .integer n.toNat ∨ ∃ value, cell = .real value ∧ (value == Float.ofNat n.toNat) = true

variable {cell : Cell} {n m : UInt32}

theorem equals_text_iff {text : String} : cell.equals (.text text) = true ↔ cell = .text text := by
  cases cell with
  | text stored =>
      show (stored == text) = true ↔ _
      rw [beq_iff_eq, Cell.text.injEq]
  | null | integer _ | real _ | blob _ => exact iff_of_false Bool.false_ne_true (fun h => by cases h)

theorem equals_number_iff : cell.equals (.number n) = true ↔ cell.IsNumber n := by
  cases cell with
  | integer stored =>
      show (stored == Int.ofNat n.toNat) = true ↔ _
      simp [IsNumber]
  | real stored =>
      show (stored == Float.ofNat n.toNat) = true ↔ _
      simp [IsNumber]
  | null | text _ | blob _ =>
      refine iff_of_false Bool.false_ne_true ?_
      rintro (h | ⟨_, h, _⟩) <;> cases h

theorem hasValue_of_beq {x : Float} (h : (x == Float.ofNat n.toNat) = true) :
    HasValue x n.toNat := by
  have hsmall : n.toNat < 2 ^ 53 := Nat.lt_trans n.toNat_lt (by decide)
  have hvalue := hasValue_ofNat_of_isRepresentable (isRepresentable_ofNat hsmall)
  rcases sameNumber_of_beq h with rfl | ⟨hx, hzero⟩
  · exact hvalue
  · rw [hvalue.unique hzero.hasValue]
    exact hx.hasValue

theorem IsNumber.unique (h : cell.IsNumber n) (h' : cell.IsNumber m) : n = m := by
  rcases h with rfl | ⟨value, rfl, hvalue⟩
  · rcases h' with hm | ⟨_, hm, _⟩
    · have hsame : (n.toNat : Int) = m.toNat := Cell.integer.inj hm
      exact UInt32.toNat_inj.mp (Int.ofNat.inj hsame)
    · cases hm
  · rcases h' with hm | ⟨_, hm, hvalue'⟩
    · cases hm
    · cases hm
      have hsame := (hasValue_of_beq hvalue).unique (hasValue_of_beq hvalue')
      exact UInt32.toNat_inj.mp (by exact_mod_cast hsame)

end Cell

/-!
## Answers to queries

The columns of a table hold what was put into them and compare it as it is; in particular the case
of letters counts. What a library does with other queries than these is of no concern.
-/

/-- A library that answers queries that compare columns with parameters. -/
structure DatabaseEngine.Lawful [DatabaseEngine] : Prop where
  /-- The rows in which the columns are equal to the parameters are yielded one by one, in the order
  of the table. -/
  selects {entry : Entry} {db : Database} {table : TileTable} (selection : Selection)
    (bindings : List Binding) : DatabaseEngine.database? entry = some db →
    Database.isQueryName selection.table = true → db.table? selection.table = some table →
    selection.keys ≠ [] → selection.keys.length = bindings.length →
    DatabaseEngine.query entry selection.text bindings =
      .ok ((table.rows.filter (selection.admits bindings)).map fun row =>
        .ok [row.cell selection.column])
  noTable {entry : Entry} {db : Database} (selection : Selection) (bindings : List Binding) :
    DatabaseEngine.database? entry = some db → Database.isQueryName selection.table = true →
    db.table? selection.table = none → selection.keys ≠ [] →
    ∃ reason, DatabaseEngine.query entry selection.text bindings = .error reason
  /-- A name may be plain and yet have no place in a query, whatever is in the database. -/
  noName (selection : Selection) : Database.isPlainName selection.table = true →
    Database.isQueryName selection.table = false → selection.keys ≠ [] →
    ∃ reason, ∀ (entry : Entry) (db : Database) (bindings : List Binding),
      DatabaseEngine.database? entry = some db →
      DatabaseEngine.query entry selection.text bindings = .error reason
  noDatabase {entry : Entry} (text : String) (bindings : List Binding) :
    DatabaseEngine.database? entry = none →
    ∃ reason, DatabaseEngine.query entry text bindings = .error reason
  directory : DatabaseEngine.database? .directory = none

end TileAudit
