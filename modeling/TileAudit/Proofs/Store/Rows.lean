import Mathlib.Logic.Relation
import TileAudit.Image.File
import TileAudit.Proofs.Database.Tables
import TileAudit.Proofs.Store.Reading

/-!
# The row that answers

A table yields for a tile the rows whose key is that of the tile, in its own order, and the first of
them answers alone. So neither a row after the first one nor any change to the rows of other keys
shows in what is read.
-/

namespace TileAudit
namespace TableStore

open Database

section

variable {rows rows' : List TileRow}

theorem answer_eq_of_head? (h : rows.head? = rows'.head?) : answer rows = answer rows' := by
  cases rows with
  | nil =>
      cases rows' with
      | nil => rfl
      | cons row rest => cases h
  | cons row rest =>
      cases rows' with
      | nil => cases h
      | cons row' rest' =>
          cases h
          rfl

theorem answer_eq_none_iff : answer rows = .ok none ↔
    rows = [] ∨ ∃ first rest, rows = first :: rest ∧ first.data = .null := by
  cases rows with
  | nil => simp [answer]
  | cons row rest =>
      cases hdata : row.data <;> simp [answer, hdata]

theorem answer_eq_some_iff {bytes : ByteArray} : answer rows = .ok (some bytes) ↔
    ∃ first rest, rows = first :: rest ∧ first.data = .blob bytes := by
  cases rows with
  | nil => simp [answer]
  | cons row rest =>
      cases hdata : row.data <;> simp [answer, hdata]

inductive IsValue : Cell → Prop where
  | text (value : String) : IsValue (.text value)
  | integer (value : Int) : IsValue (.integer value)
  | real (value : Float) : IsValue (.real value)

theorem exists_answer_eq_error_iff : (∃ reason, answer rows = .error (.store reason)) ↔
    ∃ first rest, rows = first :: rest ∧ IsValue first.data := by
  constructor
  · rintro ⟨reason, hreason⟩
    cases rows with
    | nil => cases hreason
    | cons row rest =>
        refine ⟨row, rest, rfl, ?_⟩
        cases hdata : row.data with
        | null =>
            rw [answer, hdata] at hreason
            cases hreason
        | blob bytes =>
            rw [answer, hdata] at hreason
            cases hreason
        | text value => exact .text value
        | integer value => exact .integer value
        | real value => exact .real value
  · rintro ⟨row, rest, rfl, hvalue⟩
    refine ⟨"invalid column type", ?_⟩
    rw [answer]
    generalize row.data = cell at hvalue
    cases hvalue with
    | text value => rfl
    | integer value => rfl
    | real value => rfl

end

section

variable [DatabaseEngine] {store : TableStore} {tile : TileAddress} {table : TileTable} {w : World}

theorem outcome_readBlob_eq_of_head? (hlawful : DatabaseEngine.Lawful) {table' : TileTable}
    {w' : World} (h : store.Reaches w.tree w.cwd table) (h' : store.Reaches w'.tree w'.cwd table')
    (hhead : (store.rowsOf tile table).head? = (store.rowsOf tile table').head?) :
    (Effect.run (store.readBlob tile) w).1 = (Effect.run (store.readBlob tile) w').1 := by
  cases hname : isQueryName store.table with
  | true =>
      rw [outcome_readBlob_of_reaches hlawful h hname, outcome_readBlob_of_reaches hlawful h' hname]
      exact answer_eq_of_head? hhead
  | false =>
      rcases exists_outcome_readBlob_of_badName hlawful hname with ⟨reason, hreason⟩
      rw [hreason w table tile h, hreason w' table' tile h']

end

theorem not_isRowOf_exchanged {store : TableStore} {tile : TileAddress} {row : TileRow}
    (h : store.IsRowOf ⟨tile.zoom, tile.row, tile.col⟩ row) (hne : tile.col ≠ tile.row) :
    ¬ store.IsRowOf tile row := by
  intro hrow
  exact hne (hrow.x.unique h.x)

/-- One row that is not about a tile is inserted, removed or replaced by another such row. -/
inductive EditedElsewhere (store : TableStore) (tile : TileAddress) :
    List TileRow → List TileRow → Prop where
  | inserted (front back : List TileRow) {row : TileRow} (hrow : ¬ store.IsRowOf tile row) :
      EditedElsewhere store tile (front ++ back) (front ++ row :: back)
  | removed (front back : List TileRow) {row : TileRow} (hrow : ¬ store.IsRowOf tile row) :
      EditedElsewhere store tile (front ++ row :: back) (front ++ back)
  | replaced (front back : List TileRow) {row row' : TileRow} (hrow : ¬ store.IsRowOf tile row)
      (hrow' : ¬ store.IsRowOf tile row') :
      EditedElsewhere store tile (front ++ row :: back) (front ++ row' :: back)

section

variable {store : TableStore} {tile : TileAddress} {rows rows' : List TileRow}

theorem filter_insert (front back : List TileRow) {row : TileRow}
    (hrow : ¬ store.IsRowOf tile row) :
    (front ++ row :: back).filter (fun row => store.IsRowOf tile row) =
      (front ++ back).filter (fun row => store.IsRowOf tile row) := by
  have hnot : ¬ decide (store.IsRowOf tile row) = true := by
    rw [decide_eq_true_iff]
    exact hrow
  rw [List.filter_append, List.filter_cons, if_neg hnot, List.filter_append]

theorem EditedElsewhere.filter_eq (h : EditedElsewhere store tile rows rows') :
    rows.filter (fun row => store.IsRowOf tile row) =
      rows'.filter (fun row => store.IsRowOf tile row) := by
  cases h with
  | inserted front back hrow => rw [filter_insert front back hrow]
  | removed front back hrow => rw [filter_insert front back hrow]
  | replaced front back hrow hrow' =>
      rw [filter_insert front back hrow, filter_insert front back hrow']

theorem rowsOf_eq_of_edits {table : TileTable}
    (h : Relation.ReflTransGen (EditedElsewhere store tile) table.rows rows) :
    store.rowsOf tile { table with rows := rows } = store.rowsOf tile table := by
  unfold rowsOf
  induction h with
  | refl => rfl
  | tail _ hstep ih => rw [← ih, hstep.filter_eq]

end

def sampleRow (x y : Int) (data : Cell) : TileRow :=
  { tileset := .text "set", grid := .text "grid", x := .integer x, y := .integer y, z := .integer 1,
    data := data, dim := .null }

def sampleRows : List TileRow :=
  [sampleRow 0 1 (.blob ⟨#[9]⟩), sampleRow 1 0 (.blob ⟨#[5]⟩), sampleRow 1 0 (.text "later")]

def sampleStore (table : String) (h : isPlainName table = true) : TableStore :=
  { database := "/cache.sqlite", tileset := "set", grid := "grid", table := table, plain := h }

def sampleWorld (table : String) (rows : List TileRow) : World :=
  ⟨FileTree.empty.insert ["cache.sqlite"] (.file (.database ⟨[⟨table, rows⟩]⟩) false), [], []⟩

theorem reaches_sampleWorld {table : String} (h : isPlainName table = true) (rows : List TileRow) :
    (sampleStore table h).Reaches (sampleWorld table rows).tree (sampleWorld table rows).cwd
      ⟨table, rows⟩ := by
  have hfile : (sampleWorld table rows).tree.lookup [] "/cache.sqlite" =
      .ok (["cache.sqlite"], .file (.database ⟨[⟨table, rows⟩]⟩) false) := by
    rfl
  refine ⟨_, _, _, hfile, rfl, ?_⟩
  simp [Database.table?, sampleStore]

end TableStore
end TileAudit
