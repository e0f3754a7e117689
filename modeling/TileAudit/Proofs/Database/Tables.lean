import TileAudit.Database.Tables
import TileAudit.Proofs.Database.Queries
import TileAudit.Proofs.Grid.Address

/-!
# Tables of tiles that answer queries

A query that is written from a selection is read as this selection: its words hold no blanks, so it
is cut into the words it was put together from. The tables then answer as a library for databases
has to.
-/

namespace TileAudit

namespace Selection

theorem blank_not_mem_name (column : Column) : ' ' ∉ column.name.toList := by
  cases column <;> decide +kernel

theorem blank_not_mem_of_isPlainName {name : String} (h : Database.isPlainName name = true) :
    ' ' ∉ name.toList := by
  unfold Database.isPlainName at h
  rw [Bool.and_eq_true, List.all_eq_true] at h
  intro hblank
  have hchar : Database.isNameChar ' ' = true := h.2 ' ' hblank
  revert hchar
  decide

theorem blank_not_mem_parameter (n : Nat) : ' ' ∉ ("?" ++ toString n).toList := by
  rw [String.toList_append, List.mem_append]
  rintro (hmark | hnumeral)
  · revert hmark
    decide +kernel
  · exact Numeral.not_mem_toString rfl n hnumeral

theorem blank_not_mem_of_mem_conditionWords {keys : List Column} {n : Nat} {word : String}
    (h : word ∈ conditionWords n keys) : ' ' ∉ word.toList := by
  have hsign : ' ' ∉ "=".toList := by decide +kernel
  have hjoin : ' ' ∉ "AND".toList := by decide +kernel
  induction n, keys using conditionWords.induct with
  | case1 n => cases h
  | case2 n key =>
      simp only [conditionWords, List.mem_cons, List.not_mem_nil, or_false] at h
      rcases h with rfl | rfl | rfl
      · exact blank_not_mem_name key
      · exact hsign
      · exact blank_not_mem_parameter n
  | case3 n key rest hrest ih =>
      rw [conditionWords] at h
      · simp only [List.mem_cons] at h
        rcases h with rfl | rfl | rfl | rfl | hlater
        · exact blank_not_mem_name key
        · exact hsign
        · exact blank_not_mem_parameter n
        · exact hjoin
        · exact ih hlater
      · exact hrest

def words (selection : Selection) : List String :=
  ["SELECT", selection.column.name, "FROM", selection.table, "WHERE"] ++
    conditionWords 1 selection.keys

variable {selection : Selection}

theorem blank_not_mem_of_mem_words (hname : Database.isPlainName selection.table = true)
    {word : String} (h : word ∈ selection.words) : ' ' ∉ word.toList := by
  rcases List.mem_append.mp h with hfirst | hcondition
  · simp only [List.mem_cons, List.not_mem_nil, or_false] at hfirst
    rcases hfirst with rfl | rfl | rfl | rfl | rfl
    · decide +kernel
    · exact blank_not_mem_name _
    · decide +kernel
    · exact blank_not_mem_of_isPlainName hname
    · decide +kernel
  · exact blank_not_mem_of_mem_conditionWords hcondition

theorem splitOnChar_text (hname : Database.isPlainName selection.table = true) :
    (TileAddress.splitOnChar ' ' selection.text.toList).map String.ofList = selection.words := by
  have htext : selection.text.toList =
      [' '].intercalate (selection.words.map String.toList) := String.toList_intercalate
  have hblank : ∀ word ∈ selection.words.map String.toList, ' ' ∉ word := by
    intro word hword
    rcases List.mem_map.mp hword with ⟨text, hmem, rfl⟩
    exact blank_not_mem_of_mem_words hname hmem
  have hcut := List.splitOn_intercalate ' ' hblank (by simp [words])
  rw [TileAddress.splitOnChar_eq_splitOn, htext, hcut, List.map_map]
  have hid : String.ofList ∘ String.toList = id := by
    funext text
    exact String.ofList_toList
  rw [hid, List.map_id]

theorem columnOf?_name (column : Column) : columnOf? column.name = some column := by
  cases column <;> decide +kernel

theorem keysOf?_conditionWords {keys : List Column} (h : keys ≠ []) (n : Nat) :
    keysOf? n (conditionWords n keys) = some keys := by
  induction n, keys using conditionWords.induct with
  | case1 n => exact absurd rfl h
  | case2 n key =>
      simp [conditionWords, keysOf?, columnOf?_name, guard]
  | case3 n key rest hrest ih =>
      have hmore : rest ≠ [] := hrest
      rw [conditionWords]
      · simp [keysOf?, columnOf?_name, guard, ih hmore]
      · exact hrest

theorem ofText?_text (hname : Database.isPlainName selection.table = true)
    (hkeys : selection.keys ≠ []) : ofText? selection.text = some selection := by
  unfold ofText?
  rw [splitOnChar_text hname, words]
  simp [columnOf?_name, keysOf?_conditionWords hkeys]

end Selection

/-!
## The tables

The tables answer every query that compares columns with parameters, and refuse the queries that a
library for databases has to refuse.
-/

namespace Database

variable {entry : Entry} {db : Database} {selection : Selection} {bindings : List Binding}

theorem ask_text (hentry : databaseOf? entry = some db)
    (hname : isPlainName selection.table = true) (hkeys : selection.keys ≠ []) :
    ask entry selection.text bindings = db.select selection bindings := by
  simp only [ask, hentry, Selection.ofText?_text hname hkeys]

theorem exists_ask_error (hentry : databaseOf? entry = none) (text : String)
    (bindings : List Binding) : ∃ reason, ask entry text bindings = .error reason := by
  unfold ask
  rw [hentry]
  exact ⟨_, rfl⟩

theorem select_of_badName (h : isQueryName selection.table = false) :
    db.select selection bindings = .error ("near \"" ++ selection.table ++ "\": syntax error") := by
  unfold select
  rw [h]
  rfl

theorem isPlainName_of_isQueryName {name : String} (h : isQueryName name = true) :
    isPlainName name = true := by
  unfold isQueryName at h
  simp only [Bool.and_eq_true] at h
  exact h.1.1

theorem select_of_noTable (hname : isQueryName selection.table = true)
    (htable : db.table? selection.table = none) :
    ∃ reason, db.select selection bindings = .error reason := by
  unfold select
  by_cases hlength : selection.keys.length = bindings.length <;> simp [hname, htable, hlength]

theorem lawful : DatabaseEngine.Lawful where
  selects := by
    intro entry db table selection bindings hentry hname htable hkeys hlength
    show ask entry selection.text bindings = _
    rw [ask_text hentry (isPlainName_of_isQueryName hname) hkeys, select]
    simp [hname, htable, hlength]
  noTable := by
    intro entry db selection bindings hentry hname htable hkeys
    show ∃ reason, ask entry selection.text bindings = .error reason
    rw [ask_text hentry (isPlainName_of_isQueryName hname) hkeys]
    exact select_of_noTable hname htable
  noName := by
    intro selection hplain hname hkeys
    refine ⟨"near \"" ++ selection.table ++ "\": syntax error", fun entry db bindings hentry => ?_⟩
    show ask entry selection.text bindings = _
    rw [ask_text hentry hplain hkeys]
    exact select_of_badName hname
  noDatabase := by
    intro entry text bindings hentry
    exact exists_ask_error hentry text bindings
  directory := rfl

theorem isPlainName_select : isPlainName "select" = true := by
  decide +kernel

theorem isQueryName_select : isQueryName "select" = false := by
  decide +kernel

end Database
end TileAudit
