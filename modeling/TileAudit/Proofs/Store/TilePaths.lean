import TileAudit.Proofs.FileTree.PathText
import TileAudit.Proofs.Text.Numeral
import TileAudit.Store.Disk

/-!
# Paths of tiles

No two tiles of a store share a path, whatever its layout, its names and its suffix are, and however
many digits an address needs. Where the names of tilesets and grids are not divided, no two stores
in one directory share a path either. In the default layout the groups of digits have a fixed width
up to nine digits.
-/

namespace TileAudit
namespace DiskStore

open Numeral PathText

/-!
## Directories and files of tiles

In every layout the path of a tile is made of directories and a stem, and none of these parts is
empty or divided.
-/

def tileDirs (layout : DiskLayout) (tile : TileAddress) : List String :=
  let zoom := tile.zoom.toNat
  let x := tile.col.toNat
  let y := tile.row.toNat
  match layout with
  | .tileCache =>
      let (x1, x2, x3) := digitGroups x
      let (y1, y2, _) := digitGroups y
      [decimal 2 zoom, x1, x2, x3, y1, y2]
  | .arcGis => ["L" ++ decimal 2 zoom, "R" ++ hexadecimal 8 y]
  | .worldWind => [decimal 1 zoom, decimal 4 y]

def tileStem (layout : DiskLayout) (tile : TileAddress) : String :=
  let x := tile.col.toNat
  let y := tile.row.toNat
  match layout with
  | .tileCache => (digitGroups y).2.2
  | .arcGis => "C" ++ hexadecimal 8 x
  | .worldWind => decimal 4 y ++ "_" ++ decimal 4 x

theorem tileNames_eq (store : DiskStore) (tile : TileAddress) :
    store.tileNames tile =
      tileDirs store.layout tile ++ [tileStem store.layout tile ++ "." ++ store.extension] := by
  unfold tileNames tileDirs tileStem
  cases store.layout <;> rfl

theorem length_tileDirs (layout : DiskLayout) (a b : TileAddress) :
    (tileDirs layout a).length = (tileDirs layout b).length := by
  cases layout <;> rfl

theorem isPart_decimal (width n : Nat) : IsPart (decimal width n) where
  ne_empty := decimal_ne_nil width n
  no_slash := isSeparator_slash.not_mem_decimal width n

theorem isPart_append {mark numeral : String} (hmark : IsPart mark)
    (hnumeral : '/' ∉ numeral.toList) :
    IsPart (mark ++ numeral) where
  ne_empty := by
    rw [String.toList_append]
    exact List.append_ne_nil_of_left_ne_nil hmark.ne_empty _
  no_slash := by
    rw [String.toList_append]
    intro h
    rcases List.mem_append.mp h with hleft | hright
    · exact hmark.no_slash hleft
    · exact hnumeral hright

theorem isPart_letter {c : Char} (h : c ≠ '/') : IsPart (String.singleton c) where
  ne_empty := by simp
  no_slash := by simpa using Ne.symm h

theorem isPart_tileDirs (layout : DiskLayout) (tile : TileAddress) :
    ∀ part ∈ tileDirs layout tile, IsPart part := by
  intro part hpart
  cases layout with
  | tileCache =>
      simp only [tileDirs, digitGroups, List.mem_cons, List.not_mem_nil, or_false] at hpart
      rcases hpart with rfl | rfl | rfl | rfl | rfl | rfl <;> exact isPart_decimal _ _
  | arcGis =>
      simp only [tileDirs, List.mem_cons, List.not_mem_nil, or_false] at hpart
      rcases hpart with rfl | rfl
      · exact isPart_append (isPart_letter (c := 'L') (by decide))
          (isSeparator_slash.not_mem_decimal _ _)
      · exact isPart_append (isPart_letter (c := 'R') (by decide))
          (isSeparator_slash.not_mem_hexadecimal _ _)
  | worldWind =>
      simp only [tileDirs, List.mem_cons, List.not_mem_nil, or_false] at hpart
      rcases hpart with rfl | rfl <;> exact isPart_decimal _ _

theorem isPart_tileStem (layout : DiskLayout) (tile : TileAddress) :
    IsPart (tileStem layout tile) := by
  cases layout with
  | tileCache => exact isPart_decimal _ _
  | arcGis =>
      exact isPart_append (isPart_letter (c := 'C') (by decide))
        (isSeparator_slash.not_mem_hexadecimal _ _)
  | worldWind =>
      have hfront : IsPart (decimal 4 tile.row.toNat ++ "_") :=
        isPart_append (isPart_decimal 4 _) (by decide)
      exact isPart_append hfront (isSeparator_slash.not_mem_decimal _ _)

theorem point_not_mem_tileStem (layout : DiskLayout) (tile : TileAddress) :
    '.' ∉ (tileStem layout tile).toList := by
  cases layout with
  | tileCache => exact isSeparator_point.not_mem_decimal _ _
  | arcGis =>
      have hdigits := isSeparator_point.not_mem_hexadecimal 8 tile.col.toNat
      simpa [tileStem] using hdigits
  | worldWind =>
      have hrow := isSeparator_point.not_mem_decimal 4 tile.row.toNat
      have hcol := isSeparator_point.not_mem_decimal 4 tile.col.toNat
      simp [tileStem, hrow, hcol]

theorem toList_tilePath (store : DiskStore) (tile : TileAddress) :
    (store.tilePath tile).toList =
      lead store.layoutDir ++ (slashed (tileDirs store.layout tile) ++
        ((tileStem store.layout tile).toList ++ '.' :: store.extension.toList)) := by
  have hstem := isPart_tileStem store.layout tile
  have hfile : (tileStem store.layout tile ++ "." ++ store.extension).toList =
      (tileStem store.layout tile).toList ++ '.' :: store.extension.toList := by
    simp
  have hrelative : isAbsolute (tileStem store.layout tile ++ "." ++ store.extension) = false := by
    apply decide_eq_false
    rcases List.exists_cons_of_ne_nil hstem.ne_empty with ⟨first, rest, hlist⟩
    rw [hfile, hlist]
    intro hslash
    apply hstem.no_slash
    rw [hlist, Option.some.inj hslash]
    exact List.mem_cons_self
  unfold tilePath
  rw [tileNames_eq, List.foldl_append, List.foldl_cons, List.foldl_nil, toList_join hrelative,
    lead_foldl_join (isPart_tileDirs store.layout tile), hfile, List.append_assoc]

/-!
## Addresses of paths

The directories and the stem tell the address, since numerals of a width are never shared. The
suffix begins after the first point.
-/

theorem digitGroups_injective {n m : Nat} (h : digitGroups n = digitGroups m) : n = m := by
  simp only [digitGroups, Prod.mk.injEq] at h
  have hmillions := decimal_injective h.1
  have hthousands := decimal_injective h.2.1
  have hones := decimal_injective h.2.2
  omega

theorem append_left_cancel {mark a b : String} (h : mark ++ a = mark ++ b) : a = b := by
  apply String.toList_injective
  have hlists := congrArg String.toList h
  rw [String.toList_append, String.toList_append] at hlists
  exact List.append_cancel_left hlists

theorem address_eq_of_toNat {a b : TileAddress} (hzoom : a.zoom.toNat = b.zoom.toNat)
    (hcol : a.col.toNat = b.col.toNat) (hrow : a.row.toNat = b.row.toNat) : a = b := by
  rcases a with ⟨zoom, col, row⟩
  rcases b with ⟨zoom', col', row'⟩
  cases UInt32.toNat_inj.mp hzoom
  cases UInt32.toNat_inj.mp hcol
  cases UInt32.toNat_inj.mp hrow
  rfl

theorem address_eq_of_names {layout : DiskLayout} {a b : TileAddress}
    (hdirs : tileDirs layout a = tileDirs layout b)
    (hstem : tileStem layout a = tileStem layout b) : a = b := by
  cases layout with
  | tileCache =>
      simp only [tileDirs, List.cons.injEq] at hdirs
      rcases hdirs with ⟨hzoom, hx1, hx2, hx3, hy1, hy2, _⟩
      have hcol := digitGroups_injective (Prod.ext hx1 (Prod.ext hx2 hx3))
      have hrow := digitGroups_injective (Prod.ext hy1 (Prod.ext hy2 hstem))
      exact address_eq_of_toNat (decimal_injective hzoom) hcol hrow
  | arcGis =>
      simp only [tileDirs, List.cons.injEq] at hdirs
      rcases hdirs with ⟨hzoom, hrow, _⟩
      exact address_eq_of_toNat (decimal_injective (append_left_cancel hzoom))
        (hexadecimal_injective (append_left_cancel hstem))
        (hexadecimal_injective (append_left_cancel hrow))
  | worldWind =>
      simp only [tileDirs, List.cons.injEq] at hdirs
      rcases hdirs with ⟨hzoom, hrow, _⟩
      simp only [tileStem, hrow] at hstem
      exact address_eq_of_toNat (decimal_injective hzoom)
        (decimal_injective (append_left_cancel hstem)) (decimal_injective hrow)

theorem stem_and_extension_eq {layout layout' : DiskLayout} {a b : TileAddress}
    {extension extension' : String}
    (h : (tileStem layout a).toList ++ '.' :: extension.toList =
      (tileStem layout' b).toList ++ '.' :: extension'.toList) :
    tileStem layout a = tileStem layout' b ∧ extension = extension' := by
  rcases append_separator_inj (point_not_mem_tileStem layout a) (point_not_mem_tileStem layout' b)
    h with ⟨hstem, hextension⟩
  exact ⟨String.toList_injective hstem, String.toList_injective hextension⟩

theorem tile_eq_of_tilePath {store : DiskStore} {a b : TileAddress}
    (h : store.tilePath a = store.tilePath b) : a = b := by
  have htexts := congrArg String.toList h
  rw [toList_tilePath, toList_tilePath] at htexts
  have hnames := List.append_cancel_left htexts
  rcases slashed_append_inj (length_tileDirs store.layout a b) (isPart_tileDirs store.layout a)
    (isPart_tileDirs store.layout b) hnames with ⟨hdirs, hfile⟩
  exact address_eq_of_names hdirs (stem_and_extension_eq hfile).1

theorem lead_tilesetDir {store : DiskStore} (htileset : IsPart store.tileset)
    (hgrid : IsPart store.grid) :
    lead store.tilesetDir =
      lead (join store.base store.backendName) ++ slashed [store.tileset, store.grid] := by
  unfold tilesetDir
  rw [lead_join hgrid, lead_join htileset]
  simp [slashed]

/-- A store whose tileset and grid are parts of its tiles' paths, each with a name of its own. -/
structure HasNames (store : DiskStore) : Prop where
  layout : store.layout = .tileCache ∨ store.layout = .arcGis
  tileset : IsPart store.tileset
  grid : IsPart store.grid

theorem HasNames.toList_tilePath {store : DiskStore} (h : HasNames store) (tile : TileAddress) :
    (store.tilePath tile).toList =
      lead (join store.base store.backendName) ++
        (slashed (store.tileset :: store.grid :: tileDirs store.layout tile) ++
          ((tileStem store.layout tile).toList ++ '.' :: store.extension.toList)) := by
  have hdir : store.layoutDir = store.tilesetDir := by
    rcases h.layout with hlayout | hlayout <;> simp [layoutDir, hlayout]
  rw [DiskStore.toList_tilePath, hdir, lead_tilesetDir h.tileset h.grid]
  simp [slashed]

theorem HasNames.isPart {store : DiskStore} (h : HasNames store) (tile : TileAddress) :
    ∀ part ∈ store.tileset :: store.grid :: tileDirs store.layout tile, IsPart part := by
  intro part hpart
  rcases List.mem_cons.mp hpart with rfl | hpart
  · exact h.tileset
  · rcases List.mem_cons.mp hpart with rfl | hpart
    · exact h.grid
    · exact isPart_tileDirs _ _ part hpart

theorem names_eq_of_tilePath {one other : DiskStore} {a b : TileAddress}
    (hlayout : one.layout = other.layout) (hbase : one.base = other.base)
    (hbackend : one.backendName = other.backendName) (hone : HasNames one)
    (hother : HasNames other) (h : one.tilePath a = other.tilePath b) :
    one.tileset = other.tileset ∧ one.grid = other.grid ∧ a = b ∧
      one.extension = other.extension := by
  have htexts := congrArg String.toList h
  rw [hone.toList_tilePath, hother.toList_tilePath, hbase, hbackend] at htexts
  have hnames := List.append_cancel_left htexts
  have hlength : (one.tileset :: one.grid :: tileDirs one.layout a).length =
      (other.tileset :: other.grid :: tileDirs other.layout b).length := by
    rw [hlayout, List.length_cons, List.length_cons, List.length_cons, List.length_cons,
      length_tileDirs _ a b]
  rcases slashed_append_inj hlength (hone.isPart a) (hother.isPart b) hnames with ⟨hdirs, hfile⟩
  rcases List.cons.inj hdirs with ⟨htileset, hdirs⟩
  rcases List.cons.inj hdirs with ⟨hgrid, hdirs⟩
  rcases stem_and_extension_eq hfile with ⟨hstem, hextension⟩
  rw [hlayout] at hdirs hstem
  exact ⟨htileset, hgrid, address_eq_of_names hdirs hstem, hextension⟩

structure IsGroup (group : String) : Prop where
  length : group.toList.length = 3
  digits : ∀ c ∈ group.toList, c.isDigit = true

theorem isGroup_decimal {n : Nat} (h : n < 1000) : IsGroup (decimal 3 n) where
  length := length_decimal (by decide) h
  digits := fun _ hc => isDigit_of_mem_decimal hc

theorem isGroup_digitGroups {n : Nat} (h : n ≤ 999999999) :
    IsGroup (digitGroups n).1 ∧ IsGroup (digitGroups n).2.1 ∧ IsGroup (digitGroups n).2.2 := by
  refine ⟨isGroup_decimal ?_, isGroup_decimal ?_, isGroup_decimal ?_⟩
  · exact Nat.div_lt_of_lt_mul (by omega)
  · exact Nat.mod_lt _ (by decide)
  · exact Nat.mod_lt _ (by decide)

theorem valueOf_digitGroups (n : Nat) :
    valueOf 10 ((digitGroups n).1 ++ (digitGroups n).2.1 ++ (digitGroups n).2.2).toList = n := by
  have hthousands := (isGroup_decimal (Nat.mod_lt (n / 1000) (by decide : 1000 > 0))).length
  have hones := (isGroup_decimal (Nat.mod_lt n (by decide : 1000 > 0))).length
  simp only [digitGroups]
  rw [String.toList_append, String.toList_append, valueOf_append, valueOf_append, hthousands, hones,
    valueOf_decimal, valueOf_decimal, valueOf_decimal]
  omega

/-- No two tiles share a file. The path of a tile in a store tells the address of the tile. Where
the names of tileset and grid are part of the path and are not divided, it tells these and the
suffix as well. In the default layout columns and rows of up to nine digits are written in groups of
three digits each. -/
theorem tilePath_unambiguous :
    (∀ (store : DiskStore) (a b : TileAddress), store.tilePath a = store.tilePath b → a = b) ∧
    (∀ (one other : DiskStore) (a b : TileAddress), one.layout = other.layout →
      one.base = other.base → one.backendName = other.backendName → HasNames one →
      HasNames other → one.tilePath a = other.tilePath b →
      one.tileset = other.tileset ∧ one.grid = other.grid ∧ a = b ∧
        one.extension = other.extension) ∧
    ∀ (store : DiskStore) (tile : TileAddress), store.layout = .tileCache →
      tile.col.toNat ≤ 999999999 → tile.row.toNat ≤ 999999999 →
      ∃ x1 x2 x3 y1 y2 y3 : String,
        store.tilePath tile =
          [decimal 2 tile.zoom.toNat, x1, x2, x3, y1, y2, y3 ++ "." ++ store.extension].foldl join
            store.tilesetDir ∧
        (∀ group ∈ [x1, x2, x3, y1, y2, y3], IsGroup group) ∧
        valueOf 10 (x1 ++ x2 ++ x3).toList = tile.col.toNat ∧
        valueOf 10 (y1 ++ y2 ++ y3).toList = tile.row.toNat := by
  refine ⟨fun store a b => tile_eq_of_tilePath, ?_, ?_⟩
  · intro one other a b hlayout hbase hbackend hone hother h
    exact names_eq_of_tilePath hlayout hbase hbackend hone hother h
  · intro store tile hlayout hcol hrow
    rcases isGroup_digitGroups hcol with ⟨hx1, hx2, hx3⟩
    rcases isGroup_digitGroups hrow with ⟨hy1, hy2, hy3⟩
    refine ⟨_, _, _, _, _, _, ?_, ?_, valueOf_digitGroups _, valueOf_digitGroups _⟩
    · simp only [tilePath, tileNames, layoutDir, hlayout]
    · simp [hx1, hx2, hx3, hy1, hy2, hy3]

def pointStore : DiskStore :=
  { base := "", backendName := "", tileset := ".", grid := "..", extension := "a/b",
    layout := .arcGis }

theorem pointStore_withExtension : pointStore.withExtension "..a/b" = pointStore := by
  decide +kernel

theorem tilePath_unambiguous_pointStore :
    (⟨4294967295, 4294967295, 4294967295⟩ : TileAddress) = ⟨0 - 1, 0 - 1, 0 - 1⟩ ∧
    pointStore.extension = (pointStore.withExtension "..a/b").extension ∧
    ∃ x1 x2 x3 y1 y2 y3 : String,
      ({ pointStore with layout := .tileCache }).tilePath ⟨7, 123456789, 4005006⟩ =
        [decimal 2 7, x1, x2, x3, y1, y2, y3 ++ "." ++ "a/b"].foldl join pointStore.tilesetDir ∧
      (∀ group ∈ [x1, x2, x3, y1, y2, y3], IsGroup group) ∧
      valueOf 10 (x1 ++ x2 ++ x3).toList = 123456789 ∧
      valueOf 10 (y1 ++ y2 ++ y3).toList = 4005006 := by
  have hnames : HasNames pointStore :=
    { layout := .inr rfl
      tileset := ⟨by decide, by decide⟩
      grid := ⟨by decide, by decide⟩ }
  have hnames' : HasNames (pointStore.withExtension "..a/b") := pointStore_withExtension ▸ hnames
  refine ⟨tilePath_unambiguous.1 pointStore _ _ rfl, ?_, ?_⟩
  · have hpaths : pointStore.tilePath ⟨7, 8, 9⟩ =
        (pointStore.withExtension "..a/b").tilePath ⟨7, 8, 9⟩ := by
      rw [pointStore_withExtension]
    exact (tilePath_unambiguous.2.1 _ _ _ _ rfl rfl rfl hnames hnames' hpaths).2.2.2
  · exact tilePath_unambiguous.2.2 { pointStore with layout := .tileCache } ⟨7, 123456789, 4005006⟩
      rfl (by decide) (by decide)

end DiskStore
end TileAudit
