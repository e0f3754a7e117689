import TileAudit.GeoTiff.Keys

/-!
# What georeference keys tell

The code is found in one pass over the entries that the header counts, as far as the list holds
them whole. The pass stops at the first projected code and remembers the last geographic one.
-/

namespace TileAudit
namespace GeoKeys

variable {keys front back rest : List UInt16} {key place number value count : UInt16}

/-!
## Entries by position

Entries are cut at every fourth number, so whole entries in front do not shift the others.
-/

theorem length_lt_of_no_entry
    (h : ∀ key place number value more, rest = key :: place :: number :: value :: more → False) :
    rest.length < 4 := by
  match rest with
  | [] | [_] | [_, _] | [_, _, _] => simp
  | key :: place :: number :: value :: more => cases h key place number value more rfl

theorem length_entries (rest : List UInt16) : (entries rest).length = rest.length / 4 := by
  fun_induction entries rest with
  | case1 key place number value rest ih =>
      simp only [List.length_cons, ih]
      omega
  | case2 rest hshort =>
      have hlength := length_lt_of_no_entry hshort
      rw [List.length_nil, Nat.div_eq_of_lt hlength]

theorem entries_append (h : front.length % 4 = 0) :
    entries (front ++ back) = entries front ++ entries back := by
  fun_induction entries front with
  | case1 key place number value rest ih =>
      have hrest : rest.length % 4 = 0 := by
        simp only [List.length_cons] at h
        omega
      simp only [List.cons_append, entries]
      rw [ih hrest]
  | case2 front hshort =>
      have hlength := length_lt_of_no_entry hshort
      have hnone : front = [] := List.eq_nil_of_length_eq_zero (by omega)
      rw [hnone, List.nil_append, List.nil_append]

theorem getElem?_entries_eq_some_iff (rest : List UInt16) (i : Nat) :
    (entries rest)[i]? = some (key, place, number, value) ↔
      rest[4 * i]? = some key ∧ rest[4 * i + 1]? = some place ∧
        rest[4 * i + 2]? = some number ∧ rest[4 * i + 3]? = some value := by
  induction i generalizing rest with
  | zero =>
      match rest with
      | [] | [_] | [_, _] | [_, _, _] => simp [entries]
      | _ :: _ :: _ :: _ :: _ => simp [entries]
  | succ i ih =>
      match rest with
      | [] | [_] | [_, _] | [_, _, _] => simp [entries]
      | _ :: _ :: _ :: _ :: more =>
          have hplace : 4 * (i + 1) = 4 * i + 4 := by omega
          simp only [entries, List.getElem?_cons_succ, ih, hplace]

def inPlace? (key : UInt16) (entry : UInt16 × UInt16 × UInt16 × UInt16) : Option UInt16 :=
  if entry.1 = key ∧ entry.2.1 = 0 then some entry.2.2.2 else none

theorem inPlace?_eq_some_iff {entry : UInt16 × UInt16 × UInt16 × UInt16} :
    inPlace? key entry = some value ↔ entry.1 = key ∧ entry.2.1 = 0 ∧ entry.2.2.2 = value := by
  unfold inPlace?
  split
  · rename_i h
    simp [h]
  · rename_i h
    simp only [reduceCtorEq, false_iff]
    intro hentry
    exact h ⟨hentry.1, hentry.2.1⟩

theorem inPlace?_eq_none {found : UInt16} (h : found ≠ key ∨ place ≠ 0) :
    inPlace? key (found, place, number, value) = none := by
  unfold inPlace?
  rw [if_neg]
  rintro ⟨hkey, hplace⟩
  rcases h with h | h
  · exact h hkey
  · exact h hplace

theorem valuesOf_eq (key : UInt16) (list : List (UInt16 × UInt16 × UInt16 × UInt16)) :
    valuesOf key list = list.filterMap (inPlace? key) := rfl

section

variable {α β : Type} {f : α → Option β} {list : List α} {b : β}

theorem head?_filterMap_eq_some_iff :
    (list.filterMap f).head? = some b ↔
      ∃ i : Nat, list[i]?.bind f = some b ∧ ∀ j < i, list[j]?.bind f = none := by
  rw [List.head?_filterMap, List.findSome?_eq_some_iff]
  constructor
  · rintro ⟨before, a, after, rfl, ha, hbefore⟩
    refine ⟨before.length, by simpa using ha, ?_⟩
    intro j hj
    rw [List.getElem?_append_left hj, List.getElem?_eq_getElem hj]
    exact hbefore _ (List.getElem_mem hj)
  · rintro ⟨i, hi, hbefore⟩
    obtain ⟨a, hentry, ha⟩ := Option.bind_eq_some_iff.mp hi
    obtain ⟨hlt, rfl⟩ := List.getElem?_eq_some_iff.mp hentry
    refine ⟨list.take i, list[i], list.drop (i + 1), by simp, ha, ?_⟩
    intro x hx
    obtain ⟨j, hj⟩ := List.mem_iff_getElem?.mp hx
    have hji : j < i := by
      have hbound := (List.getElem?_eq_some_iff.mp hj).1
      rw [List.length_take] at hbound
      omega
    have hnone := hbefore j hji
    rw [← List.getElem?_take_of_lt hji, hj] at hnone
    exact hnone

theorem getLast?_filterMap_eq_some_iff :
    (list.filterMap f).getLast? = some b ↔
      ∃ i : Nat, list[i]?.bind f = some b ∧ ∀ j, i < j → list[j]?.bind f = none := by
  rw [List.getLast?_filterMap, List.findSome?_eq_some_iff]
  constructor
  · rintro ⟨after, a, before, hreverse, ha, hafter⟩
    have hlist : list = before.reverse ++ a :: after.reverse := by
      rw [← List.reverse_reverse list, hreverse]
      simp
    subst hlist
    refine ⟨before.reverse.length, by simpa using ha, ?_⟩
    intro j hj
    have hplace : j - before.reverse.length = j - before.reverse.length - 1 + 1 := by omega
    rw [List.getElem?_append_right (by omega), hplace, List.getElem?_cons_succ,
      Option.bind_eq_none_iff]
    intro x hx
    exact hafter x (List.mem_reverse.mp (List.mem_of_getElem? hx))
  · rintro ⟨i, hi, hafter⟩
    obtain ⟨a, hentry, ha⟩ := Option.bind_eq_some_iff.mp hi
    obtain ⟨hlt, rfl⟩ := List.getElem?_eq_some_iff.mp hentry
    refine ⟨(list.drop (i + 1)).reverse, list[i], (list.take i).reverse, ?_, ha, ?_⟩
    · have hlist : list.take i ++ list[i] :: list.drop (i + 1) = list := by simp
      calc
        list.reverse = (list.take i ++ list[i] :: list.drop (i + 1)).reverse := by rw [hlist]
        _ = (list.drop (i + 1)).reverse ++ list[i] :: (list.take i).reverse := by simp
    · intro x hx
      obtain ⟨j, hj⟩ := List.mem_iff_getElem?.mp (List.mem_reverse.mp hx)
      have hnone := hafter (i + 1 + j) (by omega)
      rw [← List.getElem?_drop, hj] at hnone
      exact hnone

theorem filterMap_eq_nil_iff_getElem? :
    list.filterMap f = [] ↔ ∀ i : Nat, list[i]?.bind f = none := by
  rw [List.filterMap_eq_nil_iff]
  constructor
  · intro h i
    rw [Option.bind_eq_none_iff]
    intro a ha
    exact h a (List.mem_of_getElem? ha)
  · intro h a ha
    obtain ⟨i, hi⟩ := List.mem_iff_getElem?.mp ha
    have hnone := h i
    rw [hi] at hnone
    exact hnone

end

/-!
## The entries that count

As many entries are read as the header counts, if the list holds them whole. What an entry tells of
a key is the value that it keeps in place.
-/

/-- How many entries are read: as many as the header counts, if the list holds them whole. -/
def entryCount (keys : List UInt16) : Nat :=
  min (keys[3]?.elim 0 UInt16.toNat) ((keys.length - 4) / 4)

/-- The entry of an index keeps a value for a key in place. -/
structure KeepsInPlace (keys : List UInt16) (i : Nat) (key value : UInt16) : Prop where
  counted : i < entryCount keys
  key : keys[4 + 4 * i]? = some key
  place : keys[4 + 4 * i + 1]? = some 0
  value : keys[4 + 4 * i + 3]? = some value

def IsFirst (keys : List UInt16) (key value : UInt16) : Prop :=
  ∃ i, KeepsInPlace keys i key value ∧ ∀ j < i, ∀ other, ¬ KeepsInPlace keys j key other

def IsLast (keys : List UInt16) (key value : UInt16) : Prop :=
  ∃ i, KeepsInPlace keys i key value ∧ ∀ j, i < j → ∀ other, ¬ KeepsInPlace keys j key other

def Lacks (keys : List UInt16) (key : UInt16) : Prop :=
  ∀ i value, ¬ KeepsInPlace keys i key value

def counted (keys : List UInt16) : List (UInt16 × UInt16 × UInt16 × UInt16) :=
  (entries (keys.drop 4)).take (entryCount keys)

theorem entryCount_of_length_lt (h : keys.length < 4) : entryCount keys = 0 := by
  have hnone : (keys.length - 4) / 4 = 0 := by omega
  rw [entryCount, hnone, Nat.min_zero]

theorem getElem?_counted_eq_some_iff (keys : List UInt16) (i : Nat) :
    (counted keys)[i]? = some (key, place, number, value) ↔
      i < entryCount keys ∧ keys[4 + 4 * i]? = some key ∧ keys[4 + 4 * i + 1]? = some place ∧
        keys[4 + 4 * i + 2]? = some number ∧ keys[4 + 4 * i + 3]? = some value := by
  rw [counted, List.getElem?_take]
  by_cases hi : i < entryCount keys
  · rw [if_pos hi, getElem?_entries_eq_some_iff]
    simp only [List.getElem?_drop, hi, true_and, Nat.add_assoc]
  · rw [if_neg hi]
    simp [hi]

theorem inPlace?_counted_eq_some_iff (keys : List UInt16) (i : Nat) (key value : UInt16) :
    (counted keys)[i]?.bind (inPlace? key) = some value ↔ KeepsInPlace keys i key value := by
  rw [Option.bind_eq_some_iff]
  constructor
  · rintro ⟨⟨found, place, number, kept⟩, hentry, hkept⟩
    obtain ⟨rfl, rfl, rfl⟩ := inPlace?_eq_some_iff.mp hkept
    obtain ⟨hi, hkey, hplace, _, hvalue⟩ := (getElem?_counted_eq_some_iff keys i).mp hentry
    exact ⟨hi, hkey, hplace, hvalue⟩
  · intro h
    have hlength : 4 + 4 * i + 3 < keys.length := (List.getElem?_eq_some_iff.mp h.value).1
    have hnumber : keys[4 + 4 * i + 2]? = some keys[4 + 4 * i + 2] :=
      List.getElem?_eq_getElem (by omega)
    exact ⟨(key, 0, keys[4 + 4 * i + 2], value),
      (getElem?_counted_eq_some_iff keys i).mpr ⟨h.counted, h.key, h.place, hnumber, h.value⟩,
      inPlace?_eq_some_iff.mpr ⟨rfl, rfl, rfl⟩⟩

theorem inPlace?_counted_eq_none_iff (keys : List UInt16) (i : Nat) (key : UInt16) :
    (counted keys)[i]?.bind (inPlace? key) = none ↔ ∀ value, ¬ KeepsInPlace keys i key value := by
  rw [Option.eq_none_iff_forall_ne_some]
  exact forall_congr' fun value => not_congr (inPlace?_counted_eq_some_iff keys i key value)

theorem head?_valuesOf_counted (keys : List UInt16) (key value : UInt16) :
    (valuesOf key (counted keys)).head? = some value ↔ IsFirst keys key value := by
  rw [valuesOf_eq, head?_filterMap_eq_some_iff]
  simp only [inPlace?_counted_eq_some_iff, inPlace?_counted_eq_none_iff, IsFirst]

theorem getLast?_valuesOf_counted (keys : List UInt16) (key value : UInt16) :
    (valuesOf key (counted keys)).getLast? = some value ↔ IsLast keys key value := by
  rw [valuesOf_eq, getLast?_filterMap_eq_some_iff]
  simp only [inPlace?_counted_eq_some_iff, inPlace?_counted_eq_none_iff, IsLast]

theorem valuesOf_counted_eq_nil_iff (keys : List UInt16) (key : UInt16) :
    valuesOf key (counted keys) = [] ↔ Lacks keys key := by
  rw [valuesOf_eq, filterMap_eq_nil_iff_getElem?]
  simp only [inPlace?_counted_eq_none_iff, Lacks]

/-!
## The pass over the entries

The pass is followed with the geographic code that is pending as its state: a projected code ends
it, a geographic one takes the place of the pending one, and every other entry might as well not be
there. Read by position, the same pass never leaves the list.
-/

/-- The code that entries tell when earlier ones have left a geographic code pending. -/
def toldAfter (pending : Option UInt16) (list : List (UInt16 × UInt16 × UInt16 × UInt16)) :
    Option UInt16 :=
  (valuesOf projectedKey list).head?.or ((valuesOf geographicKey list).getLast?.or pending)

theorem counted_cons (a b c count : UInt16) (rest : List UInt16) :
    counted (a :: b :: c :: count :: rest) = (entries rest).take count.toNat := by
  have hcount : entryCount (a :: b :: c :: count :: rest) = min count.toNat (rest.length / 4) := by
    simp [entryCount]
  rw [counted, hcount]
  change (entries rest).take _ = _
  rw [List.take_eq_take_iff, length_entries]
  omega

theorem counted_of_length_lt (h : keys.length < 4) : counted keys = [] := by
  rw [counted, entryCount_of_length_lt h, List.take_zero]

theorem epsg?_eq_toldAfter (keys : List UInt16) : epsg? keys = toldAfter none (counted keys) := by
  unfold epsg?
  split
  · rename_i a b c count rest
    rw [counted_cons, toldAfter, Option.or_none]
    cases hprojected : (valuesOf projectedKey ((entries rest).take count.toNat)).head? with
    | some code => simp only [hprojected, Option.some_or]
    | none => simp only [hprojected, Option.none_or]
  · rename_i hshort
    rw [counted_of_length_lt (length_lt_of_no_entry hshort)]
    rfl

theorem epsg?_of_length_lt (h : keys.length < 4) : epsg? keys = none := by
  rw [epsg?_eq_toldAfter, counted_of_length_lt h]
  rfl

theorem toldAfter_projected (pending : Option UInt16) (number value : UInt16)
    (list : List (UInt16 × UInt16 × UInt16 × UInt16)) :
    toldAfter pending ((projectedKey, 0, number, value) :: list) = some value := by
  simp [toldAfter, valuesOf]

theorem toldAfter_geographic (pending : Option UInt16) (number value : UInt16)
    (list : List (UInt16 × UInt16 × UInt16 × UInt16)) :
    toldAfter pending ((geographicKey, 0, number, value) :: list) =
      toldAfter (some value) list := by
  have hapart : geographicKey ≠ projectedKey := by decide
  simp [toldAfter, valuesOf, hapart, List.getLast?_cons]

theorem toldAfter_other (pending : Option UInt16)
    (before after : List (UInt16 × UInt16 × UInt16 × UInt16))
    {entry : UInt16 × UInt16 × UInt16 × UInt16}
    (hprojected : inPlace? projectedKey entry = none)
    (hgeographic : inPlace? geographicKey entry = none) :
    toldAfter pending (before ++ entry :: after) = toldAfter pending (before ++ after) := by
  simp only [toldAfter, valuesOf_eq, List.filterMap_append, List.filterMap_cons_none hprojected,
    List.filterMap_cons_none hgeographic]

theorem toldAfter_cons (pending : Option UInt16) (key place number value : UInt16)
    (list : List (UInt16 × UInt16 × UInt16 × UInt16)) :
    toldAfter pending ((key, place, number, value) :: list) =
      if place ≠ 0 then toldAfter pending list
      else if key = projectedKey then some value
      else if key = geographicKey then toldAfter (some value) list
      else toldAfter pending list := by
  by_cases haway : place ≠ 0
  · rw [if_pos haway]
    exact toldAfter_other pending [] list (inPlace?_eq_none (.inr haway))
      (inPlace?_eq_none (.inr haway))
  · obtain rfl : place = 0 := Decidable.not_not.mp haway
    rw [if_neg haway]
    by_cases hprojected : key = projectedKey
    · rw [if_pos hprojected, hprojected, toldAfter_projected]
    · rw [if_neg hprojected]
      by_cases hgeographic : key = geographicKey
      · rw [if_pos hgeographic, hgeographic, toldAfter_geographic]
      · rw [if_neg hgeographic]
        exact toldAfter_other pending [] list (inPlace?_eq_none (.inl hprojected))
          (inPlace?_eq_none (.inl hgeographic))

def read (keys : List UInt16) (position : Nat) : Except Nat UInt16 :=
  match keys[position]? with
  | some value => .ok value
  | none => .error position

/-- Reads entries by position until one of them tells a projected code. -/
def scan (keys : List UInt16) : Nat → Nat → Option UInt16 → Except Nat (Option UInt16)
  | _, 0, pending => .ok pending
  | start, remaining + 1, pending => do
      let key ← read keys start
      let place ← read keys (start + 1)
      let value ← read keys (start + 3)
      if place ≠ 0 then
        scan keys (start + 4) remaining pending
      else if key = projectedKey then
        return some value
      else if key = geographicKey then
        scan keys (start + 4) remaining (some value)
      else
        scan keys (start + 4) remaining pending

def scanKeys (keys : List UInt16) : Except Nat (Option UInt16) :=
  if keys.length < 4 then
    .ok none
  else do
    let count ← read keys 3
    scan keys 4 (min count.toNat ((keys.length - 4) / 4)) none

theorem read_of_lt {position : Nat} (h : position < keys.length) :
    read keys position = .ok keys[position] := by
  rw [read, List.getElem?_eq_getElem h]

theorem drop_eq_entry {start : Nat} (h : start + 4 ≤ keys.length) :
    keys.drop start =
      keys[start] :: keys[start + 1] :: keys[start + 2] :: keys[start + 3] ::
        keys.drop (start + 4) := by
  rw [List.drop_eq_getElem_cons (show start < keys.length by omega),
    List.drop_eq_getElem_cons (show start + 1 < keys.length by omega),
    List.drop_eq_getElem_cons (show start + 2 < keys.length by omega),
    List.drop_eq_getElem_cons (show start + 3 < keys.length by omega)]

theorem scan_eq (keys : List UInt16) (remaining start : Nat) (pending : Option UInt16)
    (h : start + 4 * remaining ≤ keys.length) :
    scan keys start remaining pending =
      .ok (toldAfter pending ((entries (keys.drop start)).take remaining)) := by
  -- The entries that remain fit in the list, which is what keeps every read in range.
  induction remaining generalizing start pending with
  | zero => rfl
  | succ remaining ih =>
      have hnext : start + 4 + 4 * remaining ≤ keys.length := by omega
      rw [scan, read_of_lt (show start < keys.length by omega),
        read_of_lt (show start + 1 < keys.length by omega),
        read_of_lt (show start + 3 < keys.length by omega),
        drop_eq_entry (show start + 4 ≤ keys.length by omega), entries, List.take_succ_cons]
      generalize keys[start] = key, keys[start + 1] = place, keys[start + 3] = value
      change (if place ≠ 0 then scan keys (start + 4) remaining pending
        else if key = projectedKey then .ok (some value)
        else if key = geographicKey then scan keys (start + 4) remaining (some value)
        else scan keys (start + 4) remaining pending) = _
      rw [ih _ _ hnext, ih _ _ hnext, toldAfter_cons, apply_ite Except.ok, apply_ite Except.ok,
        apply_ite Except.ok]

theorem scanKeys_eq (keys : List UInt16) : scanKeys keys = .ok (epsg? keys) := by
  unfold scanKeys
  by_cases hshort : keys.length < 4
  · rw [if_pos hshort, epsg?_of_length_lt hshort]
  · have hfour : 3 < keys.length := by omega
    have hmin : entryCount keys = min keys[3].toNat ((keys.length - 4) / 4) := by
      rw [entryCount, List.getElem?_eq_getElem hfour]
      rfl
    rw [if_neg hshort, read_of_lt hfour]
    change scan keys 4 (min keys[3].toNat ((keys.length - 4) / 4)) none = _
    rw [scan_eq keys _ _ _ (by omega), epsg?_eq_toldAfter, counted, hmin]

theorem epsg?_eq_some_iff (keys : List UInt16) (code : UInt16) :
    epsg? keys = some code ↔
      IsFirst keys projectedKey code ∨
        (Lacks keys projectedKey ∧ IsLast keys geographicKey code) := by
  rw [epsg?_eq_toldAfter, toldAfter, Option.or_none, Option.or_eq_some_iff, List.head?_eq_none_iff,
    head?_valuesOf_counted, valuesOf_counted_eq_nil_iff, getLast?_valuesOf_counted]

theorem epsg?_eq_none_iff (keys : List UInt16) :
    epsg? keys = none ↔ Lacks keys projectedKey ∧ Lacks keys geographicKey := by
  rw [epsg?_eq_toldAfter, toldAfter, Option.or_none, Option.or_eq_none_iff, List.head?_eq_none_iff,
    List.getLast?_eq_none_iff, valuesOf_counted_eq_nil_iff, valuesOf_counted_eq_nil_iff]

/-!
## What does not matter

Further numbers do not matter as long as no more entries are read, and an entry whose value lies
elsewhere can be taken out.
-/

theorem epsg?_append (h : entryCount (keys ++ rest) = entryCount keys) :
    epsg? (keys ++ rest) = epsg? keys := by
  have hcounted : counted (keys ++ rest) = counted keys := by
    apply List.ext_getElem?
    intro i
    apply Option.ext
    rintro ⟨key, place, number, value⟩
    rw [getElem?_counted_eq_some_iff, getElem?_counted_eq_some_iff, h]
    apply and_congr_right
    intro hi
    have hwhole : entryCount keys ≤ (keys.length - 4) / 4 := Nat.min_le_right _ _
    rw [List.getElem?_append_left (by omega), List.getElem?_append_left (by omega),
      List.getElem?_append_left (by omega), List.getElem?_append_left (by omega)]
  rw [epsg?_eq_toldAfter, epsg?_eq_toldAfter, hcounted]

theorem entryCount_append_of_incomplete
    (h : (keys.length + rest.length) / 4 = keys.length / 4) :
    entryCount (keys ++ rest) = entryCount keys := by
  have hwhole : ((keys ++ rest).length - 4) / 4 = (keys.length - 4) / 4 := by
    rw [List.length_append]
    omega
  rw [entryCount, entryCount, hwhole]
  by_cases hheader : 3 < keys.length
  · rw [List.getElem?_append_left hheader]
  · have hnone : (keys.length - 4) / 4 = 0 := by omega
    rw [hnone, Nat.min_zero, Nat.min_zero]

theorem entryCount_append_of_counted (hcount : keys[3]? = some count)
    (h : 4 + 4 * count.toNat ≤ keys.length) : entryCount (keys ++ rest) = entryCount keys := by
  have hheader : 3 < keys.length := by omega
  rw [entryCount, entryCount, List.getElem?_append_left hheader, hcount, List.length_append]
  change min count.toNat _ = min count.toNat _
  rw [Nat.min_eq_left (by omega), Nat.min_eq_left (by omega)]

def countWithout (before : List UInt16) (count : UInt16) : UInt16 :=
  if before.length / 4 < count.toNat then count - 1 else count

theorem epsg?_without_distant (a b c : UInt16) (hfront : front.length % 4 = 0)
    (hplace : place ≠ 0) :
    epsg? (a :: b :: c :: count :: (front ++ key :: place :: number :: value :: back)) =
      epsg? (a :: b :: c :: countWithout front count :: (front ++ back)) := by
  have hlength : (entries front).length = front.length / 4 := length_entries front
  rw [epsg?_eq_toldAfter, epsg?_eq_toldAfter, counted_cons, counted_cons, entries_append hfront,
    entries_append hfront, entries, countWithout]
  by_cases hcounted : front.length / 4 < count.toNat
  · have hless : (count - 1).toNat = count.toNat - 1 := by
      rw [UInt16.toNat_sub_of_le _ _ (by rw [UInt16.le_iff_toNat_le]; change 1 ≤ _; omega)]
      rfl
    have hrest : count.toNat - (entries front).length =
        count.toNat - 1 - (entries front).length + 1 := by omega
    rw [if_pos hcounted, hless, List.take_append, List.take_append, hrest, List.take_succ_cons,
      List.take_of_length_le (show (entries front).length ≤ count.toNat by omega),
      List.take_of_length_le (show (entries front).length ≤ count.toNat - 1 by omega)]
    exact toldAfter_other none _ _ (inPlace?_eq_none (.inr hplace)) (inPlace?_eq_none (.inr hplace))
  · rw [if_neg hcounted, List.take_append_of_le_length (by omega),
      List.take_append_of_le_length (by omega)]

theorem epsg?_ofEpsg (epsg : UInt16) : epsg? (ofEpsg epsg) = some epsg := by
  cases hgeographic : isGeographic epsg with
  | true => simp [ofEpsg, hgeographic, epsg?, entries, valuesOf, projectedKey, geographicKey]
  | false => simp [ofEpsg, hgeographic, epsg?, entries, valuesOf, projectedKey]

theorem epsg?_ofEpsg_append (epsg : UInt16) (more : List UInt16) :
    epsg? (ofEpsg epsg ++ more) = some epsg := by
  have hcount : (ofEpsg epsg)[3]? = some 3 := rfl
  have hlength : (ofEpsg epsg).length = 4 + 4 * (3 : UInt16).toNat := rfl
  rw [epsg?_append (entryCount_append_of_counted hcount (Nat.le_of_eq hlength.symm)), epsg?_ofEpsg]

/-- Every number that is read of a list is there. The code that is told is the one that the first
counted entry keeps in place for a projected system, else the last one for a geographic system.
Numbers that make up no whole entry, entries beyond the count and entries whose value lies elsewhere
do not change it, and the keys that are written for a code tell it whatever follows. -/
theorem epsg?_reads_counted_entries :
    (∀ keys, scanKeys keys = .ok (epsg? keys)) ∧
      (∀ keys, keys.length < 4 → epsg? keys = none) ∧
      (∀ keys code, epsg? keys = some code ↔
        IsFirst keys projectedKey code ∨
          (Lacks keys projectedKey ∧ IsLast keys geographicKey code)) ∧
      (∀ keys, epsg? keys = none ↔ Lacks keys projectedKey ∧ Lacks keys geographicKey) ∧
      (∀ keys rest, (keys.length + rest.length) / 4 = keys.length / 4 →
        epsg? (keys ++ rest) = epsg? keys) ∧
      (∀ keys rest count, keys[3]? = some count → 4 + 4 * count.toNat ≤ keys.length →
        epsg? (keys ++ rest) = epsg? keys) ∧
      (∀ a b c count key place number value : UInt16, ∀ front back,
        front.length % 4 = 0 → place ≠ 0 →
        epsg? (a :: b :: c :: count :: (front ++ key :: place :: number :: value :: back)) =
          epsg? (a :: b :: c :: countWithout front count :: (front ++ back))) ∧
      ∀ epsg more, epsg? (ofEpsg epsg ++ more) = some epsg := by
  refine ⟨scanKeys_eq, ?_, epsg?_eq_some_iff, epsg?_eq_none_iff, ?_, ?_, ?_, epsg?_ofEpsg_append⟩
  · intro keys hshort
    exact epsg?_of_length_lt hshort
  · intro keys rest hincomplete
    exact epsg?_append (entryCount_append_of_incomplete hincomplete)
  · intro keys rest count hcount hcounted
    exact epsg?_append (entryCount_append_of_counted hcount hcounted)
  · intro a b c count key place number value front back hfront hplace
    exact epsg?_without_distant a b c hfront hplace

example : epsg? [1, 1, 0, 9, 2048, 0, 1, 4326, 3072, 34737, 5, 0, 2048, 0, 1, 4258, 3072, 0] =
    some 4258 := by decide

end GeoKeys
end TileAudit
