import TileAudit.Config.Basic
import TileAudit.Proofs.FileTree.PathText
import TileAudit.Proofs.Text.Substitution

/-!
# Templates and what they become

A template is cut into characters and holes, and as no placeholder begins within another, every one
of them is a hole. Filling the holes is what rendering is for. Rendering puts in the raster path
first and then looks for the placeholder of the cache, in the path too: so it fills the holes and
does no more unless the path makes the placeholder anew.
-/

namespace TileAudit
namespace Template

open Text (substitute Straddles)

inductive Placeholder where
  | raster
  | cache
deriving DecidableEq

namespace Placeholder

def token : Placeholder → List Char
  | raster => rasterToken.toList
  | cache => cacheToken.toList

theorem token_ne_nil (p : Placeholder) : p.token ≠ [] := by
  cases p with
  | raster => decide
  | cache => decide

theorem apart (p q : Placeholder) : ∀ i < q.token.length, 0 < i ∨ p ≠ q →
    ¬ q.token.drop i <+: p.token ∧ ¬ p.token <+: q.token.drop i := by
  cases p with
  | raster =>
      cases q with
      | raster => decide +kernel
      | cache => decide +kernel
  | cache =>
      cases q with
      | raster => decide +kernel
      | cache => decide +kernel

theorem eq_of_begins {p q : Placeholder} {before after rest : List Char}
    (hshort : before.length < q.token.length)
    (h : q.token ++ rest = before ++ (p.token ++ after)) :
    p = q ∧ before = [] ∧ after = rest := by
  have hdrop : q.token.drop before.length ++ rest = p.token ++ after := by
    have hdrop := congrArg (List.drop before.length) h
    rw [List.drop_left, List.drop_append_of_le_length (Nat.le_of_lt hshort)] at hdrop
    exact hdrop
  have hmeet : q.token.drop before.length <+: p.token ∨ p.token <+: q.token.drop before.length :=
    List.prefix_or_prefix_of_prefix (List.prefix_append _ rest) ⟨after, hdrop.symm⟩
  have hsame : ¬ (0 < before.length ∨ p ≠ q) := by
    intro hother
    rcases apart p q before.length hshort hother with ⟨hfirst, hsecond⟩
    exact hmeet.elim hfirst hsecond
  rcases not_or.mp hsame with ⟨hlength, hpq⟩
  have hnil : before = [] := List.length_eq_zero_iff.mp (Nat.eq_zero_of_not_pos hlength)
  have hp : p = q := Decidable.not_not.mp hpq
  refine ⟨hp, hnil, ?_⟩
  rw [hnil, hp] at h
  exact (List.append_cancel_left h).symm

theorem begins_or_follows {p q : Placeholder} {before after rest : List Char}
    (h : q.token ++ rest = before ++ (p.token ++ after)) :
    (p = q ∧ before = [] ∧ after = rest) ∨
      ∃ inner, before = q.token ++ inner ∧ rest = inner ++ (p.token ++ after) := by
  by_cases hshort : before.length < q.token.length
  · exact Or.inl (eq_of_begins hshort h)
  · have hlong : q.token <+: before :=
      List.prefix_of_prefix_length_le ⟨rest, rfl⟩ ⟨_, h.symm⟩ (Nat.le_of_not_lt hshort)
    rcases hlong with ⟨inner, rfl⟩
    rw [List.append_assoc] at h
    exact Or.inr ⟨inner, rfl, List.append_cancel_left h⟩

theorem not_straddles {p q : Placeholder} (h : p ≠ q) (back : List Char) :
    ¬ Straddles p.token q.token back := by
  rintro ⟨left, right, hleft, _, htoken, ⟨front, hfront⟩, _⟩
  have hshort : front.length < q.token.length := by
    rw [← hfront, List.length_append]
    exact Nat.lt_add_of_pos_right (List.length_pos_iff.mpr hleft)
  have hdrop : q.token.drop front.length = left := by
    rw [← hfront, List.drop_left]
  apply (apart p q front.length hshort (Or.inr h)).1
  rw [hdrop, htoken]
  exact List.prefix_append left right

theorem not_infix {p q : Placeholder} (h : p ≠ q) : ¬ p.token <:+: q.token := by
  cases p with
  | raster =>
      cases q with
      | raster => exact absurd rfl h
      | cache => decide +kernel
  | cache =>
      cases q with
      | raster => decide +kernel
      | cache => exact absurd rfl h

end Placeholder

/-!
## Cutting a template

A text is cut from the left: a hole where a placeholder begins, a character elsewhere. No
placeholder begins within another one, so every text has one cut.
-/

inductive Piece where
  | char (c : Char)
  | hole (p : Placeholder)

def Piece.fill (value : Placeholder → List Char) : Piece → List Char
  | .char c => [c]
  | .hole p => value p

def fillAll (value : Placeholder → List Char) (pieces : List Piece) : List Char :=
  pieces.flatMap (Piece.fill value)

theorem fillAll_char (value : Placeholder → List Char) (c : Char) (pieces : List Piece) :
    fillAll value (.char c :: pieces) = c :: fillAll value pieces := rfl

theorem fillAll_hole (value : Placeholder → List Char) (p : Placeholder) (pieces : List Piece) :
    fillAll value (.hole p :: pieces) = value p ++ fillAll value pieces := rfl

theorem fillAll_append (value : Placeholder → List Char) (front back : List Piece) :
    fillAll value (front ++ back) = fillAll value front ++ fillAll value back :=
  List.flatMap_append

def values (raster cache : List Char) : Placeholder → List Char
  | .raster => raster
  | .cache => cache

/-- The pieces of a text: a hole where a placeholder begins, a character elsewhere. -/
inductive Cuts : List Char → List Piece → Prop where
  | nil : Cuts [] []
  | hole (p : Placeholder) {rest : List Char} {pieces : List Piece} (h : Cuts rest pieces) :
      Cuts (p.token ++ rest) (.hole p :: pieces)
  | char {c : Char} {rest : List Char} {pieces : List Piece}
      (hnone : ∀ p : Placeholder, ¬ p.token <+: c :: rest) (h : Cuts rest pieces) :
      Cuts (c :: rest) (.char c :: pieces)

theorem exists_cuts (text : List Char) : ∃ pieces, Cuts text pieces := by
  induction text using Text.tokens_induction Placeholder.token_ne_nil with
  | nil => exact ⟨[], Cuts.nil⟩
  | begins p rest ih =>
      rcases ih with ⟨pieces, hpieces⟩
      exact ⟨.hole p :: pieces, Cuts.hole p hpieces⟩
  | char c rest hnone ih =>
      rcases ih with ⟨pieces, hpieces⟩
      exact ⟨.char c :: pieces, Cuts.char hnone hpieces⟩

namespace Cuts

variable {text : List Char} {pieces : List Piece}

theorem source (h : Cuts text pieces) : fillAll Placeholder.token pieces = text := by
  induction h with
  | nil => rfl
  | hole p _ ih => rw [fillAll_hole, ih]
  | char _ _ ih => rw [fillAll_char, ih]

theorem complete (h : Cuts text pieces) {p : Placeholder} {before after : List Char}
    (hplace : text = before ++ (p.token ++ after)) :
    ∃ front back, pieces = front ++ .hole p :: back ∧
      fillAll Placeholder.token front = before ∧ fillAll Placeholder.token back = after := by
  induction h generalizing before with
  | nil =>
      have htoken := (List.append_eq_nil_iff.mp (List.append_eq_nil_iff.mp hplace.symm).2).1
      exact absurd htoken p.token_ne_nil
  | @hole q rest pieces hrest ih =>
      rcases Placeholder.begins_or_follows hplace with ⟨rfl, rfl, rfl⟩ | ⟨inner, rfl, hinner⟩
      · exact ⟨[], pieces, rfl, rfl, hrest.source⟩
      · rcases ih hinner with ⟨front, back, hpieces, hfront, hback⟩
        refine ⟨.hole q :: front, back, congrArg (.hole q :: ·) hpieces, ?_, hback⟩
        rw [fillAll_hole, hfront]
  | @char c rest pieces hnone _ ih =>
      cases before with
      | nil => exact absurd ⟨after, hplace.symm⟩ (hnone p)
      | cons head inner =>
          rcases List.cons.inj hplace with ⟨rfl, hrest⟩
          rcases ih hrest with ⟨front, back, hpieces, hfront, hback⟩
          refine ⟨.char c :: front, back, congrArg (.char c :: ·) hpieces, ?_, hback⟩
          rw [fillAll_char, hfront]

theorem hole_mem_iff (h : Cuts text pieces) {p : Placeholder} :
    .hole p ∈ pieces ↔ p.token <:+: text := by
  constructor
  · intro hmem
    rcases List.append_of_mem hmem with ⟨front, back, hpieces⟩
    refine ⟨fillAll Placeholder.token front, fillAll Placeholder.token back, ?_⟩
    rw [← h.source, hpieces, fillAll_append, fillAll_hole, List.append_assoc]
  · rintro ⟨before, after, hplace⟩
    rw [List.append_assoc] at hplace
    rcases h.complete hplace.symm with ⟨front, back, hpieces, _⟩
    rw [hpieces]
    exact List.mem_append_right front List.mem_cons_self

theorem substitute_raster (h : Cuts text pieces) (value : List Char) :
    substitute Placeholder.raster.token value text =
      fillAll (values value Placeholder.cache.token) pieces := by
  induction h with
  | nil => rfl
  | hole p _ ih =>
      cases p with
      | raster =>
          rw [Text.substitute_token value (Placeholder.token_ne_nil _), ih, fillAll_hole, values]
      | cache =>
          have hne : Placeholder.raster ≠ .cache := Placeholder.noConfusion
          rw [Text.substitute_append (Placeholder.token_ne_nil _) (Placeholder.not_straddles hne _),
            Text.substitute_of_not_infix (Placeholder.token_ne_nil _) (Placeholder.not_infix hne), ih,
            fillAll_hole, values]
  | char hnone _ ih =>
      rw [Text.substitute_cons value (hnone .raster), ih, fillAll_char]

end Cuts

/-!
## The directory of the cache is put in

The second placeholder is looked for in a text that has the raster path in it. It is where it was,
and nowhere else, unless the path makes it anew; a path that is sealed at both ends does so only by
having it within.
-/

/-- With the raster path put in, the placeholder of the cache is where it was and nowhere else. -/
def Undisturbed (rasterPath : List Char) (pieces : List Piece) : Prop :=
  ∀ before after,
    fillAll (values rasterPath Placeholder.cache.token) pieces =
        before ++ (Placeholder.cache.token ++ after) →
      ∃ front back, pieces = front ++ .hole .cache :: back ∧
        fillAll (values rasterPath Placeholder.cache.token) front = before

def openParts (rasterPath : List Char) (pieces : List Piece) : List (Option Char) :=
  pieces.flatMap fun piece =>
    match piece with
    | .char c => [some c]
    | .hole .raster => rasterPath.map some
    | .hole .cache => [none]

section

variable {rasterPath cacheBase : List Char} {pieces : List Piece}

theorem assemble_openParts (rasterPath cacheBase : List Char) (pieces : List Piece) :
    Text.assemble cacheBase (openParts rasterPath pieces) =
      fillAll (values rasterPath cacheBase) pieces := by
  induction pieces with
  | nil => rfl
  | cons piece pieces ih =>
      unfold openParts at ih ⊢
      rw [List.flatMap_cons, Text.assemble_append, ih]
      cases piece with
      | char c => rfl
      | hole p =>
          cases p with
          | raster => exact congrArg (· ++ _) (Text.assemble_map_some cacheBase rasterPath)
          | cache => exact congrArg (· ++ _) (List.append_nil cacheBase)

theorem Undisturbed.substitute_cache (h : Undisturbed rasterPath pieces) (cacheBase : List Char) :
    substitute Placeholder.cache.token cacheBase
        (fillAll (values rasterPath Placeholder.cache.token) pieces) =
      fillAll (values rasterPath cacheBase) pieces := by
  have hcomplete : Text.IsComplete Placeholder.cache.token (openParts rasterPath pieces) := by
    intro before after hplace
    rw [assemble_openParts] at hplace
    rcases h before after hplace with ⟨front, back, hpieces, hfront⟩
    refine ⟨openParts rasterPath front, openParts rasterPath back, ?_, ?_⟩
    · rw [hpieces]
      unfold openParts
      rw [List.flatMap_append, List.flatMap_cons]
      rfl
    · rw [assemble_openParts]
      exact hfront
  rw [← assemble_openParts,
    Text.substitute_assemble (Placeholder.token_ne_nil _) hcomplete, assemble_openParts]

/-- A path that begins and ends with a character that is not in the placeholder of the cache. -/
structure IsSealed (path : List Char) : Prop where
  first : ∃ c rest, path = c :: rest ∧ c ∉ Placeholder.cache.token
  last : ∃ front c, path = front ++ [c] ∧ c ∉ Placeholder.cache.token

theorem IsSealed.not_straddles (h : IsSealed rasterPath) (back : List Char) :
    ¬ Straddles Placeholder.cache.token rasterPath back := by
  rintro ⟨left, right, hleft, _, htoken, ⟨front, hfront⟩, _⟩
  rcases h.last with ⟨inner, c, hpath, hc⟩
  have hlast : left.getLast? = some c := by
    have hends := congrArg List.getLast? (hfront.trans hpath)
    rw [List.getLast?_concat, List.getLast?_append, List.getLast?_eq_some_getLast hleft,
      Option.some_or] at hends
    rw [List.getLast?_eq_some_getLast hleft, hends]
  apply hc
  rw [htoken]
  exact List.mem_append_left right (List.mem_of_getLast? hlast)

theorem Cuts.prefix_of_prefix_fillAll {text letters : List Char} (h : Cuts text pieces)
    (hsealed : IsSealed rasterPath) (hletters : ∀ c ∈ letters, c ∈ Placeholder.cache.token)
    (hfront : letters <+: fillAll (values rasterPath Placeholder.cache.token) pieces) :
    letters <+: text := by
  induction h generalizing letters with
  | nil => exact hfront
  | @hole p rest pieces _ ih =>
      cases p with
      | raster =>
          rcases hsealed.first with ⟨head, tail, hpath, hhead⟩
          cases letters with
          | nil => exact List.nil_prefix
          | cons c more =>
              -- the path begins with none of the letters, so nothing stands in front of it
              rw [fillAll_hole, values, hpath, List.cons_append] at hfront
              rw [(List.cons_prefix_cons.mp hfront).1] at hletters
              exact absurd (hletters head List.mem_cons_self) hhead
      | cache =>
          rw [fillAll_hole, values] at hfront
          rcases hfront with ⟨after, hafter⟩
          rcases List.append_eq_append_iff.mp hafter with ⟨more, hshort, _⟩ | ⟨more, rfl, hmore⟩
          · exact List.IsPrefix.trans ⟨more, hshort.symm⟩ (List.prefix_append _ rest)
          · have hrest := ih (fun c hc => hletters c (List.mem_append_right _ hc)) ⟨after, hmore.symm⟩
            exact (List.prefix_append_right_inj _).mpr hrest
  | @char c rest pieces _ _ ih =>
      cases letters with
      | nil => exact List.nil_prefix
      | cons head more =>
          rw [fillAll_char] at hfront
          rcases List.cons_prefix_cons.mp hfront with ⟨rfl, hmore⟩
          have hrest := ih (fun c hc => hletters c (List.mem_cons_of_mem _ hc)) hmore
          exact List.cons_prefix_cons.mpr ⟨rfl, hrest⟩

theorem Cuts.undisturbed {text : List Char} (h : Cuts text pieces) (hsealed : IsSealed rasterPath)
    (hnot : ¬ Placeholder.cache.token <:+: rasterPath) : Undisturbed rasterPath pieces := by
  intro before after hplace
  induction h generalizing before with
  | nil =>
      have htoken := (List.append_eq_nil_iff.mp (List.append_eq_nil_iff.mp hplace.symm).2).1
      exact absurd htoken (Placeholder.token_ne_nil _)
  | @hole p rest pieces _ ih =>
      cases p with
      | cache =>
          rw [fillAll_hole, values] at hplace
          rcases Placeholder.begins_or_follows hplace with ⟨_, rfl, _⟩ | ⟨inner, rfl, hinner⟩
          · exact ⟨[], pieces, rfl, rfl⟩
          · rcases ih inner hinner with ⟨front, back, hpieces, hfront⟩
            refine ⟨.hole .cache :: front, back, congrArg (.hole .cache :: ·) hpieces, ?_⟩
            rw [fillAll_hole, values, hfront]
      | raster =>
          rw [fillAll_hole, values] at hplace
          have hfollows : ∃ inner, before = rasterPath ++ inner ∧
              fillAll (values rasterPath Placeholder.cache.token) pieces =
                inner ++ (Placeholder.cache.token ++ after) := by
            rcases List.append_eq_append_iff.mp hplace with hlater | ⟨inner, hpath, hinner⟩
            · exact hlater
            · -- a token that begins within the path would be in it or stand across its end
              by_cases hnil : inner = []
              · rw [hnil, List.append_nil] at hpath
                rw [hnil, List.nil_append] at hinner
                exact ⟨[], by rw [hpath, List.append_nil], hinner.symm⟩
              · have hsuffix : inner <:+ rasterPath := ⟨before, hpath.symm⟩
                rcases Text.begins_or_straddles hnil ⟨after, hinner⟩ with hin | hacross
                · exact absurd (hin.isInfix.trans hsuffix.isInfix) hnot
                · exact absurd hacross
                    (Text.not_straddles_of_suffix hsuffix (hsealed.not_straddles _))
          rcases hfollows with ⟨inner, rfl, hinner⟩
          rcases ih inner hinner with ⟨front, back, hpieces, hfront⟩
          refine ⟨.hole .raster :: front, back, congrArg (.hole .raster :: ·) hpieces, ?_⟩
          rw [fillAll_hole, values, hfront]
  | @char c rest pieces hnone hrest ih =>
      cases before with
      | nil =>
          have hchar := Cuts.char hnone hrest
          have hbegins := hchar.prefix_of_prefix_fillAll hsealed (fun _ hc => hc) ⟨after, hplace.symm⟩
          exact absurd hbegins (hnone .cache)
      | cons head inner =>
          rw [fillAll_char] at hplace
          rcases List.cons.inj hplace with ⟨rfl, hinner⟩
          rcases ih inner hinner with ⟨front, back, hpieces, hfront⟩
          refine ⟨.char c :: front, back, congrArg (.char c :: ·) hpieces, ?_⟩
          rw [fillAll_char, hfront]

theorem Cuts.substitute_cache_of_sealed {text : List Char} (h : Cuts text pieces)
    (hsealed : IsSealed rasterPath) (cacheBase : List Char) :
    substitute Placeholder.cache.token cacheBase
        (fillAll (values rasterPath Placeholder.cache.token) pieces) =
      fillAll (values (substitute Placeholder.cache.token cacheBase rasterPath) cacheBase) pieces := by
  induction h with
  | nil => rfl
  | @hole p rest pieces _ ih =>
      cases p with
      | raster =>
          rw [fillAll_hole, fillAll_hole, values, values,
            Text.substitute_append (Placeholder.token_ne_nil _) (hsealed.not_straddles _), ih]
      | cache =>
          rw [fillAll_hole, fillAll_hole, values, values,
            Text.substitute_token cacheBase (Placeholder.token_ne_nil _), ih]
  | @char c rest pieces hnone hrest ih =>
      have hbegins : ¬ Placeholder.cache.token <+:
          c :: fillAll (values rasterPath Placeholder.cache.token) pieces := by
        intro hfront
        have hchar := Cuts.char hnone hrest
        exact hnone .cache (hchar.prefix_of_prefix_fillAll hsealed (fun _ hc => hc) hfront)
      rw [fillAll_char, fillAll_char, Text.substitute_cons cacheBase hbegins, ih]

theorem length_fillAll (cacheBase : List Char) {path path' : List Char}
    (h : path.length < path'.length) :
    (fillAll (values path cacheBase) pieces).length ≤
        (fillAll (values path' cacheBase) pieces).length ∧
      (.hole .raster ∈ pieces →
        (fillAll (values path cacheBase) pieces).length <
          (fillAll (values path' cacheBase) pieces).length) := by
  induction pieces with
  | nil => exact ⟨Nat.le_refl _, fun hmem => absurd hmem List.not_mem_nil⟩
  | cons piece pieces ih =>
      cases piece with
      | char c =>
          rw [fillAll_char, fillAll_char, List.length_cons, List.length_cons]
          constructor
          · exact Nat.succ_le_succ ih.1
          · intro hmem
            have hrest := (List.mem_cons.mp hmem).resolve_left Piece.noConfusion
            exact Nat.succ_lt_succ (ih.2 hrest)
      | hole p =>
          rw [fillAll_hole, fillAll_hole, List.length_append, List.length_append]
          cases p with
          | raster =>
              have hmore := Nat.add_lt_add_of_lt_of_le h ih.1
              exact ⟨Nat.le_of_lt hmore, fun _ => hmore⟩
          | cache =>
              constructor
              · exact Nat.add_le_add_left ih.1 cacheBase.length
              · intro hmem
                rcases List.mem_cons.mp hmem with heq | hrest
                · cases heq
                · exact Nat.add_lt_add_left (ih.2 hrest) cacheBase.length

theorem Cuts.substitute_cache_iff {text : List Char} (h : Cuts text pieces)
    (hsealed : IsSealed rasterPath) (hraster : Placeholder.raster.token <:+: text)
    (hlonger : Placeholder.cache.token <:+: rasterPath →
      Placeholder.cache.token.length < cacheBase.length) :
    substitute Placeholder.cache.token cacheBase
        (fillAll (values rasterPath Placeholder.cache.token) pieces) =
      fillAll (values rasterPath cacheBase) pieces ↔ ¬ Placeholder.cache.token <:+: rasterPath := by
  constructor
  · -- the directory is longer than its placeholder, so a path with the placeholder becomes longer
    intro hsame hinfix
    have hpath :=
      (Text.length_substitute (Placeholder.token_ne_nil _) (hlonger hinfix)).2 hinfix
    have hfilled := (length_fillAll cacheBase hpath).2 (h.hole_mem_iff.mpr hraster)
    rw [← h.substitute_cache_of_sealed hsealed, hsame] at hfilled
    exact Nat.lt_irrefl _ hfilled
  · intro hnot
    exact (h.undisturbed hsealed hnot).substitute_cache cacheBase

end

section

variable {template : String} {pieces : List Piece}

theorem holds_iff {token : String} :
    holds template token = true ↔ token.toList <:+: template.toList :=
  Text.hasToken_iff

theorem render_eq_error_iff {rasterPath cacheBase : String} {fault : ConfigFault} :
    render template rasterPath cacheBase = .error fault ↔
      (fault = .missingPlaceholder rasterToken ∧ ¬ rasterToken.toList <:+: template.toList) ∨
        (fault = .missingPlaceholder cacheToken ∧ rasterToken.toList <:+: template.toList ∧
          ¬ cacheToken.toList <:+: template.toList) := by
  unfold render
  by_cases hraster : holds template rasterToken = true
  · have hin := holds_iff.mp hraster
    by_cases hcache : holds template cacheToken = true
    · simp [hraster, hcache, hin, holds_iff.mp hcache]
    · have hout := mt holds_iff.mpr hcache
      simp [hraster, hcache, hin, hout, eq_comm]
  · have hout := mt holds_iff.mpr hraster
    simp [hraster, hout, eq_comm]

def filled (pieces : List Piece) (rasterPath cacheBase : String) : String :=
  String.ofList (fillAll (values rasterPath.toList cacheBase.toList) pieces)

theorem Cuts.render_eq (h : Cuts template.toList pieces)
    (hraster : rasterToken.toList <:+: template.toList)
    (hcache : cacheToken.toList <:+: template.toList) (rasterPath cacheBase : String) :
    render template rasterPath cacheBase =
      .ok (String.ofList (substitute Placeholder.cache.token cacheBase.toList
        (fillAll (values rasterPath.toList Placeholder.cache.token) pieces))) := by
  unfold render fill
  rw [holds_iff.mpr hraster, holds_iff.mpr hcache, String.toList_ofList,
    ← h.substitute_raster rasterPath.toList]
  rfl

theorem ok_ofList_inj {text text' : List Char} :
    (Except.ok (String.ofList text) : Except ConfigFault String) = .ok (String.ofList text') ↔
      text = text' := by
  rw [Except.ok.injEq, String.ofList_inj]

end

/-!
## The paths of an audit

The paths of an audit are in its scratch directory and end in names without the placeholder, so only
the scratch directory can bring it in.
-/

section

variable {config : Config}

theorem toList_rasterPath (config : Config) :
    config.rasterPath.toList =
      PathText.lead config.workDir ++ "synthetic_test_data.tif".toList :=
  PathText.toList_join (by decide) config.workDir

theorem toList_cacheBase (config : Config) :
    config.cacheBase.toList = PathText.lead config.workDir ++ "cache_data".toList :=
  PathText.toList_join (by decide) config.workDir

theorem isSealed_rasterPath
    (hdir : ∀ c, config.workDir.toList.head? = some c → c ∉ Placeholder.cache.token) :
    IsSealed config.rasterPath.toList := by
  rw [toList_rasterPath]
  rcases PathText.exists_lead config.workDir with ⟨glue, hlead, hglue⟩
  constructor
  · rw [hlead, List.append_assoc]
    cases hlist : config.workDir.toList with
    | cons c rest =>
        rw [hlist] at hdir
        exact ⟨c, _, rfl, hdir c rfl⟩
    | nil =>
        cases glue with
        | nil => exact ⟨'s', "ynthetic_test_data.tif".toList, by decide, by decide⟩
        | cons c more =>
            rw [hglue c List.mem_cons_self]
            exact ⟨'/', _, rfl, by decide⟩
  · refine ⟨PathText.lead config.workDir ++ "synthetic_test_data.ti".toList, 'f', ?_, by decide⟩
    rw [List.append_assoc]
    rfl

theorem head_not_mem_of_isAbsolute {dir : String} (h : PathText.isAbsolute dir = true) :
    ∀ c, dir.toList.head? = some c → c ∉ Placeholder.cache.token := by
  intro c hc
  have hslash : dir.toList.head? = some '/' := of_decide_eq_true h
  rw [hc] at hslash
  rw [Option.some.inj hslash]
  decide

theorem cache_infix_rasterPath_iff :
    Placeholder.cache.token <:+: config.rasterPath.toList ↔
      Placeholder.cache.token <:+: config.workDir.toList := by
  rw [toList_rasterPath]
  rcases PathText.exists_lead config.workDir with ⟨glue, hlead, hglue⟩
  rw [hlead, List.append_assoc]
  constructor
  · have hrest : 'R' ∉ glue ++ "synthetic_test_data.tif".toList := by
      intro hmem
      rcases List.mem_append.mp hmem with hslash | hname
      · exact absurd (hglue 'R' hslash) (by decide)
      · exact absurd hname (by decide)
    exact Text.infix_of_infix_append "TILE_CACHE_BASE_DI".toList hrest
  · intro hdir
    exact hdir.trans (List.prefix_append _ _).isInfix

theorem length_token_lt_cacheBase (h : Placeholder.cache.token <:+: config.workDir.toList) :
    Placeholder.cache.token.length < config.cacheBase.toList.length := by
  rcases PathText.exists_lead config.workDir with ⟨glue, hlead, _⟩
  have hlength := h.length_le
  rw [toList_cacheBase, hlead, List.length_append, List.length_append]
  have hname : "cache_data".toList.length = 10 := by decide
  omega

end

/-- Rendering fails for a template without a placeholder, and names the first one that is missing.
It fills every other template's holes, and no text but the holes is a placeholder: the raster path
comes in as it is, and then the directory of the cache takes the place of its own placeholder
wherever that stands. So nothing but the holes is changed while the raster path does not make the
placeholder anew. A scratch directory that does not begin with a letter of the placeholder, as no
absolute one does, keeps its path in the text exactly when it does not have the placeholder within
it. -/
theorem render_fills_holes (template : String) :
    (∀ rasterPath cacheBase fault, render template rasterPath cacheBase = .error fault ↔
      (fault = .missingPlaceholder rasterToken ∧ ¬ rasterToken.toList <:+: template.toList) ∨
        (fault = .missingPlaceholder cacheToken ∧ rasterToken.toList <:+: template.toList ∧
          ¬ cacheToken.toList <:+: template.toList)) ∧
    ∃ pieces, Cuts template.toList pieces ∧
      (∀ (p : Placeholder) before after, template.toList = before ++ (p.token ++ after) →
        ∃ front back, pieces = front ++ .hole p :: back ∧
          fillAll Placeholder.token front = before ∧ fillAll Placeholder.token back = after) ∧
      (rasterToken.toList <:+: template.toList → cacheToken.toList <:+: template.toList →
        (∀ rasterPath cacheBase, render template rasterPath cacheBase =
          .ok (fill cacheToken cacheBase (filled pieces rasterPath cacheToken))) ∧
        (∀ rasterPath cacheBase, Undisturbed rasterPath.toList pieces →
          render template rasterPath cacheBase = .ok (filled pieces rasterPath cacheBase)) ∧
        ∀ config : Config,
          (∀ c, config.workDir.toList.head? = some c → c ∉ cacheToken.toList) →
          (render template config.rasterPath config.cacheBase =
              .ok (filled pieces config.rasterPath config.cacheBase) ↔
            ¬ cacheToken.toList <:+: config.workDir.toList)) := by
  refine ⟨fun _ _ _ => render_eq_error_iff, ?_⟩
  rcases exists_cuts template.toList with ⟨pieces, hcuts⟩
  refine ⟨pieces, hcuts, fun _ _ _ hplace => hcuts.complete hplace, ?_⟩
  intro hraster hcache
  have hrender := hcuts.render_eq hraster hcache
  refine ⟨?_, ?_, ?_⟩
  · intro rasterPath cacheBase
    rw [hrender, fill, filled, String.toList_ofList]
    rfl
  · intro rasterPath cacheBase hundisturbed
    rw [hrender, hundisturbed.substitute_cache, filled]
  · intro config hdir
    rw [hrender, filled, ok_ofList_inj, hcuts.substitute_cache_iff (isSealed_rasterPath hdir) hraster]
    · exact not_congr cache_infix_rasterPath_iff
    · exact fun hinfix => length_token_lt_cacheBase (cache_infix_rasterPath_iff.mp hinfix)

def barTemplate : String := "SYNTHETIC_GEOTIFF_PATH_PLACEHOLDER|TILE_CACHE_BASE_DIR"

def auditIn (dir : String) : Config :=
  Config.ofEnvironment [("TILECHECK_WORK_DIR", dir)]

theorem render_fills_holes_twoDirectories :
    ∃ pieces, Cuts barTemplate.toList pieces ∧
      Undisturbed (auditIn "/w").rasterPath.toList pieces ∧
      render barTemplate (auditIn "/w").rasterPath (auditIn "/w").cacheBase =
        .ok (filled pieces (auditIn "/w").rasterPath (auditIn "/w").cacheBase) ∧
      render barTemplate (auditIn "/TILE_CACHE_BASE_DIR").rasterPath
          (auditIn "/TILE_CACHE_BASE_DIR").cacheBase ≠
        .ok (filled pieces (auditIn "/TILE_CACHE_BASE_DIR").rasterPath
          (auditIn "/TILE_CACHE_BASE_DIR").cacheBase) ∧
      render barTemplate "/TILE_CACHE_BASE_DIR/x.tif" "/c" = .ok "//c/x.tif|/c" := by
  rcases (render_fills_holes barTemplate).2 with ⟨pieces, hcuts, _, hrender⟩
  have hraster : rasterToken.toList <:+: barTemplate.toList := by decide +kernel
  have hcache : cacheToken.toList <:+: barTemplate.toList := by decide +kernel
  rcases hrender hraster hcache with ⟨_, hsame, hconfig⟩
  have hslash : ∀ c, "/w".toList.head? = some c → c ∉ cacheToken.toList :=
    head_not_mem_of_isAbsolute (by decide)
  have hslash' : ∀ c, "/TILE_CACHE_BASE_DIR".toList.head? = some c → c ∉ cacheToken.toList :=
    head_not_mem_of_isAbsolute (by decide)
  have hundisturbed : Undisturbed (auditIn "/w").rasterPath.toList pieces := by
    apply hcuts.undisturbed (isSealed_rasterPath hslash)
    decide +kernel
  refine ⟨pieces, hcuts, hundisturbed, hsame _ _ hundisturbed, ?_, ?_⟩
  · intro hfilled
    have hnot := (hconfig (auditIn "/TILE_CACHE_BASE_DIR") hslash').mp hfilled
    exact hnot (by decide +kernel)
  · rfl

end Template
end TileAudit
