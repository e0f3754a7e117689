import TileAudit.Text.Substitution

/-!
# Laws of substitution

A substitution reads a text from the left: where the token begins its value comes in, and elsewhere
a character goes through. So a text without the token stays as it is, and two texts can be done one
after the other unless the token stands across the place where they meet. And when it is known where
in a text the token is, the substitution puts the value there and nowhere else.
-/

namespace TileAudit
namespace Text

theorem hasToken_iff {token text : List Char} : hasToken token text = true ↔ token <:+: text := by
  induction text with
  | nil =>
      unfold hasToken
      rw [List.isEmpty_iff, List.infix_nil]
  | cons c rest ih =>
      unfold hasToken
      rw [Bool.or_eq_true, List.isPrefixOf_iff_prefix, ih, List.infix_cons_iff]

section

variable {token : List Char} (value : List Char)

theorem substituteSkipping_append (front rest : List Char) :
    substituteSkipping token value front.length (front ++ rest) = substitute token value rest := by
  induction front with
  | nil => rfl
  | cons c front ih => exact ih

theorem substitute_token (h : token ≠ []) (rest : List Char) :
    substitute token value (token ++ rest) = value ++ substitute token value rest := by
  cases token with
  | nil => exact absurd rfl h
  | cons c front =>
      have hbegins : (c :: front).isPrefixOf (c :: (front ++ rest)) = true :=
        List.isPrefixOf_iff_prefix.mpr (List.prefix_append (c :: front) rest)
      show substituteSkipping (c :: front) value 0 (c :: (front ++ rest)) = _
      unfold substituteSkipping
      rw [if_pos hbegins, List.length_cons, Nat.add_sub_cancel, substituteSkipping_append]

theorem substitute_cons {c : Char} {rest : List Char} (h : ¬ token <+: c :: rest) :
    substitute token value (c :: rest) = c :: substitute token value rest := by
  have hbegins : ¬ token.isPrefixOf (c :: rest) = true := mt List.isPrefixOf_iff_prefix.mp h
  show substituteSkipping token value 0 (c :: rest) = _
  unfold substituteSkipping
  rw [if_neg hbegins]
  rfl

end

/-- A text is read from the left: one of some tokens, or a character that begins none, and then the
rest. -/
theorem tokens_induction {ι : Type} {token : ι → List Char} (htoken : ∀ i, token i ≠ [])
    {motive : List Char → Prop} (nil : motive [])
    (begins : ∀ i rest, motive rest → motive (token i ++ rest))
    (char : ∀ c rest, (∀ i, ¬ token i <+: c :: rest) → motive rest → motive (c :: rest))
    (text : List Char) : motive text := by
  -- the rest after a token is no subterm of the text, so the induction is on the length
  generalize hlength : text.length = n
  induction n using Nat.strongRecOn generalizing text with
  | ind n ih =>
      cases text with
      | nil => exact nil
      | cons c rest =>
          by_cases hbegins : ∃ i, token i <+: c :: rest
          · rcases hbegins with ⟨i, after, hafter⟩
            have hshorter : after.length < n := by
              have hpos := List.length_pos_iff.mpr (htoken i)
              rw [← hlength, ← hafter, List.length_append]
              omega
            rw [← hafter]
            exact begins i after (ih after.length hshorter after rfl)
          · have hshorter : rest.length < n := by
              rw [← hlength]
              exact Nat.lt_succ_self rest.length
            exact char c rest (not_exists.mp hbegins) (ih rest.length hshorter rest rfl)

theorem token_induction {token : List Char} (htoken : token ≠ []) {motive : List Char → Prop}
    (nil : motive []) (begins : ∀ rest, motive rest → motive (token ++ rest))
    (char : ∀ c rest, ¬ token <+: c :: rest → motive rest → motive (c :: rest))
    (text : List Char) : motive text :=
  tokens_induction (fun _ : Unit => htoken) nil (fun _ => begins)
    (fun c rest hnone => char c rest (hnone ())) text

section

variable {token value text : List Char}

theorem substitute_of_not_infix (htoken : token ≠ []) (h : ¬ token <:+: text) :
    substitute token value text = text := by
  induction text using token_induction htoken with
  | nil => rfl
  | begins rest _ => exact absurd (List.prefix_append token rest).isInfix h
  | char c rest hbegins ih =>
      rw [substitute_cons value hbegins, ih fun hrest => h (List.infix_cons hrest)]

theorem length_substitute (htoken : token ≠ []) (hvalue : token.length < value.length) :
    text.length ≤ (substitute token value text).length ∧
      (token <:+: text → text.length < (substitute token value text).length) := by
  induction text using token_induction htoken with
  | nil =>
      refine ⟨Nat.le_refl _, fun h => ?_⟩
      exact absurd (List.infix_nil.mp h) htoken
  | begins rest ih =>
      rw [substitute_token value htoken, List.length_append, List.length_append]
      exact ⟨by omega, fun _ => by omega⟩
  | char c rest hbegins ih =>
      rw [substitute_cons value hbegins, List.length_cons, List.length_cons]
      refine ⟨Nat.succ_le_succ ih.1, fun h => Nat.succ_lt_succ (ih.2 ?_)⟩
      exact (List.infix_cons_iff.mp h).resolve_left hbegins

theorem infix_of_infix_append (inner : List Char) {front back : List Char} {c : Char}
    (hback : c ∉ back) (h : inner ++ [c] <:+: front ++ back) : inner ++ [c] <:+: front := by
  rcases h with ⟨before, after, hwhole⟩
  rcases List.append_eq_append_iff.mp hwhole with ⟨more, hfront, _⟩ | ⟨more, hboth, hrest⟩
  · exact ⟨before, more, hfront.symm⟩
  · by_cases hmore : more = []
    · rw [hmore, List.append_nil] at hboth
      exact ⟨before, [], by rw [hboth, List.append_nil]⟩
    · have hlast := congrArg List.getLast? hboth
      rw [← List.append_assoc, List.getLast?_concat, List.getLast?_append,
        List.getLast?_eq_some_getLast hmore, Option.some_or] at hlast
      apply absurd (List.getLast_mem hmore)
      rw [← Option.some.inj hlast]
      intro hmem
      apply hback
      rw [hrest]
      exact List.mem_append_left after hmem

/-- A token begins in one text and ends in the next one. -/
def Straddles (token front back : List Char) : Prop :=
  ∃ left right, left ≠ [] ∧ right ≠ [] ∧ token = left ++ right ∧ left <:+ front ∧ right <+: back

theorem not_straddles_of_suffix {front front' back : List Char} (hsuffix : front' <:+ front)
    (h : ¬ Straddles token front back) : ¬ Straddles token front' back := by
  rintro ⟨left, right, hleft, hright, hboth, hfront, hback⟩
  exact h ⟨left, right, hleft, hright, hboth, hfront.trans hsuffix, hback⟩

theorem begins_or_straddles {front back : List Char} (hfront : front ≠ [])
    (h : token <+: front ++ back) : token <+: front ∨ Straddles token front back := by
  rcases h with ⟨after, hafter⟩
  rcases List.append_eq_append_iff.mp hafter with ⟨more, hmore, _⟩ | ⟨more, hmore, hback⟩
  · exact Or.inl ⟨more, hmore.symm⟩
  · by_cases hnil : more = []
    · rw [hnil, List.append_nil] at hmore
      exact Or.inl (hmore ▸ List.prefix_rfl)
    · exact Or.inr ⟨front, more, hfront, hnil, hmore, List.suffix_rfl, ⟨after, hback.symm⟩⟩

theorem substitute_append {front back : List Char} (htoken : token ≠ [])
    (h : ¬ Straddles token front back) :
    substitute token value (front ++ back) =
      substitute token value front ++ substitute token value back := by
  induction front using token_induction htoken with
  | nil => rfl
  | begins rest ih =>
      rw [List.append_assoc, substitute_token value htoken, substitute_token value htoken,
        ih (not_straddles_of_suffix (List.suffix_append token rest) h), List.append_assoc]
  | char c rest hbegins ih =>
      have hnot : ¬ token <+: c :: (rest ++ back) := by
        intro hfront
        rcases begins_or_straddles (List.cons_ne_nil c rest) hfront with hin | hacross
        · exact hbegins hin
        · exact h hacross
      rw [List.cons_append, substitute_cons value hnot, substitute_cons value hbegins,
        ih (not_straddles_of_suffix (List.suffix_cons c rest) h), List.cons_append]

def assemble (token : List Char) (parts : List (Option Char)) : List Char :=
  parts.flatMap fun part =>
    match part with
    | none => token
    | some c => [c]

theorem assemble_append (token : List Char) (parts parts' : List (Option Char)) :
    assemble token (parts ++ parts') = assemble token parts ++ assemble token parts' :=
  List.flatMap_append

theorem assemble_map_some (token text : List Char) : assemble token (text.map some) = text := by
  unfold assemble
  rw [List.flatMap_map, List.flatMap_singleton']

/-- The places of a token in a text that is put together are all the places where it is. -/
def IsComplete (token : List Char) (parts : List (Option Char)) : Prop :=
  ∀ before after, assemble token parts = before ++ (token ++ after) →
    ∃ front back, parts = front ++ none :: back ∧ assemble token front = before

theorem IsComplete.tail {part : Option Char} {parts : List (Option Char)}
    (htoken : token ≠ []) (h : IsComplete token (part :: parts)) : IsComplete token parts := by
  intro before after hplace
  have hfirst : assemble token [part] ≠ [] := by
    cases part with
    | none =>
        show token ++ [] ≠ []
        rw [List.append_nil]
        exact htoken
    | some c => exact List.cons_ne_nil c []
  have hwhole : assemble token (part :: parts) =
      (assemble token [part] ++ before) ++ (token ++ after) := by
    unfold assemble at hplace ⊢
    rw [List.flatMap_cons, hplace, List.flatMap_singleton, List.append_assoc]
  rcases h _ _ hwhole with ⟨front, back, hparts, hfront⟩
  cases front with
  | nil =>
      have hnil : assemble token [part] ++ before = [] := hfront.symm
      exact absurd (List.append_eq_nil_iff.mp hnil).1 hfirst
  | cons head front =>
      rw [List.cons_append] at hparts
      rcases List.cons.inj hparts with ⟨rfl, hrest⟩
      refine ⟨front, back, hrest, ?_⟩
      unfold assemble at hfront ⊢
      rw [List.flatMap_cons, List.flatMap_singleton] at hfront
      exact List.append_cancel_left hfront

theorem substitute_assemble {parts : List (Option Char)} (htoken : token ≠ [])
    (h : IsComplete token parts) :
    substitute token value (assemble token parts) = assemble value parts := by
  induction parts with
  | nil => rfl
  | cons part parts ih =>
      have hrest := ih (h.tail htoken)
      cases part with
      | none =>
          show substitute token value (token ++ assemble token parts) = value ++ assemble value parts
          rw [substitute_token value htoken, hrest]
      | some c =>
          show substitute token value (c :: assemble token parts) = c :: assemble value parts
          have hbegins : ¬ token <+: c :: assemble token parts := by
            rintro ⟨after, hafter⟩
            rcases h [] after hafter.symm with ⟨front, back, hparts, hfront⟩
            cases front with
            | nil => cases hparts
            | cons head front =>
                rcases List.cons.inj hparts with ⟨rfl, _⟩
                cases hfront
          rw [substitute_cons value hbegins, hrest]

end

end Text
end TileAudit
