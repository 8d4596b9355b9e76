import Bulletin.Fragment.Draw
import Bulletin.Proofs.Text.Digit
import Mathlib.Data.List.Nodup
import Mathlib.Data.List.Perm.Subperm

/-!
# Scopes of quizzes

A scope is a non-empty text of letters, digits and underscores; what an id asks for is one, and so
is every numbered variant of it.  The search for a scope that nobody has ends at the first
candidate that is free: among one candidate more than there are scopes taken, one is.

The names of radio groups tell scope and position apart, since a scope holds no dash.

## Main statements

- `uniqueScope_notMem`: the scope that is found is free
- `isVariant_uniqueScope`: it is the one asked for or one of its variants
- `scopes_inj`: no two quizzes of a newsletter have the same scope
- `groupName_inj`: no two questions have the same group
-/

namespace Bulletin.Fragment

open Text

/-- A text that may be a scope. -/
def IsScope (scope : String) : Prop :=
  scope.toList ≠ [] ∧ ∀ c ∈ scope.toList, isScopeChar c = true

/-- The scope asked for, or a numbered variant of it. -/
def IsVariant (base scope : String) : Prop :=
  scope = base ∨ ∃ n ≥ 2, scope = numbered base n

/-- `numbered` appends an underscore and the number. -/
theorem toList_numbered (base : String) (n : Nat) :
    (numbered base n).toList = base.toList ++ '_' :: digitsOf n := by
  simp [numbered, toList_ofNat]

/-- `isScopeChar` holds of digits. -/
theorem isScopeChar_of_isDigit {c : Char} (h : c.isDigit = true) : isScopeChar c = true := by
  simp [isScopeChar, Char.isAlphanum, h]

/-- A character that is not `isScopeChar` is not among characters that are. -/
theorem notMem_of_isScopeChar {cs : List Char} (h : ∀ c ∈ cs, isScopeChar c = true) {c : Char}
    (hc : isScopeChar c = false) : c ∉ cs := by
  intro hmem
  simp [h c hmem] at hc

/-- `isMarkup` holds of no character of a scope. -/
theorem isMarkup_of_isScopeChar {c : Char} (h : isScopeChar c = true) :
    Html.isMarkup c = false := by
  rw [Bool.eq_false_iff]
  intro hc
  simp only [Html.isMarkup, Bool.or_eq_true, decide_eq_true_eq] at hc
  rcases hc with ((rfl | rfl) | rfl) | rfl <;> exact absurd h (by decide)

/-! ## What an id asks for -/

/-- `scopeOf` gives a scope for every id. -/
theorem isScope_scopeOf (id : String) : IsScope (scopeOf id) := by
  unfold scopeOf
  dsimp only
  split
  · exact ⟨by decide, List.all_eq_true.1 (by decide)⟩
  · -- Every character that a scope may not hold has become an underscore.
    rename_i hne
    rw [List.isEmpty_iff] at hne
    refine ⟨by simpa using hne, ?_⟩
    intro c hc
    obtain ⟨d, -, rfl⟩ := List.mem_map.1 (by simpa using hc)
    split
    · assumption
    · decide

/-- `scopeOf` leaves a scope as it is. -/
theorem scopeOf_of_isScope {scope : String} (h : IsScope scope) : scopeOf scope = scope := by
  have hmap : (scope.toList.map fun c => if isScopeChar c then c else '_') = scope.toList := by
    conv_rhs => rw [← List.map_id scope.toList]
    apply List.map_congr_left
    intro c hc
    rw [if_pos (h.2 c hc), id]
  simp only [scopeOf, hmap, List.isEmpty_iff, if_neg h.1, String.ofList_toList]

/-- `numbered` makes scopes of scopes. -/
theorem IsScope.numbered {base : String} (h : IsScope base) (n : Nat) :
    IsScope (numbered base n) := by
  unfold IsScope
  rw [toList_numbered]
  refine ⟨by simp, ?_⟩
  intro c hc
  rw [List.mem_append, List.mem_cons] at hc
  rcases hc with hc | rfl | hc
  · exact h.2 c hc
  · decide
  · exact isScopeChar_of_isDigit (isDigit_of_mem_digitsOf hc)

/-- `IsVariant` of a scope is a scope. -/
theorem IsVariant.isScope {base scope : String} (h : IsVariant base scope) (hbase : IsScope base) :
    IsScope scope := by
  rcases h with rfl | ⟨n, -, rfl⟩
  · exact hbase
  · exact hbase.numbered n

/-! ## The search for a free scope -/

/-- `numbered` tells numbers apart. -/
theorem numbered_inj {base : String} {m n : Nat} (h : numbered base m = numbered base n) :
    m = n := by
  have hlist : (numbered base m).toList = (numbered base n).toList := by rw [h]
  rw [toList_numbered, toList_numbered, List.append_cancel_left_eq, List.cons.injEq] at hlist
  exact digitsOf_inj hlist.2

/-- `variants` are all different. -/
theorem nodup_variants (base : String) (count : Nat) : (variants base count).Nodup := by
  apply List.Nodup.map _ List.nodup_range
  intro i j hij
  have hsucc := numbered_inj hij
  omega

/-- `variants` one more than there are scopes taken are not all taken. -/
theorem exists_variant_notMem (base : String) (taken : List String) :
    ∃ s ∈ variants base (taken.length + 1), s ∉ taken := by
  by_contra hall
  simp only [not_exists, not_and, not_not] at hall
  -- Otherwise the variants, no two of them equal, would all fit among the scopes taken.
  have hlen := ((nodup_variants base (taken.length + 1)).subperm hall).length_le
  rw [variants, List.length_map, List.length_range] at hlen
  omega

/-- `uniqueScope` is the first candidate that is not taken. -/
theorem find?_candidates_eq (base : String) (taken : List String) :
    (base :: variants base (taken.length + 1)).find? (fun s => s ∉ taken) =
      some (uniqueScope base taken) := by
  obtain ⟨s, hs, hfree⟩ := exists_variant_notMem base taken
  have hsome : ((base :: variants base (taken.length + 1)).find? fun s => s ∉ taken).isSome := by
    rw [List.find?_isSome]
    exact ⟨s, List.mem_cons_of_mem _ hs, by simpa using hfree⟩
  obtain ⟨t, ht⟩ := Option.isSome_iff_exists.1 hsome
  rw [uniqueScope, ht, Option.getD_some]

/-- `uniqueScope` is not taken. -/
theorem uniqueScope_notMem (base : String) (taken : List String) :
    uniqueScope base taken ∉ taken := by
  simpa using List.find?_some (find?_candidates_eq base taken)

/-- `uniqueScope` is the scope asked for or a numbered variant of it. -/
theorem isVariant_uniqueScope (base : String) (taken : List String) :
    IsVariant base (uniqueScope base taken) := by
  have hmem := List.mem_of_find?_eq_some (find?_candidates_eq base taken)
  rw [List.mem_cons, variants, List.mem_map] at hmem
  rcases hmem with heq | ⟨i, -, heq⟩
  · exact .inl heq
  · exact .inr ⟨i + 2, by omega, heq.symm⟩

/-! ## The scopes of a newsletter -/

/-- `scopes` gives a quiz in front its `uniqueScope`, which is taken for the others. -/
theorem scopes_cons_quiz {b : Block} (hquiz : b.content.kind? = some .quiz) (taken : List String)
    (bs : List Block) :
    scopes taken (b :: bs) = uniqueScope (scopeOf b.id) taken ::
      scopes (uniqueScope (scopeOf b.id) taken :: taken) bs := by
  rw [scopes]
  split
  · rfl
  · rename_i hother
    cases hc : b.content <;> simp_all [Content.kind?]

/-- `scopes` gives other blocks in front the empty text, and nothing more is taken. -/
theorem scopes_cons_other {b : Block} (hother : b.content.kind? ≠ some .quiz) (taken : List String)
    (bs : List Block) : scopes taken (b :: bs) = "" :: scopes taken bs := by
  rw [scopes]
  split
  · rename_i c hc
    exact absurd (by rw [hc]; rfl) hother
  · rfl

/-- `scopes` gives every quiz a variant of the scope it asks for, and one that was free. -/
theorem exists_scope {taken : List String} {bs : List Block} {i : Nat} {b : Block}
    (hb : bs[i]? = some b) (hquiz : b.content.kind? = some .quiz) :
    ∃ scope, (scopes taken bs)[i]? = some scope ∧ scope ∉ taken ∧
      IsVariant (scopeOf b.id) scope := by
  -- What the blocks in front take is free no more, so the induction is over all that may be taken.
  induction bs generalizing taken i with
  | nil => simp at hb
  | cons first bs ih =>
    cases i with
    | zero =>
      obtain rfl : first = b := by simpa using hb
      rw [scopes_cons_quiz hquiz]
      exact ⟨_, rfl, uniqueScope_notMem _ _, isVariant_uniqueScope _ _⟩
    | succ i =>
      rw [List.getElem?_cons_succ] at hb
      by_cases hfirst : first.content.kind? = some .quiz
      · rw [scopes_cons_quiz hfirst]
        obtain ⟨s, hs, hfree, hvariant⟩ := ih hb
        exact ⟨s, hs, fun hmem => hfree (List.mem_cons_of_mem _ hmem), hvariant⟩
      · rw [scopes_cons_other hfirst]
        exact ih hb

/-- `scopes` hold no character that is not `isScopeChar`: blocks other than quizzes have the empty
text. -/
theorem isScopeChar_of_mem_scopes {taken : List String} {bs : List Block} {s : String}
    (hs : s ∈ scopes taken bs) {c : Char} (hc : c ∈ s.toList) : isScopeChar c = true := by
  induction bs generalizing taken with
  | nil => simp [scopes] at hs
  | cons b bs ih =>
    by_cases hquiz : b.content.kind? = some .quiz
    · rw [scopes_cons_quiz hquiz, List.mem_cons] at hs
      rcases hs with rfl | hs
      · exact ((isVariant_uniqueScope _ taken).isScope (isScope_scopeOf b.id)).2 c hc
      · exact ih hs
    · rw [scopes_cons_other hquiz, List.mem_cons] at hs
      rcases hs with rfl | hs
      · simp at hc
      · exact ih hs

/-- `scopes` gives a quiz none of the scopes that were taken before. -/
theorem notMem_of_scopes {taken : List String} {bs : List Block} {i : Nat} {b : Block} {s : String}
    (hb : bs[i]? = some b) (hquiz : b.content.kind? = some .quiz)
    (hs : (scopes taken bs)[i]? = some s) : s ∉ taken := by
  obtain ⟨scope, hscope, hfree, -⟩ := exists_scope hb hquiz
  obtain rfl : scope = s := Option.some.inj (hscope.symm.trans hs)
  exact hfree

/-- `scopes` gives a quiz another scope than the quizzes before it. -/
theorem scopes_ne_of_lt {taken : List String} {bs : List Block} {i j : Nat} {a b : Block}
    {s t : String} (hlt : i < j) (hi : bs[i]? = some a) (hj : bs[j]? = some b)
    (ha : a.content.kind? = some .quiz) (hb : b.content.kind? = some .quiz)
    (hs : (scopes taken bs)[i]? = some s) (ht : (scopes taken bs)[j]? = some t) : s ≠ t := by
  induction bs generalizing taken i j with
  | nil => simp at hi
  | cons first bs ih =>
    obtain ⟨j, rfl⟩ : ∃ k, j = k + 1 := ⟨j - 1, by omega⟩
    rw [List.getElem?_cons_succ] at hj
    cases i with
    | zero =>
      -- The first quiz's scope is taken when the second one looks for its own.
      obtain rfl : first = a := by simpa using hi
      rw [scopes_cons_quiz ha] at hs ht
      obtain rfl : uniqueScope (scopeOf first.id) taken = s := by simpa using hs
      rintro rfl
      exact notMem_of_scopes hj hb ht List.mem_cons_self
    | succ i =>
      rw [List.getElem?_cons_succ] at hi
      have hlt' : i < j := by omega
      by_cases hfirst : first.content.kind? = some .quiz
      · rw [scopes_cons_quiz hfirst] at hs ht
        exact ih hlt' hi hj hs ht
      · rw [scopes_cons_other hfirst] at hs ht
        exact ih hlt' hi hj hs ht

/-- `scopes` gives no two quizzes the same scope. -/
theorem scopes_inj {bs : List Block} {i j : Nat} {a b : Block} {s : String}
    (hi : bs[i]? = some a) (hj : bs[j]? = some b) (ha : a.content.kind? = some .quiz)
    (hb : b.content.kind? = some .quiz) (hs : (scopes [] bs)[i]? = some s)
    (ht : (scopes [] bs)[j]? = some s) : i = j := by
  rcases Nat.lt_trichotomy i j with hlt | heq | hgt
  · exact absurd rfl (scopes_ne_of_lt hlt hi hj ha hb hs ht)
  · exact heq
  · exact absurd rfl (scopes_ne_of_lt hgt hj hi hb ha ht hs)

/-! ## Names of groups -/

/-- Texts that are cut at the first place of a character agree on both sides of it. -/
theorem append_cons_inj {c : Char} {xs ys xs' ys' : List Char} (hxs : c ∉ xs) (hxs' : c ∉ xs')
    (h : xs ++ c :: ys = xs' ++ c :: ys') : xs = xs' ∧ ys = ys' := by
  -- If one front reached further, it would hold the character that ends the other.
  rcases List.append_eq_append_iff.1 h with ⟨gap, rfl, hgap⟩ | ⟨gap, rfl, hgap⟩
  all_goals
    cases gap with
    | nil => simpa [eq_comm] using hgap
    | cons d gap =>
      obtain ⟨rfl, -⟩ : c = d ∧ _ := by simpa using hgap
      simp_all

/-- `groupName` is the scope and the position behind `quiz-` and `-q`. -/
theorem toList_groupName (scope : String) (index : Nat) :
    (groupName scope index).toList =
      "quiz-".toList ++ (scope.toList ++ '-' :: 'q' :: digitsOf index) := by
  simp [groupName, toList_ofNat]

/-- `groupName` tells scopes and positions apart. -/
theorem groupName_inj {s t : String} {i j : Nat} (hs : IsScope s) (ht : IsScope t)
    (h : groupName s i = groupName t j) : s = t ∧ i = j := by
  have hlist : (groupName s i).toList = (groupName t j).toList := by rw [h]
  rw [toList_groupName, toList_groupName, List.append_cancel_left_eq] at hlist
  have hdash : isScopeChar '-' = false := by decide
  obtain ⟨hscope, hindex⟩ := append_cons_inj (notMem_of_isScopeChar hs.2 hdash)
    (notMem_of_isScopeChar ht.2 hdash) hlist
  rw [List.cons.injEq] at hindex
  exact ⟨String.toList_inj.1 hscope, digitsOf_inj hindex.2⟩

end Bulletin.Fragment
