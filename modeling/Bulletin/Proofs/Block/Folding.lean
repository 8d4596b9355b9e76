import Bulletin.Block.Basic
import Bulletin.Proofs.Block.Alias

/-!
# Whole values with their aliases renamed

A value is folded object by object, and nothing but the keys of its objects changes.  Behind the
fold no alias is left anywhere, so there is nothing left to do for a second one, and a content is
read the same from a value and from the folded one.

## Main statements

- `lookup_folded`: what a key holds in a folded object
- `freeOf_foldAliases`: no object in a folded value has an alias
- `isFolded_foldAliases`: how a folded value compares to the value, object by object
- `alias_folding`: all of it, for the table of any tag
-/

namespace Bulletin

/-! ## Values and their parts -/

namespace Json

/-- Neither a list nor an object. -/
def isScalar : Json → Bool
  | .array _ => false
  | .object _ => false
  | _ => true

private theorem sizeOf_item_lt {x : Json} {xs : List Json} (h : x ∈ xs) :
    sizeOf x < sizeOf (Json.array xs) := by
  have := List.sizeOf_lt_of_mem h
  rw [Json.array.sizeOf_spec]
  omega

private theorem sizeOf_member_lt {m : String × Json} {ms : Members} (h : m ∈ ms) :
    sizeOf m.2 < sizeOf (Json.object ms) := by
  have hmember := List.sizeOf_lt_of_mem h
  have hvalue : sizeOf m.2 < sizeOf m := by
    obtain ⟨k, v⟩ := m
    rw [Prod.mk.sizeOf_spec]
    dsimp only
    omega
  rw [Json.object.sizeOf_spec]
  omega

/-- Induction over a value: what holds of the items of a list and of the values in an object holds
of these. -/
theorem induct {motive : Json → Prop} (scalar : ∀ v, v.isScalar = true → motive v)
    (array : ∀ xs, (∀ x ∈ xs, motive x) → motive (.array xs))
    (object : ∀ ms : Members, (∀ m ∈ ms, motive m.2) → motive (.object ms)) : ∀ v, motive v
  | .array xs => array xs fun x _ => induct scalar array object x
  | .object ms => object ms fun m _ => induct scalar array object m.2
  | .null => scalar _ rfl
  | .bool _ => scalar _ rfl
  | .number _ => scalar _ rfl
  | .string _ => scalar _ rfl
termination_by v => sizeOf v
decreasing_by
  · exact sizeOf_item_lt ‹_›
  · exact sizeOf_member_lt ‹_›

/-- A value stands somewhere in another one. -/
inductive Within : Json → Json → Prop
  | refl (v : Json) : Within v v
  | item {v x : Json} {xs : List Json} : x ∈ xs → Within v x → Within v (.array xs)
  | member {v : Json} {m : String × Json} {ms : Members} :
    m ∈ ms → Within v m.2 → Within v (.object ms)

/-- No object in a value has an alias of the table. -/
def FreeOf (aliases : List (String × String)) (v : Json) : Prop :=
  ∀ ms, Within (.object ms) v → ∀ m ∈ ms, ∀ entry ∈ aliases, m.1 ≠ entry.1

/-- `foldAliases` leaves alone what is neither a list nor an object. -/
theorem foldAliases_of_isScalar {v : Json} (h : v.isScalar = true)
    (aliases : List (String × String)) : foldAliases aliases v = v := by
  cases v with
  | array xs => cases h
  | object ms => cases h
  | null | bool _ | number _ | string _ =>
    rw [foldAliases]
    all_goals simp

/-- `foldAliases` folds a list item by item. -/
theorem foldAliases_array (aliases : List (String × String)) (xs : List Json) :
    foldAliases aliases (.array xs) = .array (xs.map (foldAliases aliases)) := by
  rw [foldAliases, foldItems_eq_map]

/-- `foldAliases` makes nothing null that was not. -/
theorem isNull_foldAliases (aliases : List (String × String)) (v : Json) :
    (foldAliases aliases v).isNull = v.isNull := by
  cases hv : v.isScalar with
  | true => rw [foldAliases_of_isScalar hv]
  | false =>
    cases v with
    | array xs =>
      rw [foldAliases_array]
      rfl
    | object ms =>
      rw [foldAliases_object]
      rfl
    | _ => cases hv

end Json

/-! ## One object -/

namespace Members

variable {aliases : List (String × String)} {ms : Members} {key : String} {v : Json}

/-- A table in which no two entries meddle with each other. -/
structure Tidy (aliases : List (String × String)) : Prop where
  separate : Separate aliases
  aliases_nodup : (aliases.map Prod.fst).Nodup
  keys_nodup : (aliases.map Prod.snd).Nodup

/-- `Tidy` holds of the rest of a table. -/
theorem Tidy.tail {entry : String × String} (h : Tidy (entry :: aliases)) : Tidy aliases where
  separate := fun e he e' he' =>
    h.separate e (List.mem_cons_of_mem _ he) e' (List.mem_cons_of_mem _ he')
  aliases_nodup := (List.nodup_cons.1 h.aliases_nodup).2
  keys_nodup := (List.nodup_cons.1 h.keys_nodup).2

/-- What a key holds when the aliases of a table are renamed: an alias nothing, the key of an alias
its own value unless that is null or missing and the alias has one, any other key its own. -/
def renamed (aliases : List (String × String)) (ms : Members) (key : String) : Option Json :=
  if key ∈ aliases.map Prod.fst then none
  else match aliases.find? fun entry => entry.2 = key with
    | some entry => prefer (ms.lookup key) (ms.lookup entry.1)
    | none => ms.lookup key

/-- `rename` for one alias after another is `renamed` for all at once. -/
theorem lookup_foldl_rename (htidy : Tidy aliases) (ms : Members) (key : String) :
    (aliases.foldl Members.rename ms).lookup key = ms.renamed aliases key := by
  induction aliases generalizing ms with
  | nil => rfl
  | cons entry aliases ih =>
    have hne : entry.1 ≠ entry.2 :=
      htidy.separate entry List.mem_cons_self entry List.mem_cons_self
    have halias := (List.nodup_cons.1 htidy.aliases_nodup).1
    have hkey := (List.nodup_cons.1 htidy.keys_nodup).1
    rw [List.foldl_cons, ih htidy.tail, renamed, renamed, List.map_cons, List.find?_cons]
    -- The key is the alias of this entry or of a later one, its key, or neither.
    by_cases hfirst : key = entry.1
    · have hnone : aliases.find? (fun e => e.2 = key) = none := by
        rw [List.find?_eq_none]
        intro e he heq
        exact htidy.separate entry List.mem_cons_self e (List.mem_cons_of_mem _ he)
          (by rw [← hfirst]; exact (by simpa using heq : e.2 = key).symm)
      rw [hnone, hfirst, if_neg halias, if_pos List.mem_cons_self]
      exact lookup_rename_alias hne ms
    · -- An alias of a later entry is gone behind that entry.
      by_cases hlater : key ∈ aliases.map Prod.fst
      · rw [if_pos hlater, if_pos (List.mem_cons_of_mem _ hlater)]
      · have hother : key ∉ entry.1 :: aliases.map Prod.fst := by
          rw [List.mem_cons, not_or]
          exact ⟨hfirst, hlater⟩
        rw [if_neg hlater, if_neg hother]
        by_cases howner : entry.2 = key
        · have hnone : aliases.find? (fun e => e.2 = key) = none := by
            rw [List.find?_eq_none]
            intro e he heq
            rw [howner] at hkey
            exact hkey (List.mem_map.2 ⟨e, he, by simpa using heq⟩)
          -- No later entry has this key, so this one decides.
          rw [hnone, decide_eq_true howner]
          dsimp only
          rw [← howner]
          exact lookup_rename_key hne ms
        · rw [decide_eq_false howner]
          dsimp only
          have hown : (ms.rename entry).lookup key = ms.lookup key :=
            lookup_rename_of_ne hfirst (Ne.symm howner) ms
          cases hfind : aliases.find? fun e => e.2 = key with
          | none => exact hown
          | some e =>
            -- Neither the key nor its alias is touched by this entry.
            have he := List.mem_of_find?_eq_some hfind
            have hfst : e.1 ≠ entry.1 := fun heq =>
              halias (heq ▸ List.mem_map.2 ⟨e, he, rfl⟩)
            have hsnd : e.1 ≠ entry.2 :=
              htidy.separate e (List.mem_cons_of_mem _ he) entry List.mem_cons_self
            dsimp only
            rw [hown, lookup_rename_of_ne hfst hsnd]

/-- `lookup` finds what is among the members. -/
theorem mem_of_lookup_eq_some (h : ms.lookup key = some v) : (key, v) ∈ ms := by
  obtain ⟨front, rest, rfl, -⟩ := List.lookup_eq_some_iff.1 h
  exact List.mem_append_right _ List.mem_cons_self

/-- `prefer` takes one of the two values. -/
theorem eq_or_eq_of_prefer {own other : Option Json} (h : prefer own other = some v) :
    own = some v ∨ other = some v := by
  unfold prefer at h
  split at h
  · exact .inl h
  · split at h
    · exact .inl h
    · exact .inr h

/-- `renamed` finds what stood under some key before. -/
theorem mem_of_renamed_eq_some (h : ms.renamed aliases key = some v) : ∃ m ∈ ms, m.2 = v := by
  unfold renamed at h
  split at h
  · cases h
  · split at h
    · obtain h | h := eq_or_eq_of_prefer h
      · exact ⟨_, mem_of_lookup_eq_some h, rfl⟩
      · exact ⟨_, mem_of_lookup_eq_some h, rfl⟩
    · exact ⟨_, mem_of_lookup_eq_some h, rfl⟩

/-- `prefer` commutes with a function that keeps null apart. -/
theorem prefer_map {f : Json → Json} (hf : ∀ v, (f v).isNull = v.isNull)
    (own other : Option Json) : prefer (own.map f) (other.map f) = (prefer own other).map f := by
  cases other with
  | none => rfl
  | some v =>
    have hany : (own.map f).any (fun w => !w.isNull) = own.any fun w => !w.isNull := by
      cases own <;> simp [hf]
    simp only [prefer, Option.map_some, hany]
    split <;> rfl

/-- `renamed` commutes with the fold of the values. -/
theorem renamed_foldMembers (table aliases : List (String × String)) (ms : Members)
    (key : String) :
    renamed table (Json.foldMembers aliases ms) key =
      (ms.renamed table key).map (Json.foldAliases aliases) := by
  simp only [renamed, lookup_foldMembers]
  split
  · rfl
  · split
    · exact prefer_map (Json.isNull_foldAliases aliases) _ _
    · rfl

/-- `folded` has under a key what `renamed` finds, folded itself. -/
theorem lookup_folded (htidy : Tidy aliases) (ms : Members) (key : String) :
    (ms.folded aliases).lookup key = (ms.renamed aliases key).map (Json.foldAliases aliases) := by
  rw [folded, lookup_foldl_rename htidy, renamed_foldMembers]

/-- `folded` has no alias among its keys. -/
theorem ne_of_mem_folded (htidy : Tidy aliases) {m : String × Json} (hm : m ∈ ms.folded aliases)
    {entry : String × String} (hentry : entry ∈ aliases) : m.1 ≠ entry.1 := by
  have hgone : (ms.folded aliases).lookup entry.1 = none := by
    rw [lookup_folded htidy, renamed, if_pos (List.mem_map.2 ⟨entry, hentry, rfl⟩), Option.map_none]
  have hne := List.lookup_eq_none_iff.1 hgone m hm
  exact (bne_iff_ne.1 hne).symm

/-- `insert` adds one member and keeps no others than there were. -/
theorem mem_insert {m : String × Json} (h : m ∈ ms.insert key v) : m = (key, v) ∨ m ∈ ms := by
  induction ms with
  | nil => exact .inl (List.mem_singleton.1 h)
  | cons first rest ih =>
    obtain ⟨k, w⟩ := first
    unfold insert at h
    split at h
    · obtain h | h := List.mem_cons.1 h
      · exact .inl h
      · exact .inr (List.mem_cons_of_mem _ h)
    · obtain h | h := List.mem_cons.1 h
      · exact .inr (List.mem_cons.2 (.inl h))
      · obtain h | h := ih h
        · exact .inl h
        · exact .inr (List.mem_cons_of_mem _ h)

/-- `rename` makes no new values. -/
theorem exists_mem_of_mem_rename {m : String × Json} {entry : String × String}
    (h : m ∈ ms.rename entry) : ∃ m' ∈ ms, m'.2 = m.2 := by
  have herase : ∀ {m}, m ∈ ms.erase entry.1 → m ∈ ms := fun h => (List.mem_filter.1 h).1
  unfold rename at h
  split at h
  · exact ⟨m, h, rfl⟩
  · -- The alias's value moves to the key, or is dropped.
    next w hw =>
    dsimp only at h
    split at h
    · exact ⟨m, herase h, rfl⟩
    · obtain rfl | h := mem_insert h
      · exact ⟨_, mem_of_lookup_eq_some hw, rfl⟩
      · exact ⟨m, herase h, rfl⟩

/-- `folded` holds folded values of the object only. -/
theorem exists_mem_of_mem_folded {m : String × Json} (h : m ∈ ms.folded aliases) :
    ∃ m' ∈ ms, m.2 = Json.foldAliases aliases m'.2 := by
  -- The table of the outer renaming is its own, so that the induction can cut it down.
  have hvalues : ∀ (table : List (String × String)) (ms : Members),
      m ∈ table.foldl Members.rename ms → ∃ m' ∈ ms, m'.2 = m.2 := by
    intro table
    induction table with
    | nil => exact fun ms h => ⟨m, h, rfl⟩
    | cons entry table ih =>
      intro ms h
      obtain ⟨m', hm', heq⟩ := ih _ h
      obtain ⟨m'', hm'', heq'⟩ := exists_mem_of_mem_rename hm'
      exact ⟨m'', hm'', heq'.trans heq⟩
  obtain ⟨m', hm', heq⟩ := hvalues aliases _ h
  rw [Json.foldMembers_eq_map] at hm'
  obtain ⟨m'', hm'', rfl⟩ := List.mem_map.1 hm'
  exact ⟨m'', hm'', heq.symm⟩

/-- `rename` changes nothing where no alias is. -/
theorem foldl_rename_eq_self (h : ∀ m ∈ ms, ∀ entry ∈ aliases, m.1 ≠ entry.1) :
    aliases.foldl Members.rename ms = ms := by
  induction aliases with
  | nil => rfl
  | cons entry aliases ih =>
    have hnone : ms.lookup entry.1 = none := by
      rw [List.lookup_eq_none_iff]
      intro m hm
      exact bne_iff_ne.2 (h m hm entry List.mem_cons_self).symm
    have hself : ms.rename entry = ms := by
      rw [rename, hnone]
    rw [List.foldl_cons, hself]
    exact ih fun m hm e he => h m hm e (List.mem_cons_of_mem _ he)

end Members

/-! ## Whole values -/

namespace Json

variable {aliases : List (String × String)} {v : Json}

/-- `foldAliases` leaves no alias anywhere in a value. -/
theorem freeOf_foldAliases (htidy : Members.Tidy aliases) (v : Json) :
    FreeOf aliases (foldAliases aliases v) := by
  induction v using induct with
  | scalar v hv =>
    intro ms hwithin
    rw [foldAliases_of_isScalar hv] at hwithin
    cases hwithin <;> cases hv
  | array xs ih =>
    intro ms hwithin
    rw [foldAliases_array] at hwithin
    cases hwithin with
    | item hy hwithin =>
      obtain ⟨x, hx, rfl⟩ := List.mem_map.1 hy
      exact ih x hx ms hwithin
  | object ms' ih =>
    intro ms hwithin
    rw [foldAliases_object] at hwithin
    cases hwithin with
    | refl => exact fun m hm entry hentry => Members.ne_of_mem_folded htidy hm hentry
    | member hm hwithin =>
      obtain ⟨m', hm', heq⟩ := Members.exists_mem_of_mem_folded hm
      rw [heq] at hwithin
      exact ih m' hm' ms hwithin

/-- `foldAliases` leaves a value without aliases as it is. -/
theorem foldAliases_eq_self (h : FreeOf aliases v) : foldAliases aliases v = v := by
  induction v using induct with
  | scalar v hv => exact foldAliases_of_isScalar hv aliases
  | array xs ih =>
    have hitems : xs.map (foldAliases aliases) = xs.map id :=
      List.map_congr_left fun x hx => ih x hx fun ms hwithin => h ms (.item hx hwithin)
    rw [foldAliases_array, hitems, List.map_id]
  | object ms ih =>
    -- The values stay as they are, and then there is no alias left to rename.
    have hvalues : foldMembers aliases ms = ms := by
      rw [foldMembers_eq_map]
      have hmembers : ms.map (fun m => (m.1, foldAliases aliases m.2)) = ms.map id := by
        apply List.map_congr_left
        intro m hm
        rw [ih m hm fun ms' hwithin => h ms' (.member hm hwithin)]
        rfl
      rw [hmembers, List.map_id]
    rw [foldAliases_object, Members.folded, hvalues,
      Members.foldl_rename_eq_self (h ms (.refl _))]

/-- `foldAliases` is idempotent. -/
theorem foldAliases_idem (htidy : Members.Tidy aliases) (v : Json) :
    foldAliases aliases (foldAliases aliases v) = foldAliases aliases v :=
  foldAliases_eq_self (freeOf_foldAliases htidy v)

/-- A value and the same with the aliases of a table renamed: scalars are the same, lists have as
many items in the same order, and in objects every key holds what it is to hold. -/
inductive IsFolded (aliases : List (String × String)) : Json → Json → Prop
  | scalar {v : Json} : v.isScalar = true → IsFolded aliases v v
  | array {xs ys : List Json} (length_eq : ys.length = xs.length)
    (items : ∀ (i : Nat) (x y : Json), xs[i]? = some x → ys[i]? = some y →
      IsFolded aliases x y) :
    IsFolded aliases (.array xs) (.array ys)
  | object {ms ms' : Members}
    (keys : ∀ key, (ms'.lookup key).isSome = (ms.renamed aliases key).isSome)
    (values : ∀ key v w, ms.renamed aliases key = some v → ms'.lookup key = some w →
      IsFolded aliases v w) :
    IsFolded aliases (.object ms) (.object ms')

/-- `foldAliases` makes of a value what `IsFolded` describes. -/
theorem isFolded_foldAliases (htidy : Members.Tidy aliases) (v : Json) :
    IsFolded aliases v (foldAliases aliases v) := by
  induction v using induct with
  | scalar v hv =>
    rw [foldAliases_of_isScalar hv]
    exact .scalar hv
  | array xs ih =>
    rw [foldAliases_array]
    refine .array (List.length_map _) ?_
    intro i x y hx hy
    rw [List.getElem?_map, hx, Option.map_some, Option.some_inj] at hy
    rw [← hy]
    exact ih x (List.mem_of_getElem? hx)
  | object ms ih =>
    rw [foldAliases_object]
    refine .object ?_ ?_
    · intro key
      rw [Members.lookup_folded htidy, Option.isSome_map]
    · intro key v w hv hw
      rw [Members.lookup_folded htidy, hv, Option.map_some, Option.some_inj] at hw
      -- What is to stand under the key stood under some key, so the induction reaches it.
      obtain ⟨m, hm, rfl⟩ := Members.mem_of_renamed_eq_some hv
      rw [← hw]
      exact ih m hm

end Json

/-! ## The tables of tags -/

/-- `Kind.aliases` is tidy for every kind. -/
theorem Kind.tidy_aliases (kind : Kind) : Members.Tidy kind.aliases where
  separate := kind.separate_aliases
  aliases_nodup := by cases kind <;> decide
  keys_nodup := by cases kind <;> decide

/-- The aliases of a tag's fields; a tag that names no kind has none. -/
def aliasesOf (tag : String) : List (String × String) :=
  ((Kind.ofTag? tag).map Kind.aliases).getD []

/-- `aliasesOf` is tidy for every tag. -/
theorem tidy_aliasesOf (tag : String) : Members.Tidy (aliasesOf tag) := by
  unfold aliasesOf
  cases Kind.ofTag? tag with
  | none => exact ⟨by decide, .nil, .nil⟩
  | some kind => exact kind.tidy_aliases

/-- `ofTag` reads a folded value as the value it was folded from. -/
theorem Content.ofTag_foldAliases (tag : String) (v : Json) :
    ofTag tag (v.foldAliases (aliasesOf tag)) = ofTag tag v := by
  unfold ofTag aliasesOf
  cases hkind : Kind.ofTag? tag with
  | none => rfl
  | some kind =>
    -- Reading folds the value, once more in the one case.
    have hfold := Json.foldAliases_idem kind.tidy_aliases v
    show ofKind kind (v.foldAliases kind.aliases) = ofKind kind v
    cases kind <;> simp only [ofKind, decode, hfold]

/-- `foldAliases` with the table of a tag leaves no alias in any object, and every key of every
object holds the folded value that it is to hold, all else being as it was.  So a second fold
changes nothing, and `ofTag` reads the same from the value and from the folded one. -/
theorem alias_folding (tag : String) (v : Json) :
    (v.foldAliases (aliasesOf tag)).FreeOf (aliasesOf tag) ∧
    Json.IsFolded (aliasesOf tag) v (v.foldAliases (aliasesOf tag)) ∧
    (v.foldAliases (aliasesOf tag)).foldAliases (aliasesOf tag) = v.foldAliases (aliasesOf tag) ∧
    Content.ofTag tag (v.foldAliases (aliasesOf tag)) = Content.ofTag tag v := by
  have htidy := tidy_aliasesOf tag
  exact ⟨Json.freeOf_foldAliases htidy v, Json.isFolded_foldAliases htidy v,
    Json.foldAliases_idem htidy v, Content.ofTag_foldAliases tag v⟩

end Bulletin
