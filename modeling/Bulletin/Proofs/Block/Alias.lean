import Bulletin.Block.Alias
import Bulletin.Json.Record

/-!
# Objects with their aliases renamed

Renaming an alias moves one value from one key to another and leaves all other keys alone.  In the
table of a kind no name is at once an alias and the key of a field, so the order of the table does
not matter: what stands under a key afterwards is decided by what stood under the key and its
aliases.

## Main statements

- `lookup_rename_key`: what a key holds when an alias of it is renamed
- `lookup_folded_congr`: what a key holds behind the whole table depends on
-/

namespace Bulletin

namespace Members

/-- `erase` leaves nothing under its key. -/
@[simp] theorem lookup_erase_self (key : String) (ms : Members) :
    (ms.erase key).lookup key = none := by
  rw [List.lookup_eq_none_iff]
  intro m hm
  have hne : m.1 ≠ key := by simpa using (List.mem_filter.1 hm).2
  exact bne_iff_ne.2 hne.symm

/-- `erase` leaves other keys alone. -/
theorem lookup_erase_of_ne {key k : String} (h : k ≠ key) (ms : Members) :
    (ms.erase key).lookup k = ms.lookup k := by
  induction ms with
  | nil => rfl
  | cons m ms ih =>
    obtain ⟨k', v⟩ := m
    by_cases hm : k' = key
    · -- The first member goes, and it is not the one looked for.
      have hk : (k == k') = false := beq_false_of_ne (by rw [hm]; exact h)
      rw [erase, List.filter_cons_of_neg (by simpa using hm), List.lookup_cons, hk]
      exact ih
    · rw [erase, List.filter_cons_of_pos (by simpa using hm), List.lookup_cons, List.lookup_cons]
      cases k == k' with
      | true => rfl
      | false => exact ih

/-- The value of a key when an alias of it is renamed: its own, unless that is null or missing and
the alias has one. -/
def prefer (own renamed : Option Json) : Option Json :=
  match renamed with
  | none => own
  | some v => if own.any fun w => !w.isNull then own else some v

variable {ms ms' : Members} {entry : String × String} {key : String}

/-- `isSet` by the value that is looked up. -/
theorem isSet_eq (ms : Members) (key : String) :
    ms.isSet key = (ms.lookup key).any fun v => !v.isNull := by
  unfold isSet
  cases ms.lookup key <;> rfl

/-- `rename` takes the alias away. -/
theorem lookup_rename_alias (hne : entry.1 ≠ entry.2) (ms : Members) :
    (ms.rename entry).lookup entry.1 = none := by
  unfold rename
  split
  · assumption
  · dsimp only
    split
    · exact lookup_erase_self _ ms
    · rw [lookup_insert_of_ne hne]
      exact lookup_erase_self _ ms

/-- `rename` leaves under the key what `prefer` says. -/
theorem lookup_rename_key (hne : entry.1 ≠ entry.2) (ms : Members) :
    (ms.rename entry).lookup entry.2 = prefer (ms.lookup entry.2) (ms.lookup entry.1) := by
  unfold rename
  cases ms.lookup entry.1 with
  | none => rfl
  | some v =>
    dsimp only
    rw [isSet_eq, lookup_erase_of_ne hne.symm, prefer]
    -- The alias is dropped where the key has a value of its own.
    split
    · rw [lookup_erase_of_ne hne.symm]
    · rw [lookup_insert_self]

/-- `rename` leaves other keys alone. -/
theorem lookup_rename_of_ne (halias : key ≠ entry.1) (hkey : key ≠ entry.2) (ms : Members) :
    (ms.rename entry).lookup key = ms.lookup key := by
  unfold rename
  split
  · rfl
  · dsimp only
    split
    · exact lookup_erase_of_ne halias ms
    · rw [lookup_insert_of_ne hkey]
      exact lookup_erase_of_ne halias ms

/-- Two objects hold the same under a key and under all its aliases. -/
def AgreeAt (aliases : List (String × String)) (key : String) (ms ms' : Members) : Prop :=
  ms.lookup key = ms'.lookup key ∧
    ∀ entry ∈ aliases, entry.2 = key → ms.lookup entry.1 = ms'.lookup entry.1

/-- No name is at once an alias and the key of a field. -/
def Separate (aliases : List (String × String)) : Prop :=
  ∀ entry ∈ aliases, ∀ entry' ∈ aliases, entry.1 ≠ entry'.2

instance (aliases : List (String × String)) : Decidable (Separate aliases) :=
  inferInstanceAs (Decidable (∀ entry ∈ aliases, ∀ entry' ∈ aliases, entry.1 ≠ entry'.2))

/-- Objects that agree at a key still do when an alias is renamed in both. -/
theorem AgreeAt.rename {aliases : List (String × String)}
    (hsep : Separate (entry :: aliases)) (h : AgreeAt (entry :: aliases) key ms ms') :
    AgreeAt aliases key (ms.rename entry) (ms'.rename entry) := by
  have hne : entry.1 ≠ entry.2 := hsep entry List.mem_cons_self entry List.mem_cons_self
  -- The key is the alias that goes, or the key that it goes to, or neither of them.
  constructor
  · by_cases halias : key = entry.1
    · rw [halias, lookup_rename_alias hne, lookup_rename_alias hne]
    · by_cases hkey : key = entry.2
      · have hown : ms.lookup entry.2 = ms'.lookup entry.2 := hkey ▸ h.1
        rw [hkey, lookup_rename_key hne, lookup_rename_key hne, hown,
          h.2 entry List.mem_cons_self hkey.symm]
      · rw [lookup_rename_of_ne halias hkey, lookup_rename_of_ne halias hkey, h.1]
  · intro entry' hmem hkey
    have hother : entry'.1 ≠ entry.2 :=
      hsep entry' (List.mem_cons_of_mem _ hmem) entry List.mem_cons_self
    -- The other aliases of the key are left alone, unless one is written twice in the table.
    by_cases hsame : entry'.1 = entry.1
    · rw [hsame, lookup_rename_alias hne, lookup_rename_alias hne]
    · rw [lookup_rename_of_ne hsame hother, lookup_rename_of_ne hsame hother,
        h.2 entry' (List.mem_cons_of_mem _ hmem) hkey]

/-- An object with the aliases in it renamed, those in its values first. -/
def folded (aliases : List (String × String)) (ms : Members) : Members :=
  aliases.foldl Members.rename (Json.foldMembers aliases ms)

/-- `foldMembers` folds each value and leaves the keys. -/
theorem lookup_foldMembers (aliases : List (String × String)) (ms : Members) (key : String) :
    (Json.foldMembers aliases ms).lookup key = (ms.lookup key).map (Json.foldAliases aliases) := by
  rw [Json.foldMembers_eq_map]
  induction ms with
  | nil => rfl
  | cons m ms ih =>
    obtain ⟨k, v⟩ := m
    rw [List.map_cons, List.lookup_cons, List.lookup_cons, ih]
    cases key == k <;> rfl

/-- `foldMembers` keeps the agreement of two objects. -/
theorem AgreeAt.foldMembers {aliases table : List (String × String)}
    (h : AgreeAt table key ms ms') :
    AgreeAt table key (Json.foldMembers aliases ms) (Json.foldMembers aliases ms') := by
  constructor
  · rw [lookup_foldMembers, lookup_foldMembers, h.1]
  · intro entry hmem hkey
    rw [lookup_foldMembers, lookup_foldMembers, h.2 entry hmem hkey]

/-- What a key holds behind a table depends on the key and its aliases. -/
theorem lookup_foldl_rename_congr {aliases : List (String × String)} (hsep : Separate aliases)
    (h : AgreeAt aliases key ms ms') :
    (aliases.foldl Members.rename ms).lookup key =
      (aliases.foldl Members.rename ms').lookup key := by
  -- Behind each entry the objects agree at the key and at the aliases that are left of the table.
  induction aliases generalizing ms ms' with
  | nil => exact h.1
  | cons entry aliases ih =>
    have hsep' : Separate aliases := fun e he e' he' =>
      hsep e (List.mem_cons_of_mem _ he) e' (List.mem_cons_of_mem _ he')
    exact ih hsep' (h.rename hsep)

/-- `folded` has under a key what the key and its aliases decide. -/
theorem lookup_folded_congr {aliases : List (String × String)} (hsep : Separate aliases)
    (h : AgreeAt aliases key ms ms') :
    (ms.folded aliases).lookup key = (ms'.folded aliases).lookup key :=
  lookup_foldl_rename_congr hsep h.foldMembers

/-- `folded` leaves a key that the table does not name its value, in which the aliases are renamed.
-/
theorem lookup_folded_of_forall_ne {aliases : List (String × String)}
    (h : ∀ entry ∈ aliases, key ≠ entry.1 ∧ key ≠ entry.2) (ms : Members) :
    (ms.folded aliases).lookup key = (ms.lookup key).map (Json.foldAliases aliases) := by
  -- The values are folded with the whole table, the keys entry by entry.
  have hrename : ∀ (table : List (String × String)) (ms : Members),
      (∀ entry ∈ table, key ≠ entry.1 ∧ key ≠ entry.2) →
        (table.foldl Members.rename ms).lookup key = ms.lookup key := by
    intro table
    induction table with
    | nil => exact fun _ _ => rfl
    | cons entry table ih =>
      intro ms htable
      rw [List.forall_mem_cons] at htable
      rw [List.foldl_cons, ih _ htable.2, lookup_rename_of_ne htable.1.1 htable.1.2]
  rw [folded, hrename aliases _ h, lookup_foldMembers]

end Members

namespace Json

/-- `foldAliases` of an object, by `folded`. -/
theorem foldAliases_object (aliases : List (String × String)) (ms : Members) :
    foldAliases aliases (.object ms) = .object (ms.folded aliases) := by
  rw [foldAliases, Members.folded]

/-- `foldAliases` of a list folds its items. -/
theorem items_foldAliases (aliases : List (String × String)) (v : Json) :
    (foldAliases aliases v).items = v.items.map (foldAliases aliases) := by
  cases v with
  | array xs => rw [foldAliases, items, items, foldItems_eq_map]
  | null | bool _ | number _ | string _ | object _ =>
    rw [foldAliases]
    · rfl
    all_goals simp

end Json

/-- `Kind.aliases` keeps aliases and keys apart, for every kind. -/
theorem Kind.separate_aliases (kind : Kind) : Members.Separate kind.aliases := by
  cases kind <;> decide

end Bulletin
