import Bulletin.Proofs.Json.Grammar

/-!
# Members as they are written

What an object gives twice is lost in its value: of two members with one key the later stays.  Here
the members are taken down as they stand in the text, one after the other, so that it can be said
whether a key is given twice.

## Main statements

- `Members.lookup_kept_eq`: keys that are not given twice have the value they are given
- `Json.parse_eq_object_iff`: the value of an object gathers the members that are written in it
- `Json.IsObject.unique`: a text is an object in one way
-/

namespace Bulletin

/-! ## Members given one after the other -/

namespace Members

/-- Members with others given after them; the last one of a key stays. -/
def gathered (before written : Members) : Members :=
  written.foldl (fun ms m => ms.insert m.1 m.2) before

/-- None of the keys is given twice. -/
def RepeatsNone (keys : List String) (written : Members) : Prop :=
  ∀ key ∈ keys, (written.map Prod.fst).count key ≤ 1

instance (keys : List String) (written : Members) : Decidable (RepeatsNone keys written) :=
  inferInstanceAs (Decidable (∀ key ∈ keys, (written.map Prod.fst).count key ≤ 1))

/-- The members with one of the keys. -/
def kept (keys : List String) (written : Members) : Members :=
  written.filter fun m => m.1 ∈ keys

/-- `gathered` leaves a key alone that no member gives. -/
theorem lookup_gathered_of_notMem {key : String} {written : Members}
    (h : key ∉ written.map Prod.fst) (before : Members) :
    (before.gathered written).lookup key = before.lookup key := by
  induction written generalizing before with
  | nil => rfl
  | cons m written ih =>
    rw [List.map_cons, List.mem_cons, not_or] at h
    have hrest := ih h.2 (before.insert m.1 m.2)
    exact hrest.trans (lookup_insert_of_ne h.1 m.2 before)

/-- `gathered` has under a key that is not given twice the value it is given. -/
theorem lookup_gathered {key : String} {written : Members}
    (h : (written.map Prod.fst).count key ≤ 1) (before : Members) :
    (before.gathered written).lookup key = (written.lookup key).or (before.lookup key) := by
  induction written generalizing before with
  | nil => rfl
  | cons m written ih =>
    obtain ⟨k, v⟩ := m
    by_cases hk : key = k
    · subst hk
      -- This is the only member of the key, so no later one replaces its value.
      have hnone : key ∉ written.map Prod.fst := by
        rw [List.map_cons, List.count_cons_self] at h
        exact List.count_eq_zero.1 (by omega)
      have hrest := lookup_gathered_of_notMem hnone (before.insert key v)
      rw [List.lookup_cons_self, Option.some_or]
      exact hrest.trans (lookup_insert_self key v before)
    · have hb : (key == k) = false := beq_false_of_ne hk
      rw [List.map_cons, List.count_cons_of_ne (Ne.symm hk)] at h
      rw [List.lookup_cons, hb, ← lookup_insert_of_ne hk v before]
      exact ih h (before.insert k v)

/-- `kept` has the same under each of the keys. -/
theorem lookup_kept {key : String} {keys : List String} (h : key ∈ keys) (written : Members) :
    (written.kept keys).lookup key = written.lookup key := by
  induction written with
  | nil => rfl
  | cons m written ih =>
    obtain ⟨k, v⟩ := m
    rw [kept] at ih ⊢
    by_cases hk : key = k
    · subst hk
      rw [List.filter_cons_of_pos (by simpa using h), List.lookup_cons_self, List.lookup_cons_self]
    · -- A member of another key is kept or left out, and is not looked at either way.
      have hb : (key == k) = false := beq_false_of_ne hk
      by_cases hmem : k ∈ keys
      · rw [List.filter_cons_of_pos (by simpa using hmem), List.lookup_cons, List.lookup_cons, hb]
        exact ih
      · rw [List.filter_cons_of_neg (by simpa using hmem), List.lookup_cons, hb]
        exact ih

/-- `kept` and `gathered` agree at the keys, when none of them is given twice. -/
theorem lookup_kept_eq {keys : List String} {written : Members} (h : written.RepeatsNone keys)
    {key : String} (hkey : key ∈ keys) :
    (written.kept keys).lookup key = (gathered [] written).lookup key := by
  rw [lookup_kept hkey, lookup_gathered (h key hkey), List.lookup_nil, Option.or_none]

/-- A member's key is not among the members before it. -/
theorem RepeatsNone.lookup_eq_none {keys : List String} {before written : Members} {key : String}
    {v : Json} (h : RepeatsNone keys (before ++ (key, v) :: written)) (hkey : key ∈ keys) :
    before.lookup key = none := by
  have hcount := h key hkey
  rw [List.map_append, List.map_cons, List.count_append, List.count_cons_self] at hcount
  have hnone : key ∉ before.map Prod.fst := List.count_eq_zero.1 (by omega)
  rw [List.lookup_eq_none_iff]
  intro m hm
  have hne : key ≠ m.1 := by
    rintro rfl
    exact hnone (List.mem_map_of_mem hm)
  simpa using hne

/-- Leaving members out does not repeat a key. -/
theorem RepeatsNone.append_kept {keys : List String} {before front written : Members}
    (h : RepeatsNone keys (before ++ (front ++ written))) :
    RepeatsNone keys ((before ++ front.kept keys) ++ written) := by
  intro key hkey
  refine Nat.le_trans (List.Sublist.count_le key ?_) (h key hkey)
  refine List.Sublist.map Prod.fst ?_
  rw [List.append_assoc]
  exact (List.Sublist.refl before).append (List.filter_sublist.append (List.Sublist.refl written))

end Members

namespace Json

/-! ## Members as they are written -/

/-- A member stands in a text, from behind the quote of its key on. -/
def WritesMember (depth : Nat) (cs : List Char) (m : String × Json) (rest : List Char) : Prop :=
  ∃ key mid mid', Leaves (readString cs) key mid ∧ skipSpace mid = ':' :: mid' ∧
    Reads depth mid' (.value m.2) rest ∧ m.1 = .ofList key

/-- Members stand one after the other in a text, from behind the quote of the first key on. -/
inductive Writes (depth : Nat) : List Char → Members → List Char → Prop
  | last {cs m mid rest} (hmember : WritesMember depth cs m mid)
      (hclose : skipSpace mid = '\x7d' :: rest) : Writes depth cs [m] rest
  | more {cs m written mid next next' rest} (hmember : WritesMember depth cs m mid)
      (hcomma : skipSpace mid = ',' :: next) (hquote : skipSpace next = '"' :: next')
      (hmembers : Writes depth next' written rest) : Writes depth cs (m :: written) rest

/-- A text is an object in which these members are written. -/
def IsObject (text : String) (written : Members) : Prop :=
  ∃ mid rest, skipSpace text.toList = '\x7b' :: mid ∧ skipSpace rest = [] ∧
    ((written = [] ∧ skipSpace mid = '\x7d' :: rest) ∨
      ∃ mid', skipSpace mid = '"' :: mid' ∧ Writes (depthLimit - 1) mid' written rest)

/-- If a text is an object, it gives none of these keys twice. -/
def GivesOnce (keys : List String) (text : String) : Prop :=
  ∀ written, IsObject text written → written.RepeatsNone keys

/-- The members that are written are read, and gathered. -/
theorem Writes.reads {depth : Nat} {cs rest : List Char} {written : Members}
    (h : Writes depth cs written rest) (before : Members) :
    Reads depth cs (.members before (before.gathered written)) rest := by
  induction h generalizing before with
  | @last _ m _ _ hmember hclose =>
    obtain ⟨k, v⟩ := m
    obtain ⟨key, mid, mid', hkey, hcolon, hvalue, rfl⟩ := hmember
    exact .lastMember hkey hcolon hvalue hclose
  | @more _ m _ _ _ _ _ hmember hcomma hquote _ ih =>
    obtain ⟨k, v⟩ := m
    obtain ⟨key, mid, mid', hkey, hcolon, hvalue, rfl⟩ := hmember
    exact .member hkey hcolon hvalue hcomma hquote (ih _)

/-- The members that are read are written. -/
theorem Reads.exists_writes {depth : Nat} {cs rest : List Char} {before ms : Members}
    (h : Reads depth cs (.members before ms) rest) :
    ∃ written, Writes depth cs written rest ∧ ms = before.gathered written := by
  -- The rules for values and items do not make members.
  generalize hp : Part.members before ms = p at h
  induction h generalizing before with
  | lastMember hkey hcolon hvalue hclose =>
    cases hp
    exact ⟨[(_, _)], .last ⟨_, _, _, hkey, hcolon, hvalue, rfl⟩ hclose, rfl⟩
  | member hkey hcolon hvalue hcomma hquote _ _ ih =>
    cases hp
    obtain ⟨written, hwrites, rfl⟩ := ih rfl
    exact ⟨(_, _) :: written, .more ⟨_, _, _, hkey, hcolon, hvalue, rfl⟩ hcomma hquote hwrites, rfl⟩
  | _ => cases hp

/-- A member is written in one way. -/
theorem WritesMember.unique {depth : Nat} {cs rest rest' : List Char} {m m' : String × Json}
    (h : WritesMember depth cs m rest) (h' : WritesMember depth cs m' rest') :
    m = m' ∧ rest = rest' := by
  obtain ⟨key, mid, next, hkey, hcolon, hvalue, hm⟩ := h
  obtain ⟨key', mid', next', hkey', hcolon', hvalue', hm'⟩ := h'
  obtain ⟨rfl, rfl⟩ := hkey.unique hkey'
  -- One text has one rest behind its colon.
  obtain ⟨-, rfl⟩ := List.cons.inj (hcolon.symm.trans hcolon')
  obtain ⟨hv, rfl⟩ := hvalue.unique hvalue'
  exact ⟨Prod.ext (hm.trans hm'.symm) hv, rfl⟩

/-- Members are written in one way. -/
theorem Writes.unique {depth : Nat} {cs rest rest' : List Char} {written written' : Members}
    (h : Writes depth cs written rest) (h' : Writes depth cs written' rest') :
    written = written' ∧ rest = rest' := by
  induction h generalizing written' with
  | last hmember hclose =>
    cases h' with
    | last hmember' hclose' =>
      obtain ⟨rfl, rfl⟩ := hmember.unique hmember'
      obtain ⟨-, rfl⟩ := List.cons.inj (hclose.symm.trans hclose')
      exact ⟨rfl, rfl⟩
    | more hmember' hcomma' _ _ =>
      obtain ⟨rfl, rfl⟩ := hmember.unique hmember'
      simp [hclose] at hcomma'
  | more hmember hcomma hquote _ ih =>
    cases h' with
    | last hmember' hclose' =>
      obtain ⟨rfl, rfl⟩ := hmember.unique hmember'
      simp [hcomma] at hclose'
    | more hmember' hcomma' hquote' hmembers' =>
      obtain ⟨rfl, rfl⟩ := hmember.unique hmember'
      obtain ⟨-, rfl⟩ := List.cons.inj (hcomma.symm.trans hcomma')
      obtain ⟨-, rfl⟩ := List.cons.inj (hquote.symm.trans hquote')
      obtain ⟨rfl, rfl⟩ := ih hmembers'
      exact ⟨rfl, rfl⟩

/-- A text is an object in one way. -/
theorem IsObject.unique {text : String} {written written' : Members} (h : IsObject text written)
    (h' : IsObject text written') : written = written' := by
  obtain ⟨mid, rest, hopen, -, hmid⟩ := h
  obtain ⟨mid', rest', hopen', -, hmid'⟩ := h'
  obtain ⟨-, rfl⟩ := List.cons.inj (hopen.symm.trans hopen')
  obtain ⟨rfl, hclose⟩ | ⟨next, hquote, hwrites⟩ := hmid
  · obtain ⟨rfl, -⟩ | ⟨next', hquote', -⟩ := hmid'
    · rfl
    · simp [hclose] at hquote'
  · obtain ⟨-, hclose'⟩ | ⟨next', hquote', hwrites'⟩ := hmid'
    · simp [hquote] at hclose'
    · obtain ⟨-, rfl⟩ := List.cons.inj (hquote.symm.trans hquote')
      exact (hwrites.unique hwrites').1

/-- It is enough for `GivesOnce` to look at the members as they are found to be written. -/
theorem IsObject.givesOnce {text : String} {keys : List String} {written : Members}
    (h : IsObject text written) (hnone : written.RepeatsNone keys) : GivesOnce keys text := by
  intro written' h'
  rw [← h.unique h']
  exact hnone

/-- `parse` gathers the members that are written in an object. -/
theorem parse_eq_object_iff {text : String} {ms : Members} :
    parse text = .ok (.object ms) ↔
      ∃ written, IsObject text written ∧ ms = Members.gathered [] written := by
  rw [parse_eq_ok_iff]
  constructor
  · rintro ⟨rest, hread, hend⟩
    cases hread with
    | word hword _ => simp [wordValues] at hword
    | emptyObject _ hopen hclose => exact ⟨[], ⟨_, _, hopen, hend, .inl ⟨rfl, hclose⟩⟩, rfl⟩
    | object _ hopen hquote hmembers =>
      obtain ⟨written, hwrites, rfl⟩ := hmembers.exists_writes
      exact ⟨written, ⟨_, _, hopen, hend, .inr ⟨_, hquote, hwrites⟩⟩, rfl⟩
  · rintro ⟨written, ⟨mid, rest, hopen, hend, ⟨rfl, hclose⟩ | ⟨mid', hquote, hwrites⟩⟩, rfl⟩
    · exact ⟨rest, .emptyObject (by decide) hopen hclose, hend⟩
    · exact ⟨rest, .object (by decide) hopen hquote (hwrites.reads []), hend⟩

end Json

end Bulletin
