import Bulletin.Json.Record
import Bulletin.Proofs.Json.Skip
import Bulletin.Proofs.Json.Written

/-!
# Records from text and from values

A record that is read straight from a text and one that is taken from the value of the text are the
same, unless the text is an object that gives one of the record's fields twice: reading refuses it,
and the value keeps the later of the two.

## Main statements

- `Json.leaves_readRecord_iff_of_bracket`: which lists are read as the fields of a record
- `Json.Writes.leaves_readNamedFields`: which members are read as the fields of a record
- `Record.read_eq_ok_iff`: what is read from a text is what its value stands for
-/

namespace Bulletin

namespace Json

/-! ## Fields of a list -/

/-- `endOfRecord` takes the bracket that closes a list. -/
theorem endOfRecord_eq_ok_iff {cs : List Char} {r : Rest cs} :
    endOfRecord cs = .ok r ↔ skipSpace cs = ']' :: r.1 := by
  rw [← nextChar_eq_some_iff, endOfRecord]
  split
  · rename_i h
    simp [h]
  · rename_i r' h
    simp [h]
  · rename_i r' h
    split <;> simp [h]
  · rename_i c r' hc _ h
    simp only [h, Option.some_inj, Prod.mk.injEq, reduceCtorEq, false_iff, not_and]
    exact fun hc' => absurd hc' hc

/-- `readFields` reads the items of a list no longer than the record. -/
theorem exists_items_of_leaves_readFields {depth : Nat} {key : String} {keys : List String}
    {cs rest : List Char} {ms : Members} (h : Leaves (readFields depth key keys cs) ms rest) :
    ∃ vs, Reads depth cs (.items vs) rest ∧ vs.length ≤ (key :: keys).length ∧
      ms = (key :: keys).zip vs := by
  -- One key is used up by each item.
  induction keys generalizing key cs rest ms with
  | nil =>
    rw [readFields] at h
    obtain ⟨v, r, hv, h⟩ := leaves_bind_iff.1 h
    obtain ⟨r', hend, h⟩ := leaves_bind_ok_iff.1 h
    obtain ⟨rfl, rfl⟩ := leaves_ok.1 h
    have hvalue : (Part.value v).IsRead depth cs r.1 := leaves_val_iff.2 hv
    exact ⟨[v], .lastItem hvalue.reads (endOfRecord_eq_ok_iff.1 hend), Nat.le_refl _, rfl⟩
  | cons key' keys ih =>
    rw [readFields] at h
    obtain ⟨v, r, hv, h⟩ := leaves_bind_iff.1 h
    have hvalue : (Part.value v).IsRead depth cs r.1 := leaves_val_iff.2 hv
    obtain ⟨next, hnext, h⟩ := leaves_bind_ok_iff.1 h
    cases next with
    | close r' =>
      obtain ⟨rfl, rfl⟩ := leaves_ok.1 h
      exact ⟨[v], .lastItem hvalue.reads (afterItem_eq_close_iff.1 hnext), by simp, rfl⟩
    | more r' =>
      obtain ⟨ms', r'', hms, h⟩ := leaves_bind_iff.1 h
      obtain ⟨rfl, rfl⟩ := leaves_ok.1 h
      have hread : Leaves (readFields depth key' keys r'.1) ms' r''.1 := leaves_val_iff.2 hms
      obtain ⟨vs, hitems, hlen, rfl⟩ := ih hread
      exact ⟨v :: vs, .item hvalue.reads (afterItem_eq_more_iff.1 hnext).1 hitems,
        Nat.succ_le_succ hlen, rfl⟩

/-- `readFields` reads any list no longer than the record. -/
theorem Reads.leaves_readFields {depth : Nat} {key : String} {keys : List String}
    {cs rest : List Char} {vs : List Json} (h : Reads depth cs (.items vs) rest)
    (hlen : vs.length ≤ (key :: keys).length) :
    Leaves (readFields depth key keys cs) ((key :: keys).zip vs) rest := by
  induction keys generalizing key cs rest vs with
  | nil =>
    rw [readFields]
    cases h with
    | lastItem hvalue hclose =>
      obtain ⟨hlt, hv⟩ := hvalue.isRead
      refine leaves_bind_iff.2 ⟨_, _, hv, leaves_bind_ok_iff.2 ?_⟩
      exact ⟨⟨rest, length_lt_of_skipSpace hclose⟩, endOfRecord_eq_ok_iff.2 hclose,
        leaves_ok.2 ⟨rfl, rfl⟩⟩
    -- A second item has no field.
    | item _ _ hitems => cases hitems <;> simp at hlen
  | cons key' keys ih =>
    rw [readFields]
    cases h with
    | lastItem hvalue hclose =>
      obtain ⟨hlt, hv⟩ := hvalue.isRead
      refine leaves_bind_iff.2 ⟨_, _, hv, leaves_bind_ok_iff.2 ?_⟩
      exact ⟨.close ⟨rest, length_lt_of_skipSpace hclose⟩, afterItem_eq_close_iff.2 hclose,
        leaves_ok.2 ⟨rfl, rfl⟩⟩
    | @item _ _ _ _ mid mid' _ hvalue hcomma hitems =>
      obtain ⟨hlt, hv⟩ := hvalue.isRead
      have hmore := (@afterItem_eq_more_iff mid ⟨mid', length_lt_of_skipSpace hcomma⟩).2
        ⟨hcomma, hitems.exists_first⟩
      obtain ⟨hlt', hms⟩ := @ih key' _ _ _ hitems (Nat.le_of_succ_le_succ hlen)
      refine leaves_bind_iff.2 ⟨_, _, hv, leaves_bind_ok_iff.2 ⟨_, hmore, ?_⟩⟩
      exact leaves_bind_iff.2 ⟨_, _, hms, leaves_ok.2 ⟨rfl, rfl⟩⟩

/-! ## Fields of an object -/

section Named

variable {depth : Nat} {keys : List String} {before ms : Members} {cs mid rest : List Char}
  {m : String × Json}

/-- Reads on behind a member of a record: to the end of the object, or from the next key on. -/
def LeavesBehind (depth : Nat) (keys : List String) (before ms : Members) (mid rest : List Char) :
    Prop :=
  (skipSpace mid = '\x7d' :: rest ∧ ms = before) ∨
    ∃ next next', skipSpace mid = ',' :: next ∧ skipSpace next = '"' :: next' ∧
      Leaves (readNamedFields depth keys before next') ms rest

/-- What is read behind a member, whether the member was kept or passed over.  The statement holds
the code as it stands in `readNamedFields`. -/
theorem LeavesBehind.leaves (h : LeavesBehind depth keys before ms mid rest) (behind : Rest cs)
    (hmid : behind.1 = mid) :
    Leaves (do
      match ← afterMember behind.1 with
      | .close r => .ok (before, behind.trans r)
      | .more r =>
        let (ms, r') ← readNamedFields depth keys before (behind.trans r).1
        .ok (ms, (behind.trans r).trans r') : Reading Members cs) ms rest := by
  subst hmid
  obtain ⟨hclose, rfl⟩ | ⟨next, next', hcomma, hquote, ⟨hlen, hms⟩⟩ := h
  · have hnext :=
      (@afterMember_eq_close_iff behind.1 ⟨rest, length_lt_of_skipSpace hclose⟩).2 hclose
    exact leaves_bind_ok_iff.2 ⟨_, hnext, leaves_ok.2 ⟨rfl, rfl⟩⟩
  · have hlt := Nat.lt_trans (length_lt_of_skipSpace hquote) (length_lt_of_skipSpace hcomma)
    have hnext := (@afterMember_eq_more_iff behind.1 ⟨next', hlt⟩).2 ⟨next, hcomma, hquote⟩
    refine leaves_bind_ok_iff.2 ⟨_, hnext, ?_⟩
    exact leaves_bind_iff.2 ⟨_, _, hms, leaves_ok.2 ⟨rfl, rfl⟩⟩

/-- `LeavesBehind` is all that can be read behind a member. -/
theorem LeavesBehind.of_leaves (behind : Rest cs) (h : Leaves (do
      match ← afterMember behind.1 with
      | .close r => .ok (before, behind.trans r)
      | .more r =>
        let (ms, r') ← readNamedFields depth keys before (behind.trans r).1
        .ok (ms, (behind.trans r).trans r') : Reading Members cs) ms rest) :
    LeavesBehind depth keys before ms behind.1 rest := by
  obtain ⟨next, hnext, h⟩ := leaves_bind_ok_iff.1 h
  cases next with
  | close r =>
    obtain ⟨rfl, rfl⟩ := leaves_ok.1 h
    exact .inl ⟨afterMember_eq_close_iff.1 hnext, rfl⟩
  | more r =>
    obtain ⟨ms', r', hms, h⟩ := leaves_bind_iff.1 h
    obtain ⟨rfl, rfl⟩ := leaves_ok.1 h
    obtain ⟨next, hcomma, hquote⟩ := afterMember_eq_more_iff.1 hnext
    exact .inr ⟨next, r.1, hcomma, hquote, leaves_val_iff.2 hms⟩

/-- `readNamedFields` begins with a member, which is kept or passed over. -/
theorem exists_leavesBehind (h : Leaves (readNamedFields depth keys before cs) ms rest) :
    ∃ mid, mid.length < cs.length ∧
      ((∃ m, WritesMember depth cs m mid ∧ LeavesBehind depth keys (before ++ [m]) ms mid rest) ∨
        LeavesBehind depth keys before ms mid rest) := by
  rw [readNamedFields] at h
  obtain ⟨k, r, hk, h⟩ := leaves_bind_iff.1 h
  dsimp only at h
  split at h
  · split at h
    · exact absurd h not_leaves_error
    · obtain ⟨r₁, hcolon, h⟩ := leaves_bind_ok_iff.1 h
      obtain ⟨v, r₂, hv, h⟩ := leaves_bind_iff.1 h
      have hvalue : (Part.value v).IsRead depth r₁.1 r₂.1 := leaves_val_iff.2 hv
      have hbehind := LeavesBehind.of_leaves (Rest.trans (Rest.trans r r₁) r₂) h
      refine ⟨r₂.1, (Rest.trans (Rest.trans r r₁) r₂).2, .inl ⟨(.ofList k, v), ?_, hbehind⟩⟩
      exact ⟨k, r.1, r₁.1, leaves_val_iff.2 hk, readColon_eq_ok_iff.1 hcolon, hvalue.reads, rfl⟩
  · -- The member is no field, so only what is read behind it counts.
    obtain ⟨r₁, -, h⟩ := leaves_bind_ok_iff.1 h
    obtain ⟨r₂, -, h⟩ := leaves_bind_ok_iff.1 h
    have hbehind := LeavesBehind.of_leaves (Rest.trans (Rest.trans r r₁) r₂) h
    exact ⟨r₂.1, (Rest.trans (Rest.trans r r₁) r₂).2, .inr hbehind⟩

/-- `readNamedFields` keeps a member of a field that is not there yet. -/
theorem leaves_readNamedFields_of_mem (hmember : WritesMember depth cs m mid) (hmem : m.1 ∈ keys)
    (hnone : before.lookup m.1 = none)
    (hbehind : LeavesBehind depth keys (before ++ [m]) ms mid rest) :
    Leaves (readNamedFields depth keys before cs) ms rest := by
  obtain ⟨k, v⟩ := m
  obtain ⟨key, next, next', ⟨hlen, hkey⟩, hcolon, hvalue, rfl⟩ := hmember
  obtain ⟨hlen', hvalue⟩ := hvalue.isRead
  have hcolon' := (@readColon_eq_ok_iff next ⟨next', length_lt_of_skipSpace hcolon⟩).2 hcolon
  rw [readNamedFields]
  refine leaves_bind_iff.2 ⟨_, _, hkey, ?_⟩
  dsimp only
  rw [if_pos hmem, if_neg (by simp [hnone])]
  refine leaves_bind_ok_iff.2 ⟨_, hcolon', ?_⟩
  exact leaves_bind_iff.2 ⟨_, _, hvalue, hbehind.leaves _ rfl⟩

/-- `readNamedFields` passes over a member that is no field. -/
theorem leaves_readNamedFields_of_notMem (hmember : WritesMember depth cs m mid)
    (hmem : m.1 ∉ keys) (hbehind : LeavesBehind depth keys before ms mid rest) :
    Leaves (readNamedFields depth keys before cs) ms rest := by
  obtain ⟨k, v⟩ := m
  obtain ⟨key, next, next', ⟨hlen, hkey⟩, hcolon, hvalue, rfl⟩ := hmember
  -- What can be read can be passed over, and it ends in the same place.
  obtain ⟨hlen', hvalue⟩ := hvalue.passes_skipValue
  have hcolon' := (@readColon_eq_ok_iff next ⟨next', length_lt_of_skipSpace hcolon⟩).2 hcolon
  rw [readNamedFields]
  refine leaves_bind_iff.2 ⟨_, _, hkey, ?_⟩
  dsimp only
  rw [if_neg hmem]
  refine leaves_bind_ok_iff.2 ⟨_, hcolon', ?_⟩
  exact leaves_bind_ok_iff.2 ⟨_, hvalue, hbehind.leaves _ rfl⟩

/-- `readNamedFields` keeps a member when it is a field, and reads on behind it. -/
theorem leaves_readNamedFields {written : Members} (hmember : WritesMember depth cs m mid)
    (hnone : Members.RepeatsNone keys (before ++ m :: written))
    (hbehind : LeavesBehind depth keys (before ++ Members.kept keys [m]) ms mid rest) :
    Leaves (readNamedFields depth keys before cs) ms rest := by
  by_cases hmem : m.1 ∈ keys
  · have hkept : Members.kept keys [m] = [m] := by simp [Members.kept, hmem]
    rw [hkept] at hbehind
    exact leaves_readNamedFields_of_mem hmember hmem (hnone.lookup_eq_none hmem) hbehind
  · have hkept : Members.kept keys [m] = [] := by simp [Members.kept, hmem]
    rw [hkept, List.append_nil] at hbehind
    exact leaves_readNamedFields_of_notMem hmember hmem hbehind

/-- `readNamedFields` reads the fields among the members that are written, if none of them is there
twice. -/
theorem Writes.leaves_readNamedFields {written : Members} (h : Writes depth cs written rest)
    (hnone : Members.RepeatsNone keys (before ++ written)) :
    Leaves (readNamedFields depth keys before cs) (before ++ written.kept keys) rest := by
  induction h generalizing before with
  | last hmember hclose => exact Json.leaves_readNamedFields hmember hnone (.inl ⟨hclose, rfl⟩)
  | @more _ m written _ _ _ _ hmember hcomma hquote _ ih =>
    refine Json.leaves_readNamedFields hmember hnone (.inr ⟨_, _, hcomma, hquote, ?_⟩)
    -- What is kept of this member joins what was there before.
    have hsplit : Members.kept keys (m :: written) = Members.kept keys [m] ++ written.kept keys :=
      List.filter_append [m] written
    rw [hsplit, ← List.append_assoc]
    exact ih (@Members.RepeatsNone.append_kept keys before [m] written hnone)

end Named

/-! ## Records -/

section Records

variable {name : String} {keys : List String} {cs mid rest : List Char} {ms : Members}

/-- `readRecord` reads a list as a record's members when it is no longer than the record. -/
theorem leaves_readRecord_iff_of_bracket (hopen : skipSpace cs = '[' :: mid) :
    Leaves (readRecord name keys cs) ms rest ↔
      ∃ vs, Reads depthLimit cs (.value (.array vs)) rest ∧ vs.length ≤ keys.length ∧
        ms = keys.zip vs := by
  have hdepth : 1 < depthLimit := by decide
  rw [readRecord, nextChar_of_skipSpace hopen]
  constructor
  · intro h
    obtain ⟨first, hfirst, h⟩ := leaves_bind_ok_iff.1 h
    cases first with
    | some r =>
      obtain ⟨rfl, rfl⟩ := leaves_ok.1 h
      have hread := Reads.emptyList hdepth hopen (firstItem_eq_some_iff.1 hfirst)
      exact ⟨[], hread, Nat.zero_le _, List.zip_nil_right.symm⟩
    | none =>
      obtain ⟨c, mid', hmid, hc⟩ := firstItem_eq_none_iff.1 hfirst
      cases keys with
      | nil =>
        -- A record without fields has no room for an item.
        obtain ⟨r, hend, -⟩ := leaves_bind_ok_iff.1 h
        have hclose := endOfRecord_eq_ok_iff.1 hend
        rw [hmid] at hclose
        exact absurd (List.cons.inj hclose).1 hc
      | cons key keys =>
        obtain ⟨ms', r, hms, h⟩ := leaves_bind_iff.1 h
        obtain ⟨rfl, rfl⟩ := leaves_ok.1 h
        obtain ⟨vs, hitems, hlen, rfl⟩ := exists_items_of_leaves_readFields (leaves_val_iff.2 hms)
        exact ⟨vs, .list hdepth hopen hitems, hlen, rfl⟩
  · rintro ⟨vs, hread, hlen, rfl⟩
    obtain ⟨hvs, hclose⟩ | ⟨_, hvs, hitems⟩ := hread.of_bracket hopen
    · cases hvs
      have hfirst := (@firstItem_eq_some_iff mid ⟨rest, length_lt_of_skipSpace hclose⟩).2 hclose
      refine leaves_bind_ok_iff.2 ⟨_, hfirst, ?_⟩
      exact leaves_ok.2 ⟨List.zip_nil_right.symm, rfl⟩
    · cases hvs
      have hfirst := firstItem_eq_none_iff.2 hitems.exists_first
      refine leaves_bind_ok_iff.2 ⟨_, hfirst, ?_⟩
      cases keys with
      | nil => cases hitems <;> simp at hlen
      | cons key keys =>
        obtain ⟨hlt, hms⟩ := hitems.leaves_readFields hlen
        exact leaves_bind_iff.2 ⟨_, _, hms, leaves_ok.2 ⟨rfl, rfl⟩⟩

/-- `readRecord` reads the fields among the members of an object, if none of them is there twice. -/
theorem IsObject.leaves_readRecord {text : String} {written : Members} (h : IsObject text written)
    (hnone : written.RepeatsNone keys) :
    ∃ rest, Leaves (readRecord name keys text.toList) (written.kept keys) rest ∧
      skipSpace rest = [] := by
  obtain ⟨mid, rest, hopen, hend, hmid⟩ := h
  refine ⟨rest, ?_, hend⟩
  rw [readRecord, nextChar_of_skipSpace hopen]
  obtain ⟨rfl, hclose⟩ | ⟨mid', hquote, hwrites⟩ := hmid
  · have hfirst := (@firstMember_eq_close_iff mid ⟨rest, length_lt_of_skipSpace hclose⟩).2 hclose
    exact leaves_bind_ok_iff.2 ⟨_, hfirst, leaves_ok.2 ⟨rfl, rfl⟩⟩
  · have hfirst := (@firstMember_eq_more_iff mid ⟨mid', length_lt_of_skipSpace hquote⟩).2 hquote
    obtain ⟨hlen, hms⟩ := @Writes.leaves_readNamedFields _ keys [] _ _ written hwrites hnone
    refine leaves_bind_ok_iff.2 ⟨_, hfirst, ?_⟩
    exact leaves_bind_iff.2 ⟨_, _, hms, leaves_ok.2 ⟨rfl, rfl⟩⟩

/-- `readRecord` refuses what is no list and no object. -/
theorem not_leaves_readRecord {c : Char} (hopen : skipSpace cs = c :: mid) (hlist : c ≠ '[')
    (hobject : c ≠ '\x7b') : ¬Leaves (readRecord name keys cs) ms rest := by
  intro h
  rw [readRecord, nextChar_of_skipSpace hopen] at h
  dsimp only at h
  split at h
  · exact hlist rfl
  · exact hobject rfl
  · obtain ⟨v, r, -, h⟩ := leaves_bind_iff.1 h
    exact not_leaves_error h

/-- How a text begins that is a list, an object, or neither and so no record. -/
theorem Reads.shape {depth : Nat} {v : Json} (h : Reads depth cs (.value v) rest) :
    (∃ vs mid, v = .array vs ∧ skipSpace cs = '[' :: mid) ∨ (∃ ms, v = .object ms) ∨
      ∃ c mid, skipSpace cs = c :: mid ∧ c ≠ '[' ∧ c ≠ '\x7b' ∧
        ∀ keys, v.membersOf? keys = none := by
  cases h with
  | emptyList _ hopen _ => exact .inl ⟨_, _, rfl, hopen⟩
  | list _ hopen _ => exact .inl ⟨_, _, rfl, hopen⟩
  | emptyObject _ _ _ => exact .inr (.inl ⟨_, rfl⟩)
  | object _ _ _ _ => exact .inr (.inl ⟨_, rfl⟩)
  | negative hopen _ => exact .inr (.inr ⟨_, _, hopen, by decide, by decide, fun _ => rfl⟩)
  | string hopen _ => exact .inr (.inr ⟨_, _, hopen, by decide, by decide, fun _ => rfl⟩)
  | positive hopen hdigit _ =>
    refine .inr (.inr ⟨_, _, hopen, ?_, ?_, fun _ => rfl⟩)
    all_goals
      rintro rfl
      simp at hdigit
  | word hword hopen =>
    -- The words begin with letters, which are no brackets.
    simp only [wordValues, List.mem_cons, Prod.mk.injEq, List.not_mem_nil, or_false] at hword
    obtain ⟨rfl, rfl, rfl⟩ | ⟨rfl, rfl, rfl⟩ | ⟨rfl, rfl, rfl⟩ := hword
    all_goals exact .inr (.inr ⟨_, _, hopen, by decide, by decide, fun _ => rfl⟩)

end Records

end Json

namespace Record

/-- What a record holds depends on the values under its keys only. -/
class ByKeys (α : Type) [Record α] : Prop where
  ofMembers_congr : ∀ ms ms' : Members, (∀ key ∈ keys α, ms.lookup key = ms'.lookup key) →
    (ofMembers ms : α) = ofMembers ms'

variable {α : Type} [Record α] {name : String}

/-- `Record.read` reads a text with `readRecord` and nothing but space behind it. -/
theorem read_eq_ok_iff_leaves {text : String} {a : α} :
    Record.read name text = .ok a ↔
      ∃ ms rest, Json.Leaves (Json.readRecord name (keys α) text.toList) ms rest ∧
        Json.skipSpace rest = [] ∧ ofMembers ms = a := by
  rw [Record.read, readChars]
  cases hrecord : Json.readRecord name (keys α) text.toList with
  | error e => simp [bind, Except.bind, Except.mapError, Json.not_leaves_error]
  | ok p =>
    obtain ⟨ms, r⟩ := p
    simp only [Json.leaves_ok, and_assoc, exists_and_left, exists_eq_left']
    rw [← Json.expectEnd_eq_ok_iff]
    cases hend : Json.expectEnd r.1 with
    | error e => simp [bind, Except.bind, Except.mapError, hend]
    | ok u => simp [bind, Except.bind, Except.mapError, hend]

/-- `Record.read` makes of a text what `ofJson?` makes of its value, unless a field is given twice.
-/
theorem read_eq_ok_iff [ByKeys α] {text : String} {v : Json} (hparse : Json.parse text = .ok v)
    (honce : Json.GivesOnce (keys α) text) {a : α} :
    Record.read name text = .ok a ↔ ofJson? v = some a := by
  rw [read_eq_ok_iff_leaves]
  obtain ⟨rest, hread, hend⟩ := Json.parse_eq_ok_iff.1 hparse
  obtain ⟨vs, mid, rfl, hopen⟩ | ⟨ms, rfl⟩ | ⟨c, mid, hopen, hlist, hobject, hnone⟩ := hread.shape
  · -- Both ways give the items of a list to the keys in turn, and stop at the same length.
    simp only [Json.leaves_readRecord_iff_of_bracket hopen, ofJson?, Json.membersOf?]
    constructor
    · rintro ⟨_, rest', ⟨vs', hread', hlen, rfl⟩, -, rfl⟩
      obtain ⟨hvs, -⟩ := hread.unique hread'
      cases hvs
      rw [if_pos hlen, Option.map_some]
    · intro h
      split at h
      · rename_i hlen
        cases h
        exact ⟨_, rest, ⟨vs, hread, hlen, rfl⟩, hend, rfl⟩
      · cases h
  · -- Of an object one way keeps the fields and the other gathers all, which look alike by key.
    obtain ⟨written, hobject, rfl⟩ := Json.parse_eq_object_iff.1 hparse
    have hkept := honce written hobject
    obtain ⟨rest', hleaves, hend'⟩ := @Json.IsObject.leaves_readRecord name _ _ _ hobject hkept
    have hsame :
        (ofMembers (written.kept (keys α)) : α) = ofMembers (Members.gathered [] written) :=
      ByKeys.ofMembers_congr _ _ fun key hkey => Members.lookup_kept_eq hkept hkey
    rw [ofJson?, Json.membersOf?, Option.map_some, Option.some_inj, ← hsame]
    constructor
    · rintro ⟨ms, rest'', hleaves', -, rfl⟩
      rw [(hleaves.unique hleaves').1]
    · rintro rfl
      exact ⟨_, _, hleaves, hend', rfl⟩
  · rw [ofJson?, hnone]
    constructor
    · rintro ⟨ms, rest', hleaves, -, -⟩
      exact absurd hleaves (Json.not_leaves_readRecord hopen hlist hobject)
    · exact nofun

end Record

end Bulletin
