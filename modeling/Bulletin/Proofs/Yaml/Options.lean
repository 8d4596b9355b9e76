import Bulletin.Options.Yaml

/-!
# What YAML options say

`RenderOptions.read` goes through the fields of a mapping with a count of the aliases that may still
be followed.  The count is never used up, since a document is larger than its options need, so what
is read can be said without it: each option is what the node of its key writes, and the usual value
where the key is missing.

`Yaml.Decoding.Returns` is the judgement that carries this: a decoding comes to a value exactly when
the value has a property, and follows no more than some number of aliases on the way.

## Main statements

- `Yaml.Decoding.Returns.bind`: the judgement is composed along `>>=`
- `Yaml.Document.returns_fields`: `Document.fields` collects the entries with known keys
- `RenderOptions.read_eq_ok_iff`: `RenderOptions.read` comes to the options that the text says
-/

namespace Bulletin

namespace Yaml

/-! ## What nodes write -/

namespace Document

variable (d : Document)

/-- The node that a node stands for: another one for an alias. -/
def target? : Node Nat → Option (Node Nat)
  | .alias n => d.anchored.lookup n
  | node => some node

/-- A node stands for a scalar with this text. -/
def Spells (node : Node Nat) (s : String) : Prop :=
  ∃ p style text, d.target? node = some (.scalar p style text) ∧ s = String.ofList text

/-- A node stands for a scalar that is written as a number or a truth value may be: plain, or as a
literal block with the tag of the type. -/
def Writes (tag : ScalarTag) (node : Node Nat) (text : List Char) : Prop :=
  ∃ p style, d.target? node = some (.scalar p style text) ∧
    (style = .plain ∨ style = .literal ∧ tag.is p.tag = true)

/-- A node writes a natural number of 32 bits. -/
def WritesNat (node : Node Nat) (n : Nat) : Prop :=
  ∃ text, d.Writes .int node text ∧ integer? text = some (false, n) ∧ n < twoPow 32

/-- A node writes a truth value. -/
def WritesBool (node : Node Nat) (b : Bool) : Prop :=
  ∃ text, d.Writes .bool node text ∧ truthValue? text = some b

/-- A node writes a year. -/
def WritesYear (node : Node Nat) (y : Int) : Prop :=
  ∃ text i, d.Writes .int node text ∧ integer? text = some i ∧ year? i.1 i.2 = some y

end Document

/-- A plain scalar that counts as null: an untagged one that is empty or a word for null, or a word
for null with the tag of null. -/
inductive Node.IsNull : Node Nat → Prop
  | empty {p : Properties Nat} (h : p.tag = none) : IsNull (.scalar p .plain [])
  | word {p : Properties Nat} {text : List Char} (h : p.tag = none ∨ ScalarTag.null.is p.tag = true)
      (hword : isNullWord text = true) : IsNull (.scalar p .plain text)

/-- A plain scalar with the tag of null that is no word for null, which is an error. -/
inductive Node.Misnamed : Node Nat → Prop
  | intro {p : Properties Nat} {text : List Char} (h : ScalarTag.null.is p.tag = true)
      (hword : isNullWord text = false) : Misnamed (.scalar p .plain text)

namespace Document

variable (d : Document) {α : Type}

/-- A node stands for nothing, or for something that a property holds of. -/
inductive Perhaps (P : Node Nat → α → Prop) (node : Node Nat) : Option α → Prop
  | null {target : Node Nat} (h : d.target? node = some target) (hnull : target.IsNull) :
      Perhaps P node none
  | some {target : Node Nat} {a : α} (h : d.target? node = some target) (hnull : ¬target.IsNull)
      (hname : ¬target.Misnamed) (ha : P target a) : Perhaps P node (some a)

/-- The fields with these keys among the entries of a mapping, behind those before.  Every key is
the text of a scalar, and no known key is repeated. -/
inductive Collects (keys : List String) :
    List (String × Node Nat) → List (Node Nat × Node Nat) → List (String × Node Nat) → Prop
  | nil {before : List (String × Node Nat)} : Collects keys before [] before
  | other {before fields : List (String × Node Nat)} {entry : Node Nat × Node Nat}
      {rest : List (Node Nat × Node Nat)} {key : String} (hkey : d.Spells entry.1 key)
      (h : key ∉ keys) (hrest : Collects keys before rest fields) :
      Collects keys before (entry :: rest) fields
  | known {before fields : List (String × Node Nat)} {entry : Node Nat × Node Nat}
      {rest : List (Node Nat × Node Nat)} {key : String} (hkey : d.Spells entry.1 key)
      (h : key ∈ keys) (hnew : before.lookup key = none)
      (hrest : Collects keys (before ++ [(key, entry.2)]) rest fields) :
      Collects keys before (entry :: rest) fields

end Document

/-- A field is what the node of its key has for it, or else a default. -/
def FieldIs {α : Type} (fields : List (String × Node Nat)) (key : String) (default : α)
    (P : Node Nat → α → Prop) (a : α) : Prop :=
  match fields.lookup key with
  | some node => P node a
  | none => a = default

/-! ## Decodings -/

namespace Decoding

variable {α β : Type}

/-- A decoding comes to the one value with a property and follows at most `need` aliases for it, or
fails if nothing has the property. -/
def Returns (x : Decoding α) (need : Nat) (P : α → Prop) : Prop :=
  ∀ left, need ≤ left →
    match x.run left with
    | .ok (a, left') => (∀ a', P a' ↔ a' = a) ∧ left ≤ left' + need
    | .error _ => ∀ a, ¬P a

namespace Returns

variable {x : Decoding α} {m n : Nat} {P : α → Prop}

/-- `Returns` holds of a property that is said in another way. -/
theorem congr {Q : α → Prop} (h : x.Returns n P) (hiff : ∀ a, Q a ↔ P a) : x.Returns n Q := by
  intro left hleft
  have hx := h left hleft
  cases hrun : x.run left with
  | error e =>
    rw [hrun] at hx
    exact fun a ha => hx a ((hiff a).1 ha)
  | ok r =>
    rw [hrun] at hx
    exact ⟨fun a' => (hiff a').trans (hx.1 a'), hx.2⟩

/-- `Returns` holds of a larger number of aliases. -/
theorem mono (h : x.Returns m P) (hle : m ≤ n) : x.Returns n P := by
  intro left hleft
  have hx := h left (Nat.le_trans hle hleft)
  cases hrun : x.run left with
  | error e =>
    rw [hrun] at hx
    exact hx
  | ok r =>
    rw [hrun] at hx
    exact ⟨hx.1, by have := hx.2; omega⟩

/-- `pure a` returns `a` and follows no alias. -/
theorem pure (a : α) : (pure a : Decoding α).Returns 0 (· = a) :=
  fun _ _ => ⟨fun _ => Iff.rfl, Nat.le_refl _⟩

/-- `throw e` returns nothing. -/
theorem throw (e : YamlError) : (throw e : Decoding α).Returns 0 fun _ => False :=
  fun _ _ _ h => h

/-- `pure a` returns what only `a` is. -/
theorem pure_of_iff {a : α} (h : ∀ a', P a' ↔ a' = a) : (Pure.pure a : Decoding α).Returns n P :=
  ((pure a).mono (Nat.zero_le n)).congr h

/-- `throw e` returns what nothing is. -/
theorem throw_of_not {e : YamlError} (h : ∀ a, ¬P a) :
    (MonadExcept.throw e : Decoding α).Returns n P :=
  ((throw e).mono (Nat.zero_le n)).congr fun a => iff_false_intro (h a)

/-- `x >>= f` returns what `f` makes of what `x` returns, and follows the aliases of both. -/
theorem bind {f : α → Decoding β} {Q : α → β → Prop} (hx : x.Returns m P)
    (hf : ∀ a, P a → (f a).Returns n (Q a)) :
    Returns (x >>= f) (m + n) fun b => ∃ a, P a ∧ Q a b := by
  intro left hleft
  have hfirst := hx left (by omega)
  rw [StateT.run_bind]
  cases hrun : x.run left with
  | error e =>
    rw [hrun] at hfirst
    exact fun b hb => hb.elim fun a ha => hfirst a ha.1
  | ok r =>
    obtain ⟨a, left'⟩ := r
    rw [hrun] at hfirst
    obtain ⟨honly, hspent⟩ := hfirst
    have hsecond := hf a ((honly a).2 rfl) left' (by omega)
    -- What the first decoding comes to is the only value with its property.
    have hiff : ∀ b, (∃ a, P a ∧ Q a b) ↔ Q a b := by
      intro b
      constructor
      · rintro ⟨a', ha', hb⟩
        rwa [(honly a').1 ha'] at hb
      · exact fun hb => ⟨a, (honly a).2 rfl, hb⟩
    change match (f a).run left' with
      | .ok (b, left'') => _
      | .error _ => _
    cases hrun' : (f a).run left' with
    | error e =>
      rw [hrun'] at hsecond
      exact fun b hb => hsecond b ((hiff b).1 hb)
    | ok r' =>
      rw [hrun'] at hsecond
      exact ⟨fun b => (hiff b).trans (hsecond.1 b), by have := hsecond.2; omega⟩

end Returns

end Decoding

/-! ## Reading nodes -/

namespace Document

open Decoding

variable (d : Document)

/-- `follow` comes to the node that a node stands for. -/
theorem returns_follow (node : Node Nat) :
    (d.follow node).Returns 1 fun target => d.target? node = some target := by
  intro left hleft
  cases node with
  | «alias» n =>
    -- An alias uses up one of those that are left.
    have hpos : left ≠ 0 := by omega
    have hrun : (d.follow (.alias n)).run left =
        match d.anchored.lookup n with
        | some node => .ok (node, left - 1)
        | none => .error .unknownAnchor := by
      unfold follow
      rw [StateT.run_bind]
      change (if left = 0 then (throw .tooManyAliases : Decoding (Node Nat)) else _).run left = _
      rw [if_neg hpos]
      cases hlookup : d.anchored.lookup n <;> rfl
    rw [hrun, target?]
    cases d.anchored.lookup n with
    | none => simp
    | some node => exact ⟨by simp [eq_comm], by omega⟩
  | scalar | sequence | mapping =>
    exact ⟨fun target => by simp [target?, eq_comm], by omega⟩

/-- `d.follow node >>= read` returns what `read` makes of the target, and follows one alias more. -/
theorem returns_follow_bind {α : Type} {read : Node Nat → Decoding α} {n : Nat}
    {P : Node Nat → α → Prop} (h : ∀ target, (read target).Returns n (P target))
    (node : Node Nat) :
    Returns (d.follow node >>= read) (1 + n) fun a =>
      ∃ target, d.target? node = some target ∧ P target a :=
  (d.returns_follow node).bind fun target _ => h target

/-- `text` comes to the text of the scalar that a node stands for. -/
theorem returns_text (node : Node Nat) : (d.text node).Returns 1 (d.Spells node) := by
  unfold text
  refine (d.returns_follow_bind (n := 0)
    (P := fun target s => ∃ p style text, target = .scalar p style text ∧ s = String.ofList text)
    (fun target => ?_) node).congr fun s => ?_
  · cases target with
    | scalar p style text =>
      refine .pure_of_iff fun s => ?_
      constructor
      · rintro ⟨_, _, _, ⟨⟩, rfl⟩
        rfl
      · rintro rfl
        exact ⟨p, style, text, rfl, rfl⟩
    | «alias» | sequence | mapping => exact .throw_of_not (by simp)
  · constructor
    · rintro ⟨p, style, text, htarget, rfl⟩
      exact ⟨_, htarget, p, style, text, rfl, rfl⟩
    · rintro ⟨_, htarget, p, style, text, rfl, rfl⟩
      exact ⟨p, style, text, htarget, rfl⟩

/-- `typed` comes to the text of a scalar that is written as a number or a truth value may be. -/
theorem returns_typed (tag : ScalarTag) (node : Node Nat) :
    (d.typed tag node).Returns 1 (d.Writes tag node) := by
  unfold typed
  refine (d.returns_follow_bind (n := 0)
    (P := fun target text => ∃ p style, target = .scalar p style text ∧
      (style = .plain ∨ style = .literal ∧ tag.is p.tag = true))
    (fun target => ?_) node).congr fun text => ?_
  · cases target with
    | scalar p style text =>
      -- Only the style and the tag decide whether the text counts.
      dsimp only
      split
      · rename_i hstyle
        refine .pure_of_iff fun text' => ?_
        constructor
        · rintro ⟨_, _, ⟨⟩, -⟩
          rfl
        · rintro rfl
          exact ⟨p, style, rfl, by simpa using hstyle⟩
      · rename_i hstyle
        refine .throw_of_not ?_
        rintro text' ⟨_, _, ⟨⟩, h⟩
        exact hstyle (by simpa using h)
    | «alias» | sequence | mapping => exact .throw_of_not (by simp)
  · constructor
    · rintro ⟨p, style, htarget, hstyle⟩
      exact ⟨_, htarget, p, style, rfl, hstyle⟩
    · rintro ⟨_, htarget, p, style, rfl, hstyle⟩
      exact ⟨p, style, htarget, hstyle⟩

/-- `bool` comes to the truth value that a node writes. -/
theorem returns_bool (node : Node Nat) : (d.bool node).Returns 1 (d.WritesBool node) := by
  unfold bool
  refine (d.returns_typed .bool node).bind (n := 0) (Q := fun text b => truthValue? text = some b)
    fun text _ => ?_
  cases truthValue? text with
  | none => exact .throw_of_not (by simp)
  | some b => exact .pure_of_iff (by simp [eq_comm])

/-- `year` comes to the year that a node writes. -/
theorem returns_year (node : Node Nat) : (d.year node).Returns 1 (d.WritesYear node) := by
  unfold year
  refine (d.returns_typed .int node).bind (n := 0)
    (Q := fun text y => ∃ i, integer? text = some i ∧ year? i.1 i.2 = some y) (fun text _ => ?_)
    |>.congr fun y => by simp only [WritesYear, exists_and_left]
  simp only [← Option.bind_eq_some_iff]
  cases (integer? text).bind fun i => year? i.1 i.2 with
  | none => exact .throw_of_not (by simp)
  | some y => exact .pure_of_iff (by simp [eq_comm])

/-- `nat32` comes to the natural number that a node writes. -/
theorem returns_nat32 (node : Node Nat) : (d.nat32 node).Returns 1 (d.WritesNat node) := by
  unfold nat32
  refine (d.returns_typed .int node).bind (n := 0)
    (Q := fun text n => integer? text = some (false, n) ∧ n < twoPow 32) fun text _ => ?_
  split
  · rename_i n hn
    rw [hn]
    split
    · rename_i hlt
      refine .pure_of_iff fun n' => ?_
      constructor
      · rintro ⟨⟨⟩, -⟩
        rfl
      · rintro rfl
        exact ⟨rfl, hlt⟩
    · rename_i hlt
      refine .throw_of_not ?_
      rintro n' ⟨⟨⟩, h⟩
      exact hlt h
  · -- The integer is negative, or there is none.
    rename_i hint
    exact .throw_of_not fun n' h => hint n' h.1

/-- What `optional` makes of the target of a node. -/
def Reaches (target : Node Nat) (r : Option (Node Nat)) : Prop :=
  (r = none ∧ target.IsNull) ∨ (r = some target ∧ ¬target.IsNull ∧ ¬target.Misnamed)

/-- `optional` comes to nothing for null, and else to the target of a node. -/
theorem returns_optional (node : Node Nat) :
    (d.optional node).Returns 1 fun r => ∃ target, d.target? node = some target ∧
      Reaches target r := by
  -- What is not null and not misnamed reaches itself, and null reaches nothing.
  have hsome {target : Node Nat} (hnull : ¬target.IsNull) (hname : ¬target.Misnamed) :
      (pure (some target) : Decoding (Option (Node Nat))).Returns 0 (Reaches target) :=
    .pure_of_iff fun r => by simp [Reaches, hnull, hname]
  have hnone {target : Node Nat} (hnull : target.IsNull) :
      (pure none : Decoding (Option (Node Nat))).Returns 0 (Reaches target) :=
    .pure_of_iff fun r => by simp [Reaches, hnull]
  unfold optional
  refine d.returns_follow_bind (n := 0) (fun target => ?_) node
  split
  · rename_i p text
    split
    · rename_i htag
      have htag : p.tag = none := by simpa using htag
      have hother : ScalarTag.null.is p.tag = false := by simp [htag, ScalarTag.is]
      split
      · rename_i hempty
        refine hnone ?_
        rcases Bool.or_eq_true_iff.1 hempty with h | h
        · obtain rfl := List.isEmpty_iff.1 h
          exact .empty htag
        · exact .word (.inl htag) h
      · rename_i hempty
        refine hsome ?_ ?_
        · rintro (_ | ⟨-, hword⟩) <;> simp_all
        · rintro ⟨h, -⟩
          simp [hother] at h
    · rename_i htag
      have htag : p.tag ≠ none := by simpa using htag
      split
      · rename_i hnulltag
        split
        · rename_i hword
          exact hnone (.word (.inr hnulltag) hword)
        · rename_i hword
          -- The tag promises null, and the word is another.
          have hword : isNullWord text = false := by simpa using hword
          refine .throw_of_not ?_
          rintro r (⟨-, _ | ⟨-, h⟩⟩ | ⟨-, -, h⟩)
          · contradiction
          · simp [hword] at h
          · exact h ⟨hnulltag, hword⟩
      · rename_i hother
        refine hsome ?_ ?_
        · rintro (h | ⟨h | h, -⟩) <;> contradiction
        · rintro ⟨h, -⟩
          exact hother h
  · rename_i hplain
    refine hsome ?_ ?_
    · rintro (_ | _) <;> exact hplain _ _ rfl
    · rintro ⟨-, -⟩
      exact hplain _ _ rfl

/-- `d.optional node` returns nothing for null, and else what `read` makes of the target. -/
theorem returns_optional_mapM {α : Type} {read : Node Nat → Decoding α}
    {P : Node Nat → α → Prop} (h : ∀ target, (read target).Returns 1 (P target))
    (node : Node Nat) :
    Returns (d.optional node >>= fun r => r.mapM read) 2 (d.Perhaps P node) := by
  have hread : ∀ r : Option (Node Nat), Returns (r.mapM read) 1 fun a =>
      match r with
      | none => a = none
      | some target => ∃ b, a = some b ∧ P target b := by
    intro r
    cases r with
    | none => exact .pure_of_iff fun _ => Iff.rfl
    | some target =>
      refine ((h target).bind (n := 0) fun b _ => Returns.pure (some b)).congr fun a => ?_
      simp only [and_comm]
  refine ((d.returns_optional node).bind fun r _ => hread r).congr fun a => ?_
  -- Null and the rest are told apart on both sides.
  constructor
  · rintro (⟨htarget, hnull⟩ | ⟨htarget, hnull, hname, hb⟩)
    · exact ⟨none, ⟨_, htarget, .inl ⟨rfl, hnull⟩⟩, rfl⟩
    · exact ⟨_, ⟨_, htarget, .inr ⟨rfl, hnull, hname⟩⟩, _, rfl, hb⟩
  · rintro ⟨r, ⟨target, htarget, ⟨rfl, hnull⟩ | ⟨rfl, hnull, hname⟩⟩, ha⟩
    · subst ha
      exact .null htarget hnull
    · obtain ⟨b, rfl, hb⟩ := ha
      exact .some htarget hnull hname hb

/-- `field` comes to what is read from the node of a key, or else to the default. -/
theorem returns_field {α : Type} {fields : List (String × Node Nat)} {key : String} {default : α}
    {read : Node Nat → Decoding α} {n : Nat} {P : Node Nat → α → Prop}
    (h : ∀ node, (read node).Returns n (P node)) :
    (field fields key default read).Returns n (FieldIs fields key default P) := by
  unfold field FieldIs
  cases fields.lookup key with
  | none => exact .pure_of_iff fun _ => Iff.rfl
  | some node => exact h node

/-- `fields` gathers the entries of a mapping behind those before, as `Collects` says. -/
theorem returns_foldlM_entries (keys : List String) (entries : List (Node Nat × Node Nat))
    (before : List (String × Node Nat)) :
    Returns (entries.foldlM (fun fields e => do
        let key ← d.text e.1
        if key ∉ keys then pure fields
        else if (fields.lookup key).isSome then throw .repeatedField
        else pure (fields ++ [(key, e.2)])) before) entries.length
      (d.Collects keys before entries) := by
  induction entries generalizing before with
  | nil =>
    refine .pure_of_iff fun fields => ?_
    constructor
    · rintro ⟨⟩
      rfl
    · rintro rfl
      exact .nil
  | cons entry rest ih =>
    rw [List.foldlM_cons, bind_assoc, List.length_cons, Nat.add_comm]
    refine ((d.returns_text entry.1).bind (Q := fun key fields =>
      (key ∉ keys ∧ d.Collects keys before rest fields) ∨
        (key ∈ keys ∧ before.lookup key = none ∧
          d.Collects keys (before ++ [(key, entry.2)]) rest fields)) fun key _ => ?_).congr
        fun fields => ?_
    · -- The entry is passed over, refused or added, by its key, and the others follow.
      by_cases hkey : key ∉ keys
      · rw [if_pos hkey, pure_bind]
        exact (ih before).congr fun fields => by simp [hkey]
      · rw [if_neg hkey]
        rw [Decidable.not_not] at hkey
        cases hlookup : before.lookup key with
        | some node =>
          exact .throw_of_not (by simp [hkey])
        | none =>
          rw [Option.isSome_none, if_neg Bool.false_ne_true, pure_bind]
          exact (ih _).congr fun fields => by simp [hkey]
    · constructor
      · rintro (_ | ⟨hspells, hkey, hrest⟩ | ⟨hspells, hkey, hnew, hrest⟩)
        · exact ⟨_, hspells, .inl ⟨hkey, hrest⟩⟩
        · exact ⟨_, hspells, .inr ⟨hkey, hnew, hrest⟩⟩
      · rintro ⟨key, hspells, ⟨hkey, hrest⟩ | ⟨hkey, hnew, hrest⟩⟩
        · exact .other hspells hkey hrest
        · exact .known hspells hkey hnew hrest

/-- The fields of a document: those of its mapping, or none if it holds an empty node. -/
inductive HasFields (keys : List String) : List (String × Node Nat) → Prop
  | empty {p : Properties Nat} (h : d.root = .scalar p .plain []) : HasFields keys []
  | mapping {p : Properties Nat} {entries : List (Node Nat × Node Nat)}
      {fields : List (String × Node Nat)} (h : d.root = .mapping p entries)
      (hfields : d.Collects keys [] entries fields) : HasFields keys fields

/-- `Node.size` is positive. -/
theorem size_pos (node : Node Nat) : 0 < node.size := by
  cases node <;> simp only [Node.size] <;> omega

/-- `sizeOfEntries` counts each entry of a mapping. -/
theorem length_le_sizeOfEntries (entries : List (Node Nat × Node Nat)) :
    entries.length ≤ sizeOfEntries entries := by
  induction entries with
  | nil => exact Nat.zero_le _
  | cons entry rest ih =>
    obtain ⟨key, value⟩ := entry
    have := size_pos key
    simp only [List.length_cons, sizeOfEntries]
    omega

/-- `fields` comes to the fields of a document, and follows no more aliases than the document has
nodes. -/
theorem returns_fields (keys : List String) :
    (d.fields keys).Returns d.root.size (d.HasFields keys) := by
  unfold fields
  split
  · rename_i hroot
    refine .pure_of_iff fun fields => ?_
    constructor
    · rintro (_ | ⟨h, -⟩)
      · rfl
      · rw [hroot] at h
        cases h
    · rintro rfl
      exact .empty hroot
  · rename_i p entries hroot
    -- The keys are read, so that there is at most one alias for each entry.
    have hsize : entries.length ≤ d.root.size := by
      have := length_le_sizeOfEntries entries
      rw [hroot, Node.size]
      omega
    refine ((d.returns_foldlM_entries keys entries []).mono hsize).congr fun fields => ?_
    constructor
    · rintro (h | ⟨h, hfields⟩)
      · rw [hroot] at h
        cases h
      · rw [hroot] at h
        cases h
        exact hfields
    · exact .mapping hroot
  · rename_i hempty hmapping
    refine .throw_of_not ?_
    rintro fields (h | ⟨h, -⟩)
    · exact hempty _ h
    · exact hmapping _ _ h

end Document

end Yaml

namespace RenderOptions

open Yaml

/-- What the fields of a document say about options. -/
structure Said (d : Document) (fields : List (String × Node Nat)) (o : RenderOptions) : Prop where
  title : FieldIs fields "title" "Newsletter" d.Spells o.title
  preheader : FieldIs fields "preheader" none (d.Perhaps d.Spells) o.preheader
  containerWidth : FieldIs fields "containerWidth" 600 d.WritesNat o.containerWidth
  includeScripts : FieldIs fields "includeScripts" true d.WritesBool o.includeScripts
  copyrightYear : FieldIs fields "copyrightYear" none (d.Perhaps d.WritesYear) o.copyrightYear

/-- The options that a YAML text says: the usual ones if it is blank or holds no document, and else
what the fields of its document say. -/
inductive Says (text : String) : RenderOptions → Prop
  | blank (h : Text.isBlank text = true) : Says text ⟨"Newsletter", none, 600, true, none⟩
  | noDocument (h : Document.read text = .ok none) :
      Says text ⟨"Newsletter", none, 600, true, none⟩
  | document {d : Document} {fields : List (String × Node Nat)} {o : RenderOptions}
      (hblank : Text.isBlank text = false) (h : Document.read text = .ok (some d))
      (hfields : d.HasFields keys fields) (ho : Said d fields o) : Says text o

/-- `ofDocument` comes to the options that the fields of a document say.  At most seven aliases are
followed for the options themselves. -/
theorem returns_ofDocument (d : Document) :
    (ofDocument d).Returns (d.root.size + 7) fun o => ∃ fields, d.HasFields keys fields ∧
      Said d fields o := by
  unfold ofDocument
  -- One step for each field of the options, in the order in which they are read.
  refine ((d.returns_fields keys).bind fun fields _ =>
    (Document.returns_field d.returns_text).bind fun title _ =>
    (Document.returns_field (d.returns_optional_mapM d.returns_text)).bind fun preheader _ =>
    (Document.returns_field d.returns_nat32).bind fun containerWidth _ =>
    (Document.returns_field d.returns_bool).bind fun includeScripts _ =>
    (Document.returns_field (d.returns_optional_mapM d.returns_year)).bind fun copyrightYear _ =>
    Decoding.Returns.pure _).congr fun o => ?_
  constructor
  · rintro ⟨fields, hfields, htitle, hpreheader, hwidth, hscripts, hyear⟩
    exact ⟨fields, hfields, _, htitle, _, hpreheader, _, hwidth, _, hscripts, _, hyear, rfl⟩
  · rintro ⟨fields, hfields, title, htitle, preheader, hpreheader, width, hwidth, scripts, hscripts,
      year, hyear, rfl⟩
    exact ⟨fields, hfields, htitle, hpreheader, hwidth, hscripts, hyear⟩

/-- `decode` does not run out of aliases for options, since a document is large enough for them. -/
theorem decode_ofDocument_eq_ok_iff (d : Document) (o : RenderOptions) :
    d.decode (ofDocument d) = .ok o ↔ ∃ fields, d.HasFields keys fields ∧ Said d fields o := by
  have hbudget : d.root.size + 7 ≤ Document.aliasesPerUnit * d.root.size := by
    have := Document.size_pos d.root
    unfold Document.aliasesPerUnit
    omega
  have hreturns := returns_ofDocument d _ hbudget
  unfold Document.decode
  rw [StateT.run'_eq]
  cases hrun : (ofDocument d).run (Document.aliasesPerUnit * d.root.size) with
  | error e =>
    rw [hrun] at hreturns
    exact ⟨fun h => (nomatch h), fun h => absurd h (hreturns o)⟩
  | ok r =>
    rw [hrun] at hreturns
    -- The first part of the result is the only value with the property.
    refine Iff.trans ?_ (hreturns.1 o).symm
    exact ⟨fun h => (Except.ok.inj h).symm, fun h => congrArg Except.ok h.symm⟩

/-- `read` comes to the options that a text says, and to no others. -/
theorem read_eq_ok_iff (text : String) (o : RenderOptions) : read text = .ok o ↔ Says text o := by
  unfold read
  cases hblank : Text.isBlank text with
  | true =>
    rw [if_pos rfl]
    constructor
    · rintro ⟨⟩
      exact .blank hblank
    · rintro (_ | _ | ⟨h, -⟩)
      · rfl
      · rfl
      · rw [hblank] at h
        cases h
  | false =>
    rw [if_neg Bool.false_ne_true]
    -- A text that is not blank is refused, or holds no document, or holds one.
    cases hread : Document.read text with
    | error e =>
      refine ⟨fun h => (nomatch h), ?_⟩
      rintro (h | h | ⟨-, h, -⟩) <;> simp_all
    | ok document =>
      cases document with
      | none =>
        constructor
        · rintro ⟨⟩
          exact .noDocument hread
        · rintro (_ | _ | ⟨-, h, -⟩)
          · rfl
          · rfl
          · rw [hread] at h
            cases h
      | some d =>
        refine (decode_ofDocument_eq_ok_iff d o).trans ⟨?_, ?_⟩
        · rintro ⟨fields, hfields, ho⟩
          exact .document hblank hread hfields ho
        · rintro (h | h | ⟨-, h, hfields, ho⟩)
          · rw [hblank] at h
            cases h
          · rw [hread] at h
            cases h
          · rw [hread] at h
            cases h
            exact ⟨_, hfields, ho⟩

end RenderOptions

end Bulletin
