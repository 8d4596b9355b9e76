import Bulletin.Options.Yaml
import Bulletin.Theme.Yaml

/-!
# Mappings of scalars

Options and themes are usually written as a block mapping with a scalar for each key.  The tokens of
such a mapping are told apart by `readBlockEntries` without looking ahead, so for any number of
entries the document is the mapping with just these.

## Main statements

- `readBlockEntries_scalars`: the entries of a block mapping are those that are written
- `Document.read_eq_ok_of_scalars`: a text with the tokens of a mapping of scalars is its document
-/

namespace Bulletin.Yaml

/-- A scalar as it is written: in some style, without an anchor and a tag. -/
structure BareScalar where
  style : ScalarStyle
  text : List Char

/-- The token of a bare scalar. -/
def BareScalar.token (s : BareScalar) : Token := .scalar s.style s.text

/-- The node of a bare scalar, with anchors of any type. -/
def BareScalar.node {α : Type} (s : BareScalar) : Node α := .scalar ⟨none, none⟩ s.style s.text

/-- The tokens of an entry whose key and value are bare scalars. -/
def entryTokens (e : BareScalar × BareScalar) : List Token :=
  [.key, e.1.token, .value, e.2.token]

/-- The nodes of an entry whose key and value are bare scalars. -/
def entryNodes {α : Type} (e : BareScalar × BareScalar) : Node α × Node α := (e.1.node, e.2.node)

/-- `readNode` reads a bare scalar and leaves what follows it. -/
theorem readNode_scalar (handles : Handles) (place : Place) (s : BareScalar) (rest : List Token) :
    ∃ r, readNode handles place (s.token :: rest) = .ok (s.node, r) ∧ r.1 = rest := by
  unfold BareScalar.token BareScalar.node
  rw [readNode]
  · exact ⟨⟨rest, Nat.lt_succ_self _⟩, rfl, rfl⟩
  · intro a tail h
    cases h

/-- `readNodeUnless` reads a bare scalar too, if no scalar is among the tokens it stops at. -/
theorem readNodeUnless_scalar (handles : Handles) {p : Place} {before : List Token}
    (s : BareScalar) (rest : List Token) (h : s.token ∉ before) :
    ∃ r, readNodeUnless handles p before (s.token :: rest) = .ok (s.node, r) ∧ r.1 = rest := by
  obtain ⟨r, hread, hrest⟩ := readNode_scalar handles p s rest
  refine ⟨r.toLeft, ?_, hrest⟩
  rw [readNodeUnless]
  simp [h, hread, bind, Except.bind]

/-- `readValueUnless` reads a bare scalar behind a colon. -/
theorem readValueUnless_scalar (handles : Handles) {p : Place} {before : List Token}
    (s : BareScalar) (rest : List Token) (h : s.token ∉ before) :
    ∃ r, readValueUnless handles p before (.value :: s.token :: rest) = .ok (s.node, r) ∧
      r.1 = rest := by
  obtain ⟨r, hread, hrest⟩ := readNodeUnless_scalar handles (p := p) s rest h
  refine ⟨r.behind.toLeft, ?_, hrest⟩
  rw [readValueUnless, hread]
  rfl

/-- `readBlockEntries` reads an entry, key and value, and the entries behind it. -/
theorem readBlockEntries_key {handles : Handles} {ts : List Token} {key value : WrittenNode}
    {es : List (WrittenNode × WrittenNode)} {r : Left ts} {r₁ : Left r.behind.1}
    {r₂ : Rest (r.behind.transLeft r₁).1}
    (hkey : readNodeUnless handles .field [.key, .value, .blockEnd] ts = .ok (key, r))
    (hvalue : readValueUnless handles .field [.key, .value, .blockEnd] r.behind.1 =
      .ok (value, r₁))
    (hentries : readBlockEntries handles (r.behind.transLeft r₁).1 = .ok (es, r₂)) :
    readBlockEntries handles (.key :: ts) =
      .ok ((key, value) :: es, (r.behind.transLeft r₁).trans r₂) := by
  rw [readBlockEntries, hkey]
  simp only [bind, Except.bind, hvalue, hentries]

/-- `readBlockEntries` reads the entries up to the end of the block, and leaves what follows it. -/
theorem readBlockEntries_scalars (handles : Handles) (es : List (BareScalar × BareScalar))
    (rest : List Token) :
    ∃ r, readBlockEntries handles (es.flatMap entryTokens ++ .blockEnd :: rest) =
      .ok (es.map entryNodes, r) ∧ r.1 = rest := by
  have hstop (s : BareScalar) : s.token ∉ [Token.key, .value, .blockEnd] := by
    simp [BareScalar.token]
  induction es with
  | nil =>
    change ∃ r, readBlockEntries handles (.blockEnd :: rest) = _ ∧ _
    rw [readBlockEntries]
    exact ⟨_, rfl, rfl⟩
  | cons e es ih =>
    let behind := es.flatMap entryTokens ++ .blockEnd :: rest
    -- The key is read up to its colon, the value up to the entries behind it.
    obtain ⟨⟨_, _⟩, hkey, rfl⟩ := readNodeUnless_scalar handles (p := .field) e.1
      (.value :: e.2.token :: behind) (hstop e.1)
    obtain ⟨⟨_, _⟩, hvalue, rfl⟩ := readValueUnless_scalar handles (p := .field) e.2 behind
      (hstop e.2)
    obtain ⟨r, hentries, hrest⟩ := ih
    exact ⟨_, readBlockEntries_key hkey hvalue hentries, hrest⟩

/-- `readRoot` reads the tokens of a mapping of scalars as that mapping. -/
theorem readRoot_scalars (es : List (BareScalar × BareScalar)) :
    readRoot (.blockMappingStart :: (es.flatMap entryTokens ++ [.blockEnd, .streamEnd])) =
      .ok (some (.mapping ⟨none, none⟩ (es.map entryNodes))) := by
  obtain ⟨⟨_, _⟩, hentries, rfl⟩ := readBlockEntries_scalars standardHandles es [.streamEnd]
  -- The mapping is read up to the end of its block, and nothing stands behind it.
  have hnode : ∃ r, readNode standardHandles .item
      (.blockMappingStart :: (es.flatMap entryTokens ++ [.blockEnd, .streamEnd])) =
        .ok (.mapping ⟨none, none⟩ (es.map entryNodes), r) ∧ r.1 = [.streamEnd] := by
    rw [readNode]
    · simp only [readProperties, bind, Except.bind, hentries]
      exact ⟨_, rfl, rfl⟩
    · intro a tail h
      cases h
  obtain ⟨⟨_, _⟩, hnode, rfl⟩ := hnode
  have hstart : (Token.blockMappingStart ::
      (es.flatMap entryTokens ++ [.blockEnd, .streamEnd])) ≠ [.streamEnd] := by simp
  rw [readRoot, if_neg hstart]
  simp [readDirectives, hnode, bind, Except.bind, skipDocumentEnds]

/-- `numberEntries` leaves bare scalars as they are: they have no anchors. -/
theorem numberEntries_scalars (es : List (BareScalar × BareScalar)) :
    numberEntries [] (es.map entryNodes) = .ok (es.map entryNodes, []) := by
  induction es with
  | nil => rfl
  | cons e es ih =>
    simp only [List.map_cons, entryNodes, BareScalar.node] at ih ⊢
    simp only [numberEntries, WrittenNode.number, AnchorNames.define, bind, Except.bind, ih]

/-- `anchoredEntries` finds nothing among bare scalars. -/
theorem anchoredEntries_scalars (es : List (BareScalar × BareScalar)) :
    anchoredEntries (es.map entryNodes) = [] := by
  induction es with
  | nil => rfl
  | cons e es ih =>
    simp only [List.map_cons, entryNodes, BareScalar.node] at ih ⊢
    simp [anchoredEntries, Node.anchored, Properties.numbered, ih]

/-- `Except.toOption` keeps what a computation comes to, and so decides closed cases. -/
theorem eq_ok_of_toOption_eq_some {ε α : Type} {x : Except ε α} {a : α}
    (h : x.toOption = some a) : x = .ok a := by
  cases x with
  | error e => cases h
  | ok b => exact congrArg Except.ok (Option.some.inj h)

/-- `Document.read` reads a text with the tokens of a mapping of scalars as that mapping. -/
theorem Document.read_eq_ok_of_scalars {text : String} {es : List (BareScalar × BareScalar)}
    (h : Token.ofChars text.toList =
      .ok (.blockMappingStart :: (es.flatMap entryTokens ++ [.blockEnd, .streamEnd]))) :
    Document.read text = .ok (some ⟨.mapping ⟨none, none⟩ (es.map entryNodes), []⟩) := by
  rw [Document.read, h]
  simp only [bind, Except.bind]
  rw [readRoot_scalars]
  simp only [WrittenNode.number, AnchorNames.define, bind, Except.bind, numberEntries_scalars,
    Node.anchored, Properties.numbered, anchoredEntries_scalars]
  rfl

/-- Options with a title, a width, and no scripts. -/
example : RenderOptions.read "title: Weekly\ncontainerWidth: 640\nincludeScripts: false\n" =
    .ok ⟨"Weekly", none, 640, false, none⟩ := by
  have hread := @Document.read_eq_ok_of_scalars
    "title: Weekly\ncontainerWidth: 640\nincludeScripts: false\n"
    [(⟨.plain, "title".toList⟩, ⟨.plain, "Weekly".toList⟩),
      (⟨.plain, "containerWidth".toList⟩, ⟨.plain, "640".toList⟩),
      (⟨.plain, "includeScripts".toList⟩, ⟨.plain, "false".toList⟩)]
    (eq_ok_of_toOption_eq_some (by decide +kernel))
  unfold RenderOptions.read
  rw [hread]
  exact eq_ok_of_toOption_eq_some (by decide +kernel)

end Bulletin.Yaml
