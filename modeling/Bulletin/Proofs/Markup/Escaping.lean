import Bulletin.Html.Node
import Bulletin.Proofs.Text.Lines

/-!
# Escaping, in one pass and in turn

Escaping writes an entity for each of five characters.  It can be done in one pass, or by replacing
one character after the other in the whole text; these agree because the ampersand comes first and
no entity holds a character whose turn is still to come.  What is escaped can be read back, and a
text of several lines is its lines, escaped one by one, with line breaks between them.

## Main statements

- `replaceInTurn_eq_flatMap`: replacing in turn is substituting in one pass
- `unescape_escapeChars`: an escaped text is read back as what it was
- `join_escapeChars`: line ends and escaping do not touch each other
- `escaping_faithful`: all of this for the texts that are written
-/

namespace Bulletin.Html

open Text

/-! ## Substituting by a table -/

section Tables

variable {table : List (Char × String)}

/-- What stands for a character. -/
def substitute (table : List (Char × String)) (c : Char) : List Char :=
  ((table.lookup c).map String.toList).getD [c]

/-- The text in which the characters of a table are replaced one after the other, each
everywhere. -/
def replaceInTurn (table : List (Char × String)) (cs : List Char) : List Char :=
  table.foldl (fun cs row => replaceAll [row.1] row.2.toList cs) cs

/-- What a row writes is left alone by the rows behind it. -/
def Settled (table : List (Char × String)) : Prop :=
  table.Pairwise fun row later => later.1 ∉ row.2.toList

/-- `substitute` tries the first row first. -/
theorem substitute_cons (row : Char × String) (table : List (Char × String)) (c : Char) :
    substitute (row :: table) c = if c = row.1 then row.2.toList else substitute table c := by
  by_cases h : c = row.1
  · rw [if_pos h, substitute, List.lookup_cons, beq_iff_eq.2 h]
    rfl
  · rw [if_neg h, substitute, List.lookup_cons, beq_false_of_ne h, substitute]

/-- `substitute` leaves a character alone that no row names. -/
theorem substitute_of_forall_ne {c : Char} (h : ∀ row ∈ table, c ≠ row.1) :
    substitute table c = [c] := by
  induction table with
  | nil => rfl
  | cons row table ih =>
    rw [List.forall_mem_cons] at h
    rw [substitute_cons, if_neg h.1, ih h.2]

/-- `substitute` leaves a character alone, or writes what a row of the table says. -/
theorem substitute_eq_or (table : List (Char × String)) (c : Char) :
    (substitute table c = [c] ∧ ∀ row ∈ table, c ≠ row.1) ∨
      ∃ row ∈ table, c = row.1 ∧ substitute table c = row.2.toList := by
  induction table with
  | nil => exact .inl ⟨rfl, List.forall_mem_nil _⟩
  | cons row table ih =>
    rw [substitute_cons]
    by_cases h : c = row.1
    · exact .inr ⟨row, List.mem_cons_self, h, if_pos h⟩
    · rw [if_neg h]
      obtain ⟨hself, hne⟩ | ⟨found, hfound, hrow⟩ := ih
      · exact .inl ⟨hself, List.forall_mem_cons.2 ⟨h, hne⟩⟩
      · exact .inr ⟨found, List.mem_cons_of_mem _ hfound, hrow⟩

/-- `substitute` changes nothing in a text without the characters of the table. -/
theorem flatMap_substitute_eq_self {cs : List Char} (h : ∀ row ∈ table, row.1 ∉ cs) :
    cs.flatMap (substitute table) = cs := by
  induction cs with
  | nil => rfl
  | cons c cs ih =>
    have hc : substitute table c = [c] := by
      apply substitute_of_forall_ne
      rintro row hrow rfl
      exact h row hrow List.mem_cons_self
    have hcs : ∀ row ∈ table, row.1 ∉ cs := fun row hrow hmem =>
      h row hrow (List.mem_cons_of_mem c hmem)
    rw [List.flatMap_cons, hc, ih hcs, List.singleton_append]

/-- `replaceAll` of one character goes character by character. -/
theorem replaceAll_singleton (c : Char) (replacement cs : List Char) :
    replaceAll [c] replacement cs = cs.flatMap fun d => if d = c then replacement else [d] := by
  induction cs with
  | nil => rw [replaceAll, List.flatMap_nil]
  | cons d cs ih =>
    rw [List.flatMap_cons, ← ih]
    by_cases hd : d = c
    · subst hd
      have hfront := @replaceAll_self_append [d] replacement (List.cons_ne_nil _ _) cs
      rw [if_pos rfl, ← hfront, List.singleton_append]
    · have hc : d ∉ [c] := by simpa using hd
      rw [if_neg hd, replaceAll_cons_of_notMem hc, List.singleton_append]

/-- `replaceInTurn` is `substitute` in one pass, if no row undoes what another has written. -/
theorem replaceInTurn_eq_flatMap (h : Settled table) (cs : List Char) :
    replaceInTurn table cs = cs.flatMap (substitute table) := by
  -- The first row is done everywhere before the others, which leave what it wrote as it is.
  induction table generalizing cs with
  | nil => exact (flatMap_substitute_eq_self (List.forall_mem_nil _)).symm
  | cons row table ih =>
    obtain ⟨hrow, htable⟩ := List.pairwise_cons.1 h
    have hrest : replaceInTurn (row :: table) cs =
        replaceInTurn table (replaceAll [row.1] row.2.toList cs) := rfl
    rw [hrest, ih htable, replaceAll_singleton, List.flatMap_assoc]
    congr 1
    funext c
    rw [substitute_cons]
    split
    · exact flatMap_substitute_eq_self hrow
    · rw [List.flatMap_singleton]

end Tables

/-! ## Entities -/

/-- The characters that are escaped, the ampersand first, each with the entity that stands for
it. -/
def entities : List (Char × String) :=
  [('&', "&amp;"), ('<', "&lt;"), ('>', "&gt;"), ('"', "&quot;"), ('\'', "&#39;")]

/-- `entities` are settled, since the ampersand comes first. -/
theorem settled_entities : Settled entities := by
  simp [Settled, entities]

/-- `escapeChar` is `substitute` with the table of entities. -/
theorem escapeChar_eq_substitute (c : Char) : escapeChar c = substitute entities c := by
  unfold escapeChar
  split
  case h_6 hamp hopen hclose hquote hsingle =>
    refine (substitute_of_forall_ne ?_).symm
    simp only [entities, List.forall_mem_cons]
    exact ⟨hamp, hopen, hclose, hquote, hsingle, List.forall_mem_nil _⟩
  all_goals rfl

/-- `escapeChars` is one pass with that table. -/
theorem escapeChars_eq_flatMap (cs : List Char) :
    escapeChars cs = cs.flatMap (substitute entities) := by
  rw [escapeChars, funext escapeChar_eq_substitute]

/-- `escapeChars` goes character by character. -/
theorem escapeChars_cons (c : Char) (cs : List Char) :
    escapeChars (c :: cs) = substitute entities c ++ escapeChars cs := by
  rw [escapeChars_eq_flatMap, List.flatMap_cons, ← escapeChars_eq_flatMap]

/-- An entity is an ampersand and characters that are none. -/
theorem exists_tail_of_mem_entities {row : Char × String} (h : row ∈ entities) :
    ∃ tail, row.2.toList = '&' :: tail ∧ '&' ∉ tail := by
  simp only [entities, List.mem_cons, List.not_mem_nil, or_false] at h
  rcases h with rfl | rfl | rfl | rfl | rfl <;> exact ⟨_, rfl, by decide⟩

/-- `substitute` writes an ampersand at the front of an entity only. -/
theorem exists_entity_of_substitute_eq {c : Char} {xs zs : List Char}
    (h : substitute entities c = xs ++ '&' :: zs) : ∃ row ∈ entities, row.2.toList = '&' :: zs := by
  obtain ⟨hself, hne⟩ | ⟨row, hrow, -, hentity⟩ := substitute_eq_or entities c
  · -- The ampersand does not stand for itself.
    have hmem : '&' ∈ [c] := by
      rw [← hself, h]
      exact List.mem_append_right _ List.mem_cons_self
    exact absurd (List.mem_singleton.1 hmem).symm (hne ('&', "&amp;") List.mem_cons_self)
  · obtain ⟨tail, htail, hnone⟩ := exists_tail_of_mem_entities hrow
    rw [hentity, htail] at h
    cases xs with
    | nil => exact ⟨row, hrow, htail.trans h⟩
    | cons x xs =>
      obtain ⟨-, rfl⟩ := List.cons.inj h
      exact absurd (List.mem_append_right _ List.mem_cons_self) hnone

/-- `escapeChars` writes an ampersand only where an entity begins. -/
theorem exists_entity_of_escapeChars_eq {cs xs ys : List Char}
    (h : escapeChars cs = xs ++ '&' :: ys) : ∃ row ∈ entities, row.2.toList <+: '&' :: ys := by
  induction cs generalizing xs with
  | nil => simp at h
  | cons c cs ih =>
    rw [escapeChars_cons, List.append_eq_append_iff] at h
    -- The ampersand stands behind what the first character is written as, or in it.
    obtain ⟨zs, -, hrest⟩ | ⟨zs, hfirst, hsplit⟩ := h
    · exact ih hrest
    · cases zs with
      | nil =>
        have hfront : escapeChars cs = [] ++ '&' :: ys := hsplit.symm
        exact ih hfront
      | cons z zs =>
        obtain ⟨rfl, rfl⟩ := List.cons.inj hsplit
        obtain ⟨row, hrow, hentity⟩ := exists_entity_of_substitute_eq hfirst
        exact ⟨row, hrow, hentity ▸ List.prefix_append _ _⟩

/-! ## Reading back -/

/-- The row of the entity that a text begins with. -/
def entityAt? (cs : List Char) : Option (Char × String) :=
  entities.find? fun row => row.2.toList.isPrefixOf cs

/-- A text with the entities in it read as the characters they stand for. -/
def unescape : List Char → List Char
  | [] => []
  | c :: cs =>
    match entityAt? (c :: cs) with
    | some row => row.1 :: unescape (cs.drop (row.2.toList.length - 1))
    | none => c :: unescape cs
termination_by cs => cs.length
decreasing_by
  · simp only [List.length_drop, List.length_cons]; omega
  · simp

/-- `entityAt?` finds the entity that a text begins with. -/
theorem entityAt?_append {row : Char × String} (h : row ∈ entities) (rest : List Char) :
    entityAt? (row.2.toList ++ rest) = some row := by
  simp only [entities, List.mem_cons, List.not_mem_nil, or_false] at h
  -- No entity is the beginning of another one.
  rcases h with rfl | rfl | rfl | rfl | rfl <;> simp [entityAt?, entities]

/-- `entityAt?` finds nothing where no ampersand stands. -/
theorem entityAt?_of_ne {c : Char} (h : c ≠ '&') (rest : List Char) :
    entityAt? (c :: rest) = none := by
  rw [entityAt?, List.find?_eq_none]
  intro row hrow
  obtain ⟨tail, htail, -⟩ := exists_tail_of_mem_entities hrow
  simp [htail, h.symm]

/-- `unescape` reads an entity as the character it stands for. -/
theorem unescape_entity_append {row : Char × String} (h : row ∈ entities) (rest : List Char) :
    unescape (row.2.toList ++ rest) = row.1 :: unescape rest := by
  have hfound := entityAt?_append h rest
  obtain ⟨tail, htail, -⟩ := exists_tail_of_mem_entities h
  rw [htail, List.cons_append] at hfound ⊢
  rw [unescape, hfound]
  simp [htail]

/-- `unescape` leaves any character but the ampersand alone. -/
theorem unescape_cons_of_ne {c : Char} (h : c ≠ '&') (rest : List Char) :
    unescape (c :: rest) = c :: unescape rest := by
  rw [unescape, entityAt?_of_ne h]

/-- `unescape` reads an escaped text back as what it was. -/
theorem unescape_escapeChars (cs : List Char) : unescape (escapeChars cs) = cs := by
  induction cs with
  | nil => rw [escapeChars_nil, unescape]
  | cons c cs ih =>
    rw [escapeChars_cons]
    obtain ⟨hself, hne⟩ | ⟨row, hrow, rfl, hentity⟩ := substitute_eq_or entities c
    · have hamp : c ≠ '&' := hne ('&', "&amp;") List.mem_cons_self
      rw [hself, List.singleton_append, unescape_cons_of_ne hamp, ih]
    · rw [hentity, unescape_entity_append hrow, ih]

/-- `escapeChars` is injective, since `unescape` undoes it. -/
theorem escapeChars_inj {cs cs' : List Char} : escapeChars cs = escapeChars cs' ↔ cs = cs' := by
  constructor
  · intro h
    rw [← unescape_escapeChars cs, h, unescape_escapeChars]
  · rintro rfl
    rfl

/-! ## Lines -/

/-- `substitute` writes no part of a line end, unless it is there. -/
theorem eq_of_mem_substitute {c d : Char} (hd : d = '\r' ∨ d = '\n')
    (h : d ∈ substitute entities c) : c = d := by
  obtain ⟨hself, -⟩ | ⟨row, hrow, -, hentity⟩ := substitute_eq_or entities c
  · rw [hself] at h
    exact (List.mem_singleton.1 h).symm
  · rw [hentity] at h
    simp only [entities, List.mem_cons, List.not_mem_nil, or_false] at hrow
    rcases hd with rfl | rfl <;> rcases hrow with rfl | rfl | rfl | rfl | rfl <;> simp at h

/-- `escapeChars` begins a text with a line feed only if it was there. -/
theorem head?_escapeChars_ne {cs : List Char} (h : cs.head? ≠ some '\n') :
    (escapeChars cs).head? ≠ some '\n' := by
  cases cs with
  | nil => simp
  | cons c cs =>
    rw [escapeChars_cons]
    obtain ⟨hself, -⟩ | ⟨row, hrow, -, hentity⟩ := substitute_eq_or entities c
    · rw [hself]
      exact h
    · obtain ⟨tail, htail, -⟩ := exists_tail_of_mem_entities hrow
      rw [hentity, htail]
      simp

/-- `lines` of an escaped text are the escaped lines. -/
theorem lines_escapeChars (cs : List Char) :
    lines (escapeChars cs) = (lines cs).map escapeChars := by
  induction cs using lines_induction with
  | nil => rfl
  | returnLineFeed rest ih =>
    show lines ('\r' :: '\n' :: escapeChars rest) = _
    rw [lines, lines, ih, List.map_cons, escapeChars_nil]
  | lineFeed rest ih =>
    show lines ('\n' :: escapeChars rest) = _
    rw [lines, lines, ih, List.map_cons, escapeChars_nil]
  | other c rest h ih =>
    have hline : '\n' ∉ substitute entities c := fun hmem =>
      h.1 (eq_of_mem_substitute (.inr rfl) hmem)
    -- What stands for the character ends in a carriage return only if it is one, and then no line
    -- feed follows.
    have hreturn : (substitute entities c).getLast? = some '\r' →
        (escapeChars rest).head? ≠ some '\n' := by
      intro hlast
      have hc : c = '\r' := eq_of_mem_substitute (.inl rfl) (List.mem_of_getLast? hlast)
      exact head?_escapeChars_ne (h.2 hc)
    obtain ⟨first, ls, hls⟩ := List.exists_cons_of_ne_nil (lines_ne_nil rest)
    rw [escapeChars_cons, lines_append hline hreturn, ih, lines_cons h, hls, List.map_cons,
      foldr_consFirst, consFirst, List.map_cons, escapeChars_cons]

/-- `join` of an escaped text is its lines, escaped one by one, with a mark between each two. -/
theorem join_escapeChars (mark cs : List Char) :
    join mark (escapeChars cs) = mark.intercalate ((lines cs).map escapeChars) := by
  rw [join, lines_escapeChars]

/-- `separated` is written with the separator between each two nodes. -/
theorem charsAll_separated (separator : Node) (ns : List Node) :
    Node.charsAll (separated separator ns) = separator.chars.intercalate (ns.map Node.chars) := by
  induction ns with
  | nil => rfl
  | cons n ns ih =>
    cases ns with
    | nil => simp [separated, Node.charsAll]
    | cons m ms =>
      have hne : (m :: ms).map Node.chars ≠ [] := by simp
      have hstep : separated separator (n :: m :: ms) =
          n :: separator :: separated separator (m :: ms) := rfl
      rw [hstep, Node.charsAll, Node.charsAll, ih, ← List.append_assoc]
      exact (List.intercalate_cons_of_ne_nil hne).symm

/-- `multiline` is written with line breaks between the escaped lines. -/
theorem charsAll_multiline (s : String) :
    Node.charsAll (multiline s) = join "<br>".toList (escapeChars s.toList) := by
  have hbreak : lineBreak.chars = "<br>".toList := by decide
  have hlines : (fun line => (Node.text (String.ofList line)).chars) = escapeChars := by
    funext line
    rw [Node.chars, String.toList_ofList]
  rw [multiline, charsAll_separated, hbreak, List.map_map, join_escapeChars]
  exact congrArg _ (congrArg (fun f => List.map f (lines s.toList)) hlines)

/-! ## The texts that are written -/

/-- `escape` works in one pass as well as by replacing its characters in turn, over the whole text;
nothing is left in it that markup is made of, an ampersand begins an entity, and `unescape` reads
the text back.  `multiline` escapes the lines of a text one by one, with line breaks for the line
ends; that too can be done by replacing in turn, the longer line ends first.  A carriage return that
ends no line stays. -/
theorem escaping_faithful (s : String) :
    (escape s).toList = replaceInTurn entities s.toList ∧
    (escape s).toList = s.toList.flatMap (substitute entities) ∧
    (∀ c ∈ ['<', '>', '"', '\''], c ∉ (escape s).toList) ∧
    (∀ xs ys, (escape s).toList = xs ++ '&' :: ys →
      ∃ row ∈ entities, row.2.toList <+: '&' :: ys) ∧
    unescape (escape s).toList = s.toList ∧
    (∀ t, escape s = escape t ↔ s = t) ∧
    (∀ t, escape (s ++ t) = escape s ++ escape t) ∧
    (Node.html (multiline s)).toList =
      replaceAll ['\n'] "<br>".toList (replaceAll ['\r', '\n'] ['\n'] (escape s).toList) ∧
    (∀ ls, IsLines s.toList ls ↔ ls = lines s.toList) ∧
    Node.html (multiline s) =
      "<br>".intercalate ((lines s.toList).map fun line => escape (String.ofList line)) ∧
    '\n' ∉ (Node.html (multiline s)).toList ∧
    ∀ xs ys, s.toList = xs ++ '\r' :: ys → ys.head? ≠ some '\n' →
      Node.html (multiline s) = Node.html (multiline (String.ofList xs)) ++ "\r" ++
        Node.html (multiline (String.ofList ys)) := by
  have hescape : (escape s).toList = escapeChars s.toList := String.toList_ofList
  have hwritten : ∀ t : String,
      (Node.html (multiline t)).toList = join "<br>".toList (escapeChars t.toList) := by
    intro t
    rw [Node.toList_html, charsAll_multiline]
  rw [hescape]
  refine ⟨?_, escapeChars_eq_flatMap _, ?_, fun _ _ => exists_entity_of_escapeChars_eq,
    unescape_escapeChars _, ?_, ?_, ?_, fun _ => isLines_iff, ?_, ?_, ?_⟩
  · rw [replaceInTurn_eq_flatMap settled_entities, escapeChars_eq_flatMap]
  · intro c hc hmem
    have hplain := not_isMarkup_of_mem_escapeChars hmem
    simp only [List.mem_cons, List.not_mem_nil, or_false] at hc
    rcases hc with rfl | rfl | rfl | rfl <;> exact absurd hplain (by decide)
  · intro t
    rw [← String.toList_inj, hescape, escape, String.toList_ofList, escapeChars_inj,
      String.toList_inj]
  · intro t
    rw [escape, String.toList_append, escapeChars_append, String.ofList_append, escape, escape]
  · rw [hwritten, replaceAll_lineFeed_eq_join]
  · rw [← String.toList_inj, hwritten, join_escapeChars, String.toList_intercalate, List.map_map]
    congr 1
    apply List.map_congr_left
    intro line _
    simp [escape]
  · rw [hwritten]
    exact lineFeed_notMem_join _ (by decide) _
  · -- A return that no line feed follows ends no line, and is written as it is.
    intro xs ys hs hys
    have hreturn : escapeChars ('\r' :: ys) = '\r' :: escapeChars ys := rfl
    rw [← String.toList_inj, hwritten, hs, escapeChars_append, hreturn,
      join_append_return _ _ (head?_escapeChars_ne hys)]
    simp [String.toList_append, hwritten]

/-- A carriage return between two characters that are escaped. -/
theorem escaping_faithful_return :
    ("<\r&".toList = "<".toList ++ '\r' :: "&".toList ∧ "&".toList.head? ≠ some '\n' ∧
      (escape "<\r&").toList = "&lt;\r".toList ++ '&' :: "amp;".toList) ∧
    Node.html (multiline "<\r&") =
      Node.html (multiline "<") ++ "\r" ++ Node.html (multiline "&") ∧
    ∃ row ∈ entities, row.2.toList <+: '&' :: "amp;".toList := by
  have htext : "<\r&".toList = "<".toList ++ '\r' :: "&".toList := by decide
  have hnext : "&".toList.head? ≠ some '\n' := by decide
  have hescaped : (escape "<\r&").toList = "&lt;\r".toList ++ '&' :: "amp;".toList := by decide
  obtain ⟨-, -, -, hentity, -, -, -, -, -, -, -, hreturn⟩ := escaping_faithful "<\r&"
  refine ⟨⟨htext, hnext, hescaped⟩, ?_, hentity _ _ hescaped⟩
  simpa only [String.ofList_toList] using hreturn _ _ htext hnext

end Bulletin.Html
