import Bulletin.Proofs.Text.Replace
import Bulletin.Text.Lines

/-!
# Lines as they stand in a text

A text falls into lines in one way: no line holds a line feed, each but the last is followed by a
line end, and a carriage return in front of a line feed is part of the line end.  Joining the lines
by a mark is what two rounds of replacing do, the long line ends first.

## Main statements

- `isLines_iff`: the lines of a text are the ones it falls into
- `replaceAll_lineFeed_eq_join`: replacing the line ends joins the lines
- `join_append_return`: a carriage return that ends no line stays where it is
-/

namespace Bulletin.Text

/-- A text falls into lines. -/
inductive IsLines : List Char → List (List Char) → Prop where
  | last {line : List Char} (hline : '\n' ∉ line) : IsLines line [line]
  /-- A line feed of its own: a carriage return before it would belong to it. -/
  | lineFeed {line rest : List Char} {ls : List (List Char)} (hline : '\n' ∉ line)
      (hreturn : line.getLast? ≠ some '\r') (hrest : IsLines rest ls) :
      IsLines (line ++ '\n' :: rest) (line :: ls)
  | returnLineFeed {line rest : List Char} {ls : List (List Char)} (hline : '\n' ∉ line)
      (hrest : IsLines rest ls) : IsLines (line ++ '\r' :: '\n' :: rest) (line :: ls)

/-- No line ends at the front of a text. -/
def NoEnd (c : Char) (rest : List Char) : Prop := c ≠ '\n' ∧ (c = '\r' → rest.head? ≠ some '\n')

section Lines

variable {c : Char} {rest line : List Char} {ls : List (List Char)}

/-- `NoEnd` still holds in front of more text, unless that begins with a line feed. -/
theorem NoEnd.append (h : NoEnd c rest) {more : List Char} (hmore : more.head? ≠ some '\n') :
    NoEnd c (rest ++ more) := by
  refine ⟨h.1, ?_⟩
  intro hc
  cases rest with
  | nil => exact hmore
  | cons d rest => exact h.2 hc

/-- `lines` puts a character that ends no line in front of the first line. -/
theorem lines_cons (h : NoEnd c rest) : lines (c :: rest) = consFirst c (lines rest) := by
  -- The fourth equation of `lines` is the one for any other character.
  obtain ⟨hc, hreturn⟩ := h
  rw [lines.eq_4]
  · rintro rest' rfl rfl
    exact hreturn rfl rfl
  · exact hc

/-- An induction along the line ends of a text, with one case for each equation of `lines`. -/
theorem lines_induction {motive : List Char → Prop} (nil : motive [])
    (returnLineFeed : ∀ rest, motive rest → motive ('\r' :: '\n' :: rest))
    (lineFeed : ∀ rest, motive rest → motive ('\n' :: rest))
    (other : ∀ c rest, NoEnd c rest → motive rest → motive (c :: rest)) (cs : List Char) :
    motive cs := by
  fun_induction lines cs with
  | case1 => exact nil
  | case2 rest ih => exact returnLineFeed rest ih
  | case3 rest ih => exact lineFeed rest ih
  | case4 c rest hlong hshort ih =>
    refine other c rest ⟨hshort, ?_⟩ ih
    rintro rfl hhead
    obtain ⟨rest', rfl⟩ := List.head?_eq_some_iff.1 hhead
    exact hlong rest' rfl rfl

/-- `consFirst` keeps a text and its lines together. -/
theorem IsLines.consFirst (h : NoEnd c rest) (hls : IsLines rest ls) :
    IsLines (c :: rest) (consFirst c ls) := by
  obtain ⟨hc, hreturn⟩ := h
  have hnotMem : ∀ {line : List Char}, '\n' ∉ line → '\n' ∉ c :: line := by
    intro line hline
    rw [List.mem_cons, not_or]
    exact ⟨hc.symm, hline⟩
  -- The character joins the first line, whichever line end that has.
  cases hls with
  | last hline => exact .last (hnotMem hline)
  | @lineFeed line rest ls hline hlast hrest =>
    refine .lineFeed (hnotMem hline) ?_ hrest
    -- The line does not end with a return, or its return would be the new character.
    cases line with
    | nil =>
      intro hlast'
      exact hreturn (Option.some.inj hlast') rfl
    | cons d line => rwa [List.getLast?_cons_cons]
  | returnLineFeed hline hrest => exact .returnLineFeed (hnotMem hline) hrest

/-- `lines` are lines that a text falls into. -/
theorem isLines_lines (cs : List Char) : IsLines cs (lines cs) := by
  induction cs using lines_induction with
  | nil => exact .last List.not_mem_nil
  | returnLineFeed rest ih => exact .returnLineFeed List.not_mem_nil ih
  | lineFeed rest ih => exact .lineFeed List.not_mem_nil nofun ih
  | other c rest h ih =>
    rw [lines_cons h]
    exact ih.consFirst h

/-- `lines` puts a whole line in front of the first line of what follows, where it cannot end early.
-/
theorem lines_append (hline : '\n' ∉ line)
    (hreturn : line.getLast? = some '\r' → rest.head? ≠ some '\n') :
    lines (line ++ rest) = line.foldr consFirst (lines rest) := by
  induction line with
  | nil => rfl
  | cons c line ih =>
    rw [List.mem_cons, not_or] at hline
    -- No character of the line is a line end, since its return, if it ends with one, is not
    -- followed by a line feed.
    have hnoEnd : NoEnd c (line ++ rest) := by
      refine ⟨fun h => hline.1 h.symm, ?_⟩
      rintro rfl
      cases line with
      | nil => exact hreturn rfl
      | cons d line =>
        intro hd
        obtain rfl : d = '\n' := Option.some.inj hd
        exact hline.2 List.mem_cons_self
    rw [List.cons_append, lines_cons hnoEnd, List.foldr_cons, ih hline.2]
    intro hlast
    apply hreturn
    cases line with
    | nil => cases hlast
    | cons d line => rwa [List.getLast?_cons_cons]

/-- Putting the characters of a line in front of the first line, one by one, appends the line. -/
theorem foldr_consFirst (line first : List Char) (ls : List (List Char)) :
    line.foldr consFirst (first :: ls) = (line ++ first) :: ls := by
  induction line with
  | nil => rfl
  | cons c line ih => rw [List.foldr_cons, ih, consFirst, List.cons_append]

/-- A text falls into its `lines`, and into no others. -/
theorem isLines_iff {cs : List Char} : IsLines cs ls ↔ ls = lines cs := by
  constructor
  · -- By induction on the way it falls into lines: each line is taken as a whole.
    intro h
    induction h with
    | @last line hline =>
      have hself := @lines_append [] line hline fun _ => nofun
      rw [List.append_nil, lines, foldr_consFirst, List.append_nil] at hself
      exact hself.symm
    | lineFeed hline hlast _ ih =>
      rw [lines_append hline fun h => absurd h hlast, lines, foldr_consFirst, List.append_nil, ih]
    | returnLineFeed hline _ ih =>
      rw [lines_append hline fun _ => by simp, lines, foldr_consFirst, List.append_nil, ih]
  · rintro rfl
    exact isLines_lines cs

end Lines

/-! ## Joining -/

section Joining

variable (mark : List Char)

/-- The lines of a text with a mark between each two. -/
def join (cs : List Char) : List Char := mark.intercalate (lines cs)

/-- `join` of the empty text, which has one empty line, is empty. -/
@[simp] theorem join_nil : join mark [] = [] := by
  rw [join, lines, List.intercalate_singleton]

/-- `join` puts the mark where a long line end stands. -/
@[simp] theorem join_returnLineFeed (rest : List Char) :
    join mark ('\r' :: '\n' :: rest) = mark ++ join mark rest := by
  rw [join, lines, List.intercalate_cons_of_ne_nil (lines_ne_nil rest), List.nil_append, join]

/-- `join` puts the mark where a line feed stands. -/
@[simp] theorem join_lineFeed (rest : List Char) :
    join mark ('\n' :: rest) = mark ++ join mark rest := by
  rw [join, lines, List.intercalate_cons_of_ne_nil (lines_ne_nil rest), List.nil_append, join]

/-- `join` keeps a character that ends no line. -/
theorem join_cons {c : Char} {rest : List Char} (h : NoEnd c rest) :
    join mark (c :: rest) = c :: join mark rest := by
  rw [join, lines_cons h, join]
  -- The first line takes the character; whether others follow makes no difference to it.
  obtain ⟨first, ls, hls⟩ := List.exists_cons_of_ne_nil (lines_ne_nil rest)
  rw [hls, consFirst]
  cases ls with
  | nil => rw [List.intercalate_singleton, List.intercalate_singleton]
  | cons second ls =>
    rw [List.intercalate_cons_cons, List.intercalate_cons_cons]
    rfl

/-- `replaceAll`, first of the long line ends by short ones and then of these by a mark, joins the
lines. -/
theorem replaceAll_lineFeed_eq_join (cs : List Char) :
    replaceAll ['\n'] mark (replaceAll ['\r', '\n'] ['\n'] cs) = join mark cs := by
  have hfeed : ∀ rest,
      replaceAll ['\n'] mark ('\n' :: rest) = mark ++ replaceAll ['\n'] mark rest :=
    replaceAll_self_append (List.cons_ne_nil _ _)
  induction cs using lines_induction with
  | nil => simp [replaceAll]
  | returnLineFeed rest ih =>
    -- The two characters of the long line end are replaced at once.
    have hlong := @replaceAll_self_append ['\r', '\n'] ['\n'] (List.cons_ne_nil _ _) rest
    rw [List.cons_append, List.cons_append, List.nil_append, List.cons_append,
      List.nil_append] at hlong
    rw [hlong, hfeed, ih, join_returnLineFeed]
  | lineFeed rest ih =>
    have hkept : replaceAll ['\r', '\n'] ['\n'] ('\n' :: rest) =
        '\n' :: replaceAll ['\r', '\n'] ['\n'] rest := by
      rw [replaceAll, if_neg]
      rintro ⟨-, hbegins⟩
      simp at hbegins
    rw [hkept, hfeed, ih, join_lineFeed]
  | other c rest h ih =>
    have hkept : replaceAll ['\r', '\n'] ['\n'] (c :: rest) =
        c :: replaceAll ['\r', '\n'] ['\n'] rest := by
      rw [replaceAll, if_neg]
      rintro ⟨-, hbegins⟩
      obtain ⟨hc, hrest⟩ : '\r' = c ∧ ['\n'] <+: rest := by simpa using hbegins
      obtain ⟨rest', rfl⟩ := hrest
      exact h.2 hc.symm rfl
    have hc : c ∉ ['\n'] := by simpa using h.1
    rw [hkept, replaceAll_cons_of_notMem hc, ih, join_cons mark h]

/-- `join` leaves a carriage return that ends no line where it is. -/
theorem join_append_return (xs : List Char) {ys : List Char} (hys : ys.head? ≠ some '\n') :
    join mark (xs ++ '\r' :: ys) = join mark xs ++ '\r' :: join mark ys := by
  have hnoEnd : NoEnd '\r' ys := ⟨by decide, fun _ => hys⟩
  induction xs using lines_induction with
  | nil => rw [List.nil_append, join_cons mark hnoEnd, join_nil, List.nil_append]
  | returnLineFeed rest ih =>
    rw [List.cons_append, List.cons_append, join_returnLineFeed, ih, join_returnLineFeed,
      List.append_assoc]
  | lineFeed rest ih => rw [List.cons_append, join_lineFeed, ih, join_lineFeed, List.append_assoc]
  | other c rest h ih =>
    rw [List.cons_append, join_cons mark (h.append (by simp)), ih, join_cons mark h,
      List.cons_append]

/-- `join` leaves no line feed, if the mark has none. -/
theorem lineFeed_notMem_join (hmark : '\n' ∉ mark) (cs : List Char) : '\n' ∉ join mark cs := by
  induction cs using lines_induction with
  | nil => simp
  | returnLineFeed rest ih => simp [hmark, ih]
  | lineFeed rest ih => simp [hmark, ih]
  | other c rest h ih =>
    rw [join_cons mark h, List.mem_cons, not_or]
    exact ⟨h.1.symm, ih⟩

end Joining

end Bulletin.Text
