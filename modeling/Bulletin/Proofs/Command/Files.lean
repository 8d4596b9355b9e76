import Bulletin.Command.Report

/-!
# Writing a file

A file that is written can be read back under the path it was written to, and what stands at any
other place stays.  The path is followed as before: what is written is no directory, and a path goes
through directories only.

## Main statements

- `FileTree.Replaces`: what a written file changes in a tree
- `FileTree.replaces_of_write`: writing changes no more than that
-/

namespace Bulletin

/-- Why a computation fails, if it does. -/
def failureOf? {ε α : Type} : Except ε α → Option ε
  | .ok _ => none
  | .error e => some e

/-- `failureOf?` of a result is `none`. -/
@[simp] theorem failureOf?_ok {ε α : Type} (a : α) : failureOf? (.ok a : Except ε α) = none := rfl

/-- `failureOf?` of an error is that error. -/
@[simp] theorem failureOf?_error {ε α : Type} (e : ε) :
    failureOf? (.error e : Except ε α) = some e := rfl

/-- `Except.mapError` comes to a result if the computation comes to it. -/
@[simp] theorem mapError_eq_ok_iff {ε ε' α : Type} {x : Except ε α} {f : ε → ε'} {a : α} :
    x.mapError f = .ok a ↔ x = .ok a := by
  cases x with
  | error e => exact ⟨fun h => (nomatch h), fun h => (nomatch h)⟩
  | ok b => exact ⟨fun h => congrArg _ (Except.ok.inj h), fun h => congrArg _ (Except.ok.inj h)⟩

namespace FileTree

variable {t t' : FileTree} {p q q' : Place}

/-- The trees differ in the file of this path only, which holds the text in the second one. -/
def Replaces (t t' : FileTree) (path text : String) : Prop :=
  ∃ p, t.locate path = .ok p ∧ t'.read path = .ok text ∧ ∀ q ≠ p, t'.get? q = t.get? q

/-- `isAbove` is false of a place without a directory. -/
theorem isAbove_of_ne_directory (h : t.get? p ≠ some .directory) : p.isAbove = false := by
  rw [Bool.eq_false_iff]
  intro habove
  exact h (by rw [get?, if_pos habove])

section Put

variable (hfile : t.get? p ≠ some .directory) (text : String)

include hfile

/-- `enter` leads where it led before `put`: it leads to a directory, which is not replaced. -/
theorem enter_put {name : String} (h : t.enter q name = .ok q') :
    (t.put p (.text text)).enter q name = .ok q' := by
  unfold enter at h ⊢
  split
  · simp_all
  · split
    · simp_all
    · rename_i hdot hup
      rw [if_neg hdot, if_neg hup] at h
      -- The name is that of a directory, so it is not the file.
      have hdirectory : t.get? (q ++ [name]) = some .directory := by
        split at h
        · assumption
        · cases h
        · cases h
      have hne : q ++ [name] ≠ p := by
        rintro rfl
        exact hfile hdirectory
      rw [get?_put_of_ne hne, hdirectory]
      rwa [hdirectory] at h

/-- `enter` repeated leads where it led before `put`. -/
theorem foldlM_enter_put {names : List String} (h : names.foldlM t.enter q = .ok q') :
    names.foldlM (t.put p (.text text)).enter q = .ok q' := by
  induction names generalizing q with
  | nil => exact h
  | cons name names ih =>
    -- The first step leads where it led, and the others start from there.
    rw [List.foldlM_cons] at h ⊢
    cases hstep : t.enter q name with
    | error e =>
      rw [hstep] at h
      cases h
    | ok r =>
      rw [hstep] at h
      rw [enter_put hfile text hstep]
      exact ih h

/-- `locate` leads where it led before `put`. -/
theorem locate_put {path : String} (h : t.locate path = .ok q) :
    (t.put p (.text text)).locate path = .ok q := by
  unfold locate at h ⊢
  dsimp only at h ⊢
  cases hsteps : (pathNames path).dropLast.foldlM t.enter (startOf path) with
  | error e =>
    rw [hsteps] at h
    cases h
  | ok r =>
    rw [hsteps] at h
    rw [foldlM_enter_put hfile text hsteps]
    -- The last name may be a pair of dots, and is entered then.
    simp only [bind, Except.bind] at h ⊢
    split at h
    · exact h
    · split at h
      · rename_i hdots
        rw [if_pos hdots]
        exact enter_put hfile text h
      · rename_i hdots
        rw [if_neg hdots]
        exact h

end Put

/-- `write` replaces the file and changes nothing else. -/
theorem replaces_of_write {path text : String} (h : t.write path text = .ok t') :
    t.Replaces t' path text := by
  obtain ⟨p, hp, rfl⟩ := eq_put_of_write h
  -- Neither a directory nor a path with a slash at its end can be written.
  have hwrite : endsWithSlash path = false ∧ t.get? p ≠ some .directory := by
    rw [write, hp] at h
    simp only [bind, Except.bind] at h
    split at h
    · cases h
    · simp_all
  obtain ⟨hslash, hfile⟩ := hwrite
  refine ⟨p, hp, ?_, fun q hq => get?_put_of_ne hq⟩
  rw [read, locate_put hfile text hp]
  simp [bind, Except.bind, get?_put_self (isAbove_of_ne_directory hfile), hslash]

/-- `write` fails or not whatever the text is. -/
theorem failureOf?_write (t : FileTree) (path text text' : String) :
    failureOf? (t.write path text) = failureOf? (t.write path text') := by
  unfold write
  cases t.locate path with
  | error e => rfl
  | ok p =>
    simp only [bind, Except.bind]
    split <;> rfl

end FileTree

end Bulletin
