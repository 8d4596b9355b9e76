import Bulletin.Text.Lines

/-!
# Files

A file tree holds what a command finds on its machine, seen from the working directory.  A path is
followed name by name, and each name but the last must be a directory's; so a path with a step up
through a missing directory leads nowhere.

One file is a device of the output, as `/dev/stdout` is: a text that is written to it shows up on the
output, and no file changes.

`FileTree.eq_put_of_write` says what writing changes: the file, and with `FileTree.get?_put_of_ne`
nothing else.
-/

namespace Bulletin

/-- Why a file is not read or written. -/
inductive FileError where
  | notFound
  | notDirectory
  | isDirectory
  /-- The bytes of the file are no text. -/
  | notText
  /-- Another reason that the machine gives. -/
  | other (reason : String)
deriving DecidableEq

/-- The wording of an error. -/
def FileError.message : FileError → String
  | .notFound => "No such file or directory (os error 2)"
  | .notDirectory => "Not a directory (os error 20)"
  | .isDirectory => "Is a directory (os error 21)"
  | .notText => "stream did not contain valid UTF-8"
  | .other reason => reason

/-! ## Paths -/

/-- The pieces of a path between its slashes. -/
def pathPieces : List Char → List (List Char)
  | [] => [[]]
  | '/' :: rest => [] :: pathPieces rest
  | c :: rest => Text.consFirst c (pathPieces rest)

/-- The names in a path. -/
def pathNames (path : String) : List String :=
  (pathPieces path.toList).filterMap fun piece =>
    if piece.isEmpty then none else some (String.ofList piece)

/-- The extension of the file that a path names: what stands behind the last point of its last name,
unless the name only starts with a point. -/
def pathExtension? (path : String) : Option String :=
  let name := ((pathNames path).getLast?.getD "").toList.reverse
  match name.dropWhile (· ≠ '.') with
  | _ :: _ :: _ => some (String.ofList (name.takeWhile (· ≠ '.')).reverse)
  | _ => none

/-- A place that a path leads to: steps up from the working directory, or a step to the root, and
then names. -/
abbrev Place := List String

/-- The name of a step up. -/
def stepUp : String := ".."

/-- The name of the step to the root. -/
def stepToRoot : String := "/"

/-- The place at which a path starts. -/
def startOf (path : String) : Place := if path.toList.head? = some '/' then [stepToRoot] else []

/-- A place that lies above the working directory, or the root. -/
def Place.isAbove (p : Place) : Bool := p.all (· = stepUp) || p = [stepToRoot]

/-- The directory around a place. -/
def Place.parent (p : Place) : Place :=
  if p = [stepToRoot] then p else if p.all (· = stepUp) then p ++ [stepUp] else p.dropLast

/-! ## The tree -/

/-- What stands at a place. -/
inductive Entry where
  | text (content : String)
  /-- A file whose bytes are no text. -/
  | binary
  | directory
  /-- A device that hands what is written to it on to the output, and cannot be read. -/
  | output
deriving DecidableEq

/-- The files and directories of a machine. -/
structure FileTree where
  entries : List (Place × Entry)

namespace FileTree

/-- What stands at a place. -/
def get? (t : FileTree) (p : Place) : Option Entry :=
  if p.isAbove then some .directory else t.entries.lookup p

/-- The tree with an entry at a place, instead of what stood there. -/
def put (t : FileTree) (p : Place) (e : Entry) : FileTree :=
  ⟨(p, e) :: t.entries.filter fun f => f.1 ≠ p⟩

/-- Goes from a directory to what a name in it leads to, which must be a directory too. -/
def enter (t : FileTree) (p : Place) (name : String) : Except FileError Place :=
  if name = "." then .ok p
  else if name = ".." then .ok p.parent
  else
    match t.get? (p ++ [name]) with
    | some .directory => .ok (p ++ [name])
    | some _ => .error .notDirectory
    | none => .error .notFound

/-- The place a path leads to, which need not hold anything. -/
def locate (t : FileTree) (path : String) : Except FileError Place := do
  let names := pathNames path
  let p ← names.dropLast.foldlM t.enter (startOf path)
  match names.getLast? with
  | none => if path.isEmpty then .error .notFound else .ok p
  | some name => if name = "." || name = ".." then t.enter p name else .ok (p ++ [name])

/-- Does a path end with a slash? -/
def endsWithSlash (path : String) : Bool := path.toList.getLast? = some '/'

/-- Reads the text of a file. -/
def read (t : FileTree) (path : String) : Except FileError String := do
  match t.get? (← t.locate path) with
  | none => .error .notFound
  | some .directory => .error .isDirectory
  | some (.text s) => if endsWithSlash path then .error .notDirectory else .ok s
  | some .binary => .error (if endsWithSlash path then .notDirectory else .notText)
  | some .output => .error (.other "Permission denied (os error 13)")

/-- Does a path lead to a device of the output? -/
def isOutput (t : FileTree) (path : String) : Bool :=
  match t.locate path with
  | .ok p => t.get? p = some .output && !endsWithSlash path
  | .error _ => false

/-- Writes the text of a file, which is created if it is missing.  What is written to a device of
the output is no change of the tree, so `isOutput` is to be asked first. -/
def write (t : FileTree) (path : String) (s : String) : Except FileError FileTree := do
  let p ← t.locate path
  if endsWithSlash path || t.get? p = some .directory then .error .isDirectory
  else .ok (t.put p (.text s))

/-- Adds an entry, with the directories around it. -/
def add (t : FileTree) (path : String) (e : Entry) : FileTree :=
  let names := pathNames path
  let missing := (List.range names.length).filterMap fun n =>
    let p := names.take n
    if (t.get? p).isNone then some (p, Entry.directory) else none
  FileTree.put ⟨t.entries ++ missing⟩ names e

/-- Where every machine has a device of its output: at `/dev/stdout`. -/
def outputDevice : Place := [stepToRoot, "dev", "stdout"]

/-- The tree of these entries, by path, on a machine with a device of its output. -/
def ofEntries (entries : List (String × Entry)) : FileTree :=
  entries.foldl (fun t e => t.add e.1 e.2)
    ⟨[(outputDevice.dropLast, .directory), (outputDevice, .output)]⟩

/-- `get?` finds what `put` has put there, unless a directory above is asked for. -/
theorem get?_put_self {t : FileTree} {p : Place} {e : Entry} (h : p.isAbove = false) :
    (t.put p e).get? p = some e := by
  simp [get?, put, h]

/-- `get?` finds at other places what was there before `put`. -/
theorem get?_put_of_ne {t : FileTree} {p q : Place} {e : Entry} (h : q ≠ p) :
    (t.put p e).get? q = t.get? q := by
  have lookup_filter (es : List (Place × Entry)) :
      (es.filter fun f => f.1 ≠ p).lookup q = es.lookup q := by
    induction es with
    | nil => rfl
    | cons f rest ih =>
      obtain ⟨r, e'⟩ := f
      by_cases hr : r = p
      · subst hr
        have hq : (q == r) = false := beq_false_of_ne h
        rw [List.filter_cons_of_neg (by simp), List.lookup_cons, hq, ih]
      · rw [List.filter_cons_of_pos (by simpa using hr), List.lookup_cons, List.lookup_cons, ih]
  have hp : (q == p) = false := beq_false_of_ne h
  simp only [get?, put, List.lookup_cons, hp, lookup_filter]

/-- Writing puts the text where the path leads. -/
theorem eq_put_of_write {t t' : FileTree} {path s : String} (h : t.write path s = .ok t') :
    ∃ p, t.locate path = .ok p ∧ t' = t.put p (.text s) := by
  unfold write at h
  cases hp : t.locate path with
  | error e => rw [hp] at h; cases h
  | ok p =>
    rw [hp] at h
    refine ⟨p, rfl, ?_⟩
    simp only [bind, Except.bind] at h
    split at h
    · cases h
    · exact (Except.ok.inj h).symm

end FileTree

end Bulletin
