import Bulletin.Json.Lexeme

/-!
# Reading JSON text

`Json.parse` reads a whole text as one value.  Lists and objects open at most 127 levels, and of
two members with one key the later stays.

`skipValue` passes over a value that nobody asks for.  It is a reader of its own because it is more
lenient than `readValue`: it builds nothing, so numbers of any size, half surrogate pairs and any
depth pass, and it words some errors differently.
-/

namespace Bulletin.Json

/-- How many lists and objects may not be open at once. -/
def depthLimit : Nat := 128

/-- The readers of one kind, over the text `cs`. -/
abbrev Reading (α : Type) (cs : List Char) := Except JsonFailure (α × Rest cs)

/-- Reads the colon between a key and its value. -/
def readColon (cs : List Char) : Except JsonFailure (Rest cs) :=
  match nextChar cs with
  | none => .error (.before .endOfObject [])
  | some (c, r) => if c = ':' then .ok r else .error (.looking .expectedColon (c :: r.1))

/-- What stands behind an item of a list: the next one, or its end. -/
inductive Next (cs : List Char) where
  | more (r : Rest cs)
  | close (r : Rest cs)

/-- Reads what follows an item of a list. -/
def afterItem (cs : List Char) : Except JsonFailure (Next cs) :=
  match nextChar cs with
  | none => .error (.before .endOfList [])
  | some (']', r) => .ok (.close r)
  | some (',', r) =>
    match skipSpace r.1 with
    | [] => .error (.before .endOfValue [])
    | ']' :: rest => .error (.looking .trailingComma (']' :: rest))
    | _ :: _ => .ok (.more r)
  | some (c, r) => .error (.looking .expectedListEnd (c :: r.1))

/-- Reads what follows an opening bracket. -/
def firstItem (cs : List Char) : Except JsonFailure (Option (Rest cs)) :=
  match nextChar cs with
  | none => .error (.before .endOfList [])
  | some (']', r) => .ok (some r)
  | some _ => .ok none

/-- Reads what follows a member of an object, up to behind the quote of the next key. -/
def afterMember (cs : List Char) : Except JsonFailure (Next cs) :=
  match nextChar cs with
  | none => .error (.before .endOfObject [])
  | some ('\x7d', r) => .ok (.close r)
  | some (',', r) =>
    match nextChar r.1 with
    | none => .error (.before .endOfValue [])
    | some ('"', r') => .ok (.more (r.trans r'))
    | some ('\x7d', r') => .error (.looking .trailingComma ('\x7d' :: r'.1))
    | some (c, r') => .error (.looking .keyNotString (c :: r'.1))
  | some (c, r) => .error (.looking .expectedObjectEnd (c :: r.1))

/-- Reads what follows an opening brace, up to behind the quote of the first key. -/
def firstMember (cs : List Char) : Except JsonFailure (Next cs) :=
  match nextChar cs with
  | none => .error (.before .endOfObject [])
  | some ('\x7d', r) => .ok (.close r)
  | some ('"', r) => .ok (.more r)
  | some (c, r) => .error (.looking .keyNotString (c :: r.1))

mutual

/-- Reads a value; `depth` bounds the levels it may open. -/
def readValue (depth : Nat) (cs : List Char) : Reading Json cs :=
  match nextChar cs with
  | none => .error (.before .endOfValue [])
  | some (c, r) =>
    match c with
    | 'n' => do
      let r' ← expectWord ['u', 'l', 'l'] r.1
      .ok (.null, r.transLeft r')
    | 't' => do
      let r' ← expectWord ['r', 'u', 'e'] r.1
      .ok (.bool true, r.transLeft r')
    | 'f' => do
      let r' ← expectWord ['a', 'l', 's', 'e'] r.1
      .ok (.bool false, r.transLeft r')
    | '-' => do
      let (n, r') ← readNumber true r.1
      .ok (.number n, r.trans r')
    | '"' => do
      let (s, r') ← readString r.1
      .ok (.string (String.ofList s), r.trans r')
    | '[' =>
      if depth ≤ 1 then .error (.looking .tooDeep (c :: r.1))
      else do
        match ← firstItem r.1 with
        | some r' => .ok (.array [], r.trans r')
        | none =>
          let (items, r') ← readItems (depth - 1) r.1
          .ok (.array items, r.trans r')
    | '\x7b' =>
      if depth ≤ 1 then .error (.looking .tooDeep (c :: r.1))
      else do
        match ← firstMember r.1 with
        | .close r' => .ok (.object [], r.trans r')
        | .more r' =>
          let (ms, r'') ← readMembers (depth - 1) [] (r.trans r').1
          .ok (.object ms, (r.trans r').trans r'')
    | c =>
      if c.isDigit then do
        let (n, r') ← readNumber false (c :: r.1)
        .ok (.number n, r.transCons r')
      else .error (.looking .expectedValue (c :: r.1))
termination_by (cs.length, 0)
decreasing_by
  · exact Prod.Lex.left _ _ r.2
  · exact Prod.Lex.left _ _ (r.trans r').2

/-- Reads the items of a list from one of them on. -/
def readItems (depth : Nat) (cs : List Char) : Reading (List Json) cs := do
  let (v, r) ← readValue depth cs
  match ← afterItem r.1 with
  | .close r' => .ok ([v], r.trans r')
  | .more r' =>
    let (vs, r'') ← readItems depth (r.trans r').1
    .ok (v :: vs, (r.trans r').trans r'')
termination_by (cs.length, 1)
decreasing_by
  · exact Prod.Lex.right _ (by decide)
  · exact Prod.Lex.left _ _ (r.trans r').2

/-- Reads the members of an object from behind the quote of a key on, after those in `before`. -/
def readMembers (depth : Nat) (before : Members) (cs : List Char) : Reading Members cs := do
  let (key, r) ← readString cs
  let r₁ ← readColon r.1
  let (v, r₂) ← readValue depth (r.trans r₁).1
  -- Of members with one key the last one counts.
  let ms := before.insert (String.ofList key) v
  let behind := (r.trans r₁).trans r₂
  match ← afterMember behind.1 with
  | .close r₃ => .ok (ms, behind.trans r₃)
  | .more r₃ =>
    let (ms, r₄) ← readMembers depth ms (behind.trans r₃).1
    .ok (ms, (behind.trans r₃).trans r₄)
termination_by (cs.length, 1)
decreasing_by
  · exact Prod.Lex.left _ _ (r.trans r₁).2
  · exact Prod.Lex.left _ _ (behind.trans r₃).2

end

/-- Only white space may follow the value of a text. -/
def expectEnd (cs : List Char) : Except JsonFailure Unit :=
  match skipSpace cs with
  | [] => .ok ()
  | c :: rest => .error (.looking .trailingCharacters (c :: rest))

/-- Reads a whole text as one value. -/
def parseChars (cs : List Char) : Except JsonFailure Json := do
  let (v, r) ← readValue depthLimit cs
  expectEnd r.1
  .ok v

/-- Reads a whole text as one value. -/
def parse (text : String) : Except JsonError Json :=
  (parseChars text.toList).mapError (JsonError.locate text.toList)

/-! ## Values nobody reads -/

/-- Passes a number. -/
def skipNumber (cs : List Char) : Except JsonFailure (Rest cs) := do
  let (_, r) ← readNumberText .invalidNumber cs
  .ok r

/-- Reads what follows a passed item of a list. -/
def afterSkippedItem (cs : List Char) : Except JsonFailure (Next cs) :=
  match nextChar cs with
  | none => .error (.before .endOfList [])
  | some (']', r) => .ok (.close r)
  | some (',', r) => .ok (.more r)
  | some (c, r) => .error (.looking .expectedListEnd (c :: r.1))

/-- Reads what follows a passed member of an object. -/
def afterSkippedMember (cs : List Char) : Except JsonFailure (Next cs) :=
  match nextChar cs with
  | none => .error (.before .endOfObject [])
  | some ('\x7d', r) => .ok (.close r)
  | some (',', r) =>
    match nextChar r.1 with
    | none => .error (.before .endOfObject [])
    | some ('"', r') => .ok (.more (r.trans r'))
    | some (c, r') => .error (.looking .keyNotString (c :: r'.1))
  | some (c, r) => .error (.looking .expectedObjectEnd (c :: r.1))

mutual

/-- The text behind a value that nobody reads. -/
def skipValue (cs : List Char) : Except JsonFailure (Rest cs) :=
  match nextChar cs with
  | none => .error (.before .endOfValue [])
  | some (c, r) =>
    match c with
    | 'n' => do .ok (r.transLeft (← expectWord ['u', 'l', 'l'] r.1))
    | 't' => do .ok (r.transLeft (← expectWord ['r', 'u', 'e'] r.1))
    | 'f' => do .ok (r.transLeft (← expectWord ['a', 'l', 's', 'e'] r.1))
    | '-' => do .ok (r.trans (← skipNumber r.1))
    | '"' => do .ok (r.trans (← skipString r.1))
    | '[' => do
      match ← firstItem r.1 with
      | some r' => .ok (r.trans r')
      | none => .ok (r.trans (← skipItems r.1))
    | '\x7b' => do
      match ← firstMember r.1 with
      | .close r' => .ok (r.trans r')
      | .more r' => .ok ((r.trans r').trans (← skipMembers (r.trans r').1))
    | c =>
      if c.isDigit then do .ok (r.transCons (← skipNumber (c :: r.1)))
      else .error (.looking .expectedValue (c :: r.1))
termination_by (cs.length, 0)
decreasing_by
  · exact Prod.Lex.left _ _ r.2
  · exact Prod.Lex.left _ _ (r.trans r').2

/-- The text behind a list, from one of its items on. -/
def skipItems (cs : List Char) : Except JsonFailure (Rest cs) := do
  let r ← skipValue cs
  match ← afterSkippedItem r.1 with
  | .close r' => .ok (r.trans r')
  | .more r' => .ok ((r.trans r').trans (← skipItems (r.trans r').1))
termination_by (cs.length, 1)
decreasing_by
  · exact Prod.Lex.right _ (by decide)
  · exact Prod.Lex.left _ _ (r.trans r').2

/-- The text behind an object, from behind the quote of a key on. -/
def skipMembers (cs : List Char) : Except JsonFailure (Rest cs) := do
  let r ← skipString cs
  let r₁ ← readColon r.1
  let r₂ ← skipValue (r.trans r₁).1
  let behind := (r.trans r₁).trans r₂
  match ← afterSkippedMember behind.1 with
  | .close r₃ => .ok (behind.trans r₃)
  | .more r₃ => .ok ((behind.trans r₃).trans (← skipMembers (behind.trans r₃).1))
termination_by (cs.length, 1)
decreasing_by
  · exact Prod.Lex.left _ _ (r.trans r₁).2
  · exact Prod.Lex.left _ _ (behind.trans r₃).2

end

end Bulletin.Json
