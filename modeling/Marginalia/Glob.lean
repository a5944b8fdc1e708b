import Marginalia.FileStore

/-!
# File patterns

A file pattern is a path whose names may have wildcards: `?` stands for any character, `*` for any
characters, `[ab-d]` and `[!ab-d]` for one character of a set or not of it, and `**` as a whole
name for any number of directories. `FileStore.glob` lists what a pattern finds, name by name in
the order of the characters.
-/

namespace Marginalia

namespace Glob

/-- What is wrong with a pattern. -/
inductive Fault where
  | wildcards
  | recursive
  | range
deriving DecidableEq, Repr, Inhabited

/-- The fault in words. -/
def Fault.message : Fault → String
  | wildcards => "wildcards are either regular `*` or recursive `**`"
  | recursive => "recursive wildcards must form a single path component"
  | range => "invalid range pattern"

/-- A fault and the number of characters before it. -/
structure Error where
  /-- The number of characters before the fault. -/
  position : Nat
  /-- What is wrong. -/
  fault : Fault
deriving DecidableEq, Repr, Inhabited

/-- The error in words. -/
def Error.message (e : Error) : Text :=
  "Pattern syntax error near position ".toList ++ Text.ofNat e.position ++ ": ".toList ++
    e.fault.message.toList

/-- A part of a pattern. -/
inductive Token where
  | char (c : Char)
  | anyChar
  | anyChars
  /-- One character of the ranges, or none of them. -/
  | among (wanted : Bool) (ranges : List (Char × Char))
  | anyDirectories
deriving DecidableEq, Repr, Inhabited

/-! ### Reading patterns -/

/-- The ranges between brackets. A dash between two characters makes a range of them. -/
def readRanges : Text → List (Char × Char)
  | a :: '-' :: b :: rest => (a, b) :: readRanges rest
  | c :: rest => (c, c) :: readRanges rest
  | [] => []

/-- The text up to the first closing bracket, which is not the first character, and what follows. -/
def cutBracket : Text → Option (Text × Text)
  | [] => none
  | c :: rest => (Text.cutAt ']' rest).map fun (inside, after) => (c :: inside, after)

/-- Reads a set behind its opening bracket. -/
def readSet (t : Text) : Option (Token × Text) :=
  match t with
  | '!' :: rest =>
    (cutBracket rest).map fun (inside, after) => (.among false (readRanges inside), after)
  | t => (cutBracket t).map fun (inside, after) => (.among true (readRanges inside), after)

theorem length_lt_of_cutBracket {t inside after : Text} (h : cutBracket t = some (inside, after)) :
    after.length < t.length := by
  match t with
  | [] => simp [cutBracket] at h
  | c :: rest =>
    simp only [cutBracket, Option.map_eq_some_iff, Prod.exists, Prod.mk.injEq] at h
    obtain ⟨_, _, hc, -, rfl⟩ := h
    have := congrArg List.length (Text.eq_append_of_cutAt hc)
    simp only [List.length_append, List.length_cons] at this ⊢
    omega

theorem length_lt_of_readSet {t after : Text} {k : Token} (h : readSet t = some (k, after)) :
    after.length < t.length := by
  unfold readSet at h
  split at h
  all_goals
    simp only [Option.map_eq_some_iff, Prod.exists, Prod.mk.injEq] at h
    obtain ⟨_, _, hc, -, rfl⟩ := h
    have := length_lt_of_cutBracket hc
  · exact Nat.lt_succ_of_lt this
  · exact this

/-- Reads a pattern behind `position` characters, the last of which is `last`. -/
def readFrom (position : Nat) (last : Char) (t : Text) : Except Error (List Token) :=
  match t with
  | [] => .ok []
  | '?' :: rest => (readFrom (position + 1) '?' rest).map (.anyChar :: ·)
  | '*' :: '*' :: '*' :: _ => .error ⟨position + 2, .wildcards⟩
  | '*' :: '*' :: rest =>
    if last ≠ '/' then .error ⟨position - 1, .recursive⟩
    else match rest with
      | [] => .ok [.anyDirectories]
      | '/' :: rest => (readFrom (position + 3) '/' rest).map (.anyDirectories :: ·)
      | _ => .error ⟨position + 2, .recursive⟩
  | '*' :: rest => (readFrom (position + 1) '*' rest).map (.anyChars :: ·)
  | '[' :: rest =>
    match _h : readSet rest with
    | none => .error ⟨position, .range⟩
    | some (k, after) =>
      (readFrom (position + 1 + (rest.length - after.length)) ']' after).map (k :: ·)
  | c :: rest => (readFrom (position + 1) c rest).map (.char c :: ·)
termination_by t.length
decreasing_by
  · simp
  · simp only [List.length_cons]; omega
  · simp
  · exact Nat.lt_succ_of_lt (length_lt_of_readSet _h)
  · simp

/-- Reads a pattern. Its start counts as the start of a name. -/
def read (t : Text) : Except Error (List Token) := readFrom 0 '/' t

/-- The pieces of a pattern between slashes, without the empty piece after a final slash. -/
def pieces (t : Text) : List Text :=
  let all := t.splitOn '/'
  if all.getLast? = some [] then all.dropLast else all

/-- The pattern behind the root that it may start at. -/
def behindRoot (t : Text) : Text := if Path.isAbsolute t then t.drop 1 else t

/-- Reads a pattern name by name. The pattern as a whole is read first, so its faults come first. -/
def readNames (t : Text) : Except Error (List (List Token)) :=
  match read t with
  | .error e => .error e
  | .ok _ => (pieces (behindRoot t)).mapM read

/-! ### Matching names -/

/-- The pattern stands for the name. -/
def matches? (pattern : List Token) (name : Text) : Bool :=
  match pattern, name with
  | [], name => name.isEmpty
  | .anyChars :: rest, [] => matches? rest []
  | .anyChars :: rest, c :: name =>
    matches? rest (c :: name) || matches? (.anyChars :: rest) name
  | .anyDirectories :: _, _ => true
  | _ :: _, [] => false
  | .char a :: rest, c :: name => a == c && matches? rest name
  | .anyChar :: rest, _ :: name => matches? rest name
  | .among wanted ranges :: rest, c :: name =>
    (ranges.any fun r => r.1 ≤ c && c ≤ r.2) == wanted && matches? rest name
termination_by pattern.length + name.length

/-- The name that a pattern without wildcards stands for. -/
def literal? (pattern : List Token) : Option Text :=
  pattern.mapM fun
    | .char c => some c
    | _ => none

end Glob

/-! ### Finding files -/

namespace FileStore

/-- The path to a name in the directory that a path leads to; the working directory itself is not
mentioned. -/
def pathTo (directory : Path) (name : Text) : Path :=
  if Path.components directory == [.current] then name else Path.join directory name

/-- The names in the directory that a path leads to, with their paths. -/
def contents (s : FileStore) (p : Path) : List (Text × Path) :=
  match s.item? p with
  | .ok (l, .directory) => (s.names l).map fun name => (name, pathTo p name)
  | _ => []

/-- What `found` gives for the contents of a directory and of the directories below it, at most `n`
levels down. -/
def search (s : FileStore) (found : Text → Path → List Path) : Nat → Path → List Path
  | 0, _ => []
  | n + 1, p => (s.contents p).flatMap fun (name, p) => found name p ++ s.search found n p

/-- The names of a directory for itself and for the one above that a pattern stands for. They must
be asked for by a dot. -/
def dots (pattern : List Glob.Token) : List Text :=
  if pattern.head? = some (.char '.') then
    [['.', '.'], ['.']].filter (Glob.matches? pattern)
  else []

/-- A name can be followed from where a path leads: something is there, or it is a directory and the
name stands for itself or for the one above. -/
def canFollow (s : FileStore) (p : Path) (name : Text) : Bool :=
  if name == ['.'] || name == ['.', '.'] then s.isDirectory p else s.has (pathTo p name)

/-- What the names of a pattern find from a directory. -/
def expand (s : FileStore) (names : List (List Glob.Token)) (p : Path) : List Path :=
  match names with
  | [] => [p]
  | [[.anyDirectories]] =>
    s.search (fun _ p => if s.isDirectory p then [p] else []) s.height p
  | [.anyDirectories] :: [.anyDirectories] :: rest => s.expand ([.anyDirectories] :: rest) p
  | [.anyDirectories] :: pattern :: rest =>
    s.search (fun name p => if Glob.matches? pattern name then s.expand rest p else []) s.height p
  | pattern :: rest =>
    match Glob.literal? pattern with
    | some name =>
      if s.canFollow p name then s.expand rest (pathTo p name) else []
    | none =>
      if s.isDirectory p then
        (dots pattern).flatMap (fun name => s.expand rest (Path.join p name)) ++
          (s.contents p).flatMap fun (name, p) =>
            if Glob.matches? pattern name then s.expand rest p else []
      else []
termination_by names.length

/-- What a pattern finds, from the root if it starts there and else from the working directory. A
pattern that ends in a slash finds directories only, and an empty one finds nothing. -/
def glob (s : FileStore) (pattern : Text) : Except Glob.Error (List Path) :=
  match Glob.readNames pattern with
  | .error e => .error e
  | .ok names =>
    if pattern.isEmpty then .ok []
    else .ok <| (s.expand names [if Path.isAbsolute pattern then '/' else '.']).filter fun p =>
      pattern.getLast? != some '/' || s.isDirectory p

end FileStore

end Marginalia
