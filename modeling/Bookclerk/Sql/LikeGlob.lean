import Bookclerk.Sql.LowerLex

namespace Bookclerk.Sql.Lower

open Lexical

def skipTriviaIdx : (skip : Nat) → Text → Nat
  | _, [] => 0
  | k + 1, _ :: rest => skipTriviaIdx k rest + 1
  | 0, c :: rest =>
    match whitespaceChars.find? (·.isPrefixOf (c :: rest)) with
    | some w => skipTriviaIdx (w.length - 1) rest + 1
    | none =>
      match commentLen c rest with
      | some n => skipTriviaIdx (n - 1) rest + 1
      | none => 0

def identEqCi (s : Scan) (word : String) : Bool :=
  keywordAt s (utf8 word)

/-- The index after the `)` that closes the first `(`, or the end of the text. -/
def skipBalanced : (skip depth : Nat) → Text → Nat
  | _, _, [] => 0
  | k + 1, depth, _ :: rest => skipBalanced k depth rest + 1
  | 0, depth, c :: rest =>
    match lowerLex (c :: rest) with
    | some (.code, _) =>
      if c = byte '(' then skipBalanced 0 (depth + 1) rest + 1
      else if c = byte ')' then if depth = 1 then 1 else skipBalanced 0 (depth - 1) rest + 1
      else skipBalanced 0 depth rest + 1
    | some (_, n) => skipBalanced (n - 1) depth rest + 1
    | none => 0

def identSpanAt : Text → Option Nat
  | [] => none
  | c :: rest =>
    if c = byte '"' then some (1 + Scan.quotedStringLen c 0 rest)
    else if identStart c then some (1 + (rest.takeWhile identCont).length)
    else none

/-- Where the call ends whose name ends at `stop`, or `other` when no `(` follows. -/
def callEnd (t : Text) (stop other : Nat) : Nat :=
  let j := stop + skipTriviaIdx 0 (t.drop stop)
  if (t.drop j).head? = some (byte '(') then j + skipBalanced 0 0 (t.drop j) else other

def qualifiedEnd (t : Text) (stop : Nat) : Nat :=
  let j := stop + skipTriviaIdx 0 (t.drop stop)
  if (t.drop j).head? = some (byte '.') then
    let k := j + (1 + skipTriviaIdx 0 (t.drop (j + 1)))
    match identSpanAt (t.drop k) with
    | some n => callEnd t (k + n) (k + n)
    | none => stop
  else stop

def digitsLen (t : Text) : Nat :=
  (t.takeWhile isAsciiDigit).length

def signLen (t : Text) : Nat :=
  if t.head? = some (byte '-') ∨ t.head? = some (byte '+') then 1 else 0

def numberLen (t : Text) : Nat :=
  let i := signLen t + digitsLen (t.drop (signLen t))
  if (t.drop i).head? = some (byte '.') then i + (1 + digitsLen (t.drop (i + 1))) else i

/-- The part of `skip_sql_atom` behind the leading trivia. -/
def atomLen (s : Scan) : Nat :=
  match s.rest with
  | [] => 0
  | c :: rest =>
    if c = byte '(' then skipBalanced 0 0 (c :: rest)
    else
      match lowerLex (c :: rest) with
      | some (.code, _) =>
        if c = byte '?' then 1
        else if identEqCi s "NULL" then 4
        else
          match identSpanAt (c :: rest) with
          | some n => callEnd (c :: rest) n (qualifiedEnd (c :: rest) n)
          | none => if isAsciiDigit c ∨ c = byte '-' ∨ c = byte '+' then numberLen (c :: rest) else 0
      | some (_, n) => n
      | none => 0

def skipSqlAtom (s : Scan) : Nat :=
  let i := skipTriviaIdx 0 s.rest
  i + atomLen (s.advance i)

/-- The loop of `like_pattern_end`; each round takes a `||`, so the text's length bounds the rounds. -/
def concatEnd : (fuel : Nat) → Scan → Nat
  | 0, _ => 0
  | fuel + 1, s =>
    let j := skipTriviaIdx 0 s.rest
    if (utf8 "||").isPrefixOf (s.rest.drop j) then
      let i := j + (2 + skipSqlAtom (s.advance (j + 2)))
      i + concatEnd fuel (s.advance i)
    else 0

def likePatternEnd (s : Scan) : Nat :=
  let i := skipSqlAtom s
  i + concatEnd s.rest.length (s.advance i)

def likeGlobWrapPrefix : Text :=
  utf8 "replace(replace(replace(replace(replace(("

def likeGlobWrapSuffix : Text :=
  utf8 "), '[', '[[]'), '*', '[*]'), '?', '[?]'), '%', '*'), '_', '?')"

def likeGlobRewriteOverhead : Nat :=
  likeGlobWrapPrefix.length + likeGlobWrapSuffix.length + 1

def globPatternSql (pat : Text) : Text :=
  likeGlobWrapPrefix ++ pat ++ likeGlobWrapSuffix

def patternStart (s : Scan) (stop : Nat) : Nat :=
  stop + skipTriviaIdx 0 (s.rest.drop stop)

/-- What stands for a `LIKE` whose keyword ends at `stop`, and the end of its pattern. -/
def globFor (keyword : Text) (s : Scan) (stop : Nat) : Text × Nat :=
  let j := patternStart s stop
  let n := j + likePatternEnd (s.advance j)
  (keyword ++ globPatternSql ((s.rest.take n).drop j), n)

def likeAt (s : Scan) : Option (Text × Nat) :=
  let afterNot := 3 + skipTriviaIdx 0 (s.rest.drop 3)
  if identEqCi s "NOT" ∧ identEqCi (s.advance afterNot) "LIKE" then some (globFor (utf8 "NOT GLOB ") s (afterNot + 4))
  else if identEqCi s "LIKE" then some (globFor (utf8 "GLOB ") s 4)
  else none

def rewriteLikeFrom : (skip : Nat) → (prev : Option UInt8) → Text → Text
  | _, _, [] => []
  | k + 1, _, c :: rest => rewriteLikeFrom k (some c) rest
  | 0, prev, c :: rest =>
    match lowerLex (c :: rest) with
    | some (.code, _) =>
      match likeAt ⟨prev, c :: rest⟩ with
      | some (out, n) => out ++ rewriteLikeFrom (n - 1) (some c) rest
      -- the source copies a whole `char`; its bytes after the first start no word and no literal
      | none => c :: rewriteLikeFrom 0 (some c) rest
    | some (_, n) => (c :: rest).take n ++ rewriteLikeFrom (n - 1) (some c) rest
    | none => []

def rewriteLikeToGlob (sql : Text) : Text :=
  rewriteLikeFrom 0 none sql

end Bookclerk.Sql.Lower
