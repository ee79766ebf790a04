import Bookclerk.Sql.InsertOrIgnore

namespace Bookclerk.Sql.PackText

open Lexical

inductive SqlTextError where
  | blockComment
  | sqlString
  | quotedIdent
  deriving DecidableEq

def unterminated (c : UInt8) (rest : Text) : SqlTextError :=
  if opensBlock c rest then .blockComment else if c = byte '\'' then .sqlString else .quotedIdent

def skipTrivia : (skip : Nat) → Text → Except SqlTextError Nat
  | _, [] => .ok 0
  | k + 1, _ :: rest => (skipTrivia k rest).map (· + 1)
  | 0, c :: rest =>
    if isAsciiWhitespace c then (skipTrivia 0 rest).map (· + 1)
    else
      match textLex (c :: rest) with
      | some (.comment, n) => (skipTrivia (n - 1) rest).map (· + 1)
      | some _ => .ok 0
      | none => if opensBlock c rest then .error .blockComment else .ok 0

inductive LikePatternSrc where
  | literal (text : Text)
  | bind (index : Nat)
  | unproven
  | null
  deriving DecidableEq

def halveQuotes : Text → Text
  | [] => []
  | [c] => [c]
  | c :: d :: t => if c = byte '\'' ∧ d = byte '\'' then c :: halveQuotes t else c :: halveQuotes (d :: t)

def unquoteSqlString (quoted : Text) : Text :=
  if quoted.head? ≠ some (byte '\'') ∨ quoted.getLast? ≠ some (byte '\'') ∨ quoted.length < 2 then []
  else halveQuotes (quoted.drop 1).dropLast

/-- The loop of `parse_like_pattern`; each round takes a literal, so the text's length bounds the rounds. -/
def parsePattern (bindsBefore : Nat) : (fuel : Nat) → (literal : Option Text) → Scan → Except SqlTextError LikePatternSrc
  | 0, _, _ => .ok .unproven
  | fuel + 1, literal, s => do
    let s := s.advance (← skipTrivia 0 s.rest)
    match s.rest with
    | [] => return (literal.map LikePatternSrc.literal).getD .unproven
    | c :: rest =>
      if c = byte '\'' then
        match quotedNameLen c 0 rest with
        | none => return .unproven
        | some n =>
          let literal := literal.getD [] ++ unquoteSqlString (s.rest.take (n + 1))
          let s := s.advance (n + 1)
          let s := s.advance (← skipTrivia 0 s.rest)
          if (utf8 "||").isPrefixOf s.rest then parsePattern bindsBefore fuel (some literal) (s.advance 2)
          else return .literal literal
      else if c = byte '?' then return if literal.isSome then .unproven else .bind bindsBefore
      else if keywordAt s (utf8 "NULL") then return if literal.isSome then .unproven else .null
      else return .unproven

def parseLikePattern (bindsBefore : Nat) (s : Scan) : Except SqlTextError LikePatternSrc :=
  parsePattern bindsBefore (s.rest.length + 1) none s

def likePatternSourcesFrom : (skip : Nat) → (prev : Option UInt8) → (bindI : Nat) → Text →
    Except SqlTextError (List LikePatternSrc)
  | _, _, _, [] => .ok []
  | k + 1, _, bindI, c :: rest => likePatternSourcesFrom k (some c) bindI rest
  | 0, prev, bindI, c :: rest =>
    match textLex (c :: rest) with
    | none => .error (unterminated c rest)
    | some (.code, _) =>
      if c = byte '?' then likePatternSourcesFrom 0 (some c) (bindI + 1) rest
      else if keywordAt ⟨prev, c :: rest⟩ (utf8 "LIKE") then do
        let n ← skipTrivia 0 (rest.drop 3)
        let src ← parseLikePattern bindI ((Scan.mk prev (c :: rest)).advance (4 + n))
        return src :: (← likePatternSourcesFrom (3 + n) (some c) bindI rest)
      else likePatternSourcesFrom 0 (some c) bindI rest
    | some (_, n) => likePatternSourcesFrom (n - 1) (some c) bindI rest

def likePatternSources (sql : Text) : Except SqlTextError (List LikePatternSrc) :=
  likePatternSourcesFrom 0 none 0 sql

def countDivModFrom : (skip : Nat) → Text → Except SqlTextError Nat
  | _, [] => .ok 0
  | k + 1, _ :: rest => countDivModFrom k rest
  | 0, c :: rest =>
    match textLex (c :: rest) with
    | none => .error (unterminated c rest)
    | some (.code, _) =>
      if c = byte '/' ∨ c = byte '%' then (countDivModFrom 0 rest).map (· + 1) else countDivModFrom 0 rest
    | some (_, n) => countDivModFrom (n - 1) rest

def countDivModOperators (sql : Text) : Except SqlTextError Nat :=
  countDivModFrom 0 sql

def insertOrIgnoreMaxExtra : Nat :=
  256

def divModNullifExtra : Nat :=
  11

def afterKeyword (s : Scan) (kw : String) : Except SqlTextError (Option Scan) :=
  if keywordAt s (utf8 kw) then do
    let s := s.advance (utf8 kw).length
    return some (s.advance (← skipTrivia 0 s.rest))
  else return none

def insertOrIgnoreRewriteExtra (sql : Text) : Except SqlTextError Nat := do
  let s := (Scan.start sql).advance (← skipTrivia 0 sql)
  let some s ← afterKeyword s "INSERT" | return 0
  let some s ← afterKeyword s "OR" | return 0
  return if keywordAt s (utf8 "IGNORE") then insertOrIgnoreMaxExtra else 0

def sqliteFamilyMechanicalLenUpperBound (sql : Text) : Except SqlTextError Nat := do
  let likes ← likePatternSources sql
  let divMods ← countDivModOperators sql
  let insertExtra ← insertOrIgnoreRewriteExtra sql
  return sql.length + likes.length * Lower.likeGlobRewriteOverhead + divMods * divModNullifExtra + insertExtra

def sqliteFamilyLikeDivmodInsertUpperBound (canonicalLen : Nat) : Nat :=
  canonicalLen + canonicalLen / 4 * Lower.likeGlobRewriteOverhead + canonicalLen % 4 * divModNullifExtra +
    insertOrIgnoreMaxExtra

end Bookclerk.Sql.PackText
