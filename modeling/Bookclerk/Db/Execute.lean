import Bookclerk.Sql.Admit

namespace Bookclerk.Db

open Lexical

inductive DbType where
  | unspecified
  | bool
  | int64
  | float64
  | text
  | bytes
  deriving DecidableEq

/-- A float is kept as its 64-bit pattern: the texts and plans only move it around. -/
inductive DbValue where
  | null (ty : DbType)
  | boolean (b : Bool)
  | int64 (n : Int64)
  | float64 (bits : UInt64)
  | text (s : Text)
  | bytes (b : List UInt8)
  deriving DecidableEq

def DbValue.isBytes : DbValue → Bool
  | .bytes _ => true
  | _ => false

open Sql

inductive ResultSelection where
  | discard
  | affectedRows
  | rows
  deriving DecidableEq

structure TypedDbStatement where
  sql : Text
  parameters : List DbValue
  kind : StatementKind
  maxRows : UInt32
  resultSelection : ResultSelection
  deriving DecidableEq

structure ExecuteRequest where
  operationId : Text
  requestHash : Text
  statements : List TypedDbStatement
  deadlineUnixMs : UInt64
  deriving DecidableEq

def TypedDbStatement.isDml (stmt : TypedDbStatement) : Bool :=
  (stmt.kind = .execute || stmt.kind = .returning) && !statementIsDdl stmt.sql

end Bookclerk.Db
