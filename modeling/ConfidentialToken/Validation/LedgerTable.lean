import ConfidentialToken.Validation.Validator

/-!
A ledger as a table of tokens, and what accepted requests do to it.
-/

namespace ConfidentialToken

variable {S : Suite}

/-- What is read under the identifiers of a ledger, in the order of
identifiers. -/
structure LedgerTable where
  entries : List (TokenId × Result Bytes)

namespace LedgerTable

/-- Puts what is read under an identifier among ordered entries. -/
def insertEntry (id : TokenId) (content : Result Bytes) :
    List (TokenId × Result Bytes) → List (TokenId × Result Bytes)
  | [] => [(id, content)]
  | entry :: rest =>
      if id = entry.1 then (id, content) :: rest
      else if id.le entry.1 then (id, content) :: entry :: rest
      else entry :: insertEntry id content rest

/-- The table with something else under an identifier. -/
def insert (table : LedgerTable) (id : TokenId) (content : Result Bytes) : LedgerTable :=
  ⟨insertEntry id content table.entries⟩

def erase (table : LedgerTable) (id : TokenId) : LedgerTable :=
  ⟨table.entries.filter fun entry => entry.1 ≠ id⟩

/-- The table with the given entries, the last one where an identifier occurs
more than once. -/
def ofList (entries : List (TokenId × Result Bytes)) : LedgerTable :=
  entries.foldl (fun table (id, content) => table.insert id content) ⟨[]⟩

def ledger (table : LedgerTable) : Ledger := fun id =>
  match table.entries.find? fun entry => entry.1 = id with
  | some (_, content) => content
  | none => .ok []

def ids (table : LedgerTable) : List TokenId :=
  table.entries.map Prod.fst

/-- Stores created tokens under the indices of a transaction from the given one
on. -/
def store (table : LedgerTable) (transaction : String) :
    (next : Nat) → List (Token S) → LedgerTable
  | _, [] => table
  | next, token :: tokens =>
      (table.insert ⟨transaction, .ofNat next⟩ (.ok (Json.write token))).store transaction
        (next + 1) tokens

/-- Carries out actions of a transaction, the first created token of which has
the given index. -/
def commitFrom (transaction : String) :
    (next : Nat) → LedgerTable → List (Action S) → LedgerTable
  | _, table, [] => table
  | next, table, .issue action :: actions =>
      commitFrom transaction (next + action.outputs.length)
        (table.store transaction next action.outputs) actions
  | next, table, .transfer action :: actions =>
      commitFrom transaction (next + action.outputs.length)
        ((action.inputs.foldl erase table).store transaction next action.outputs) actions
  | next, table, .signature _ :: actions => commitFrom transaction next table actions

def commit (table : LedgerTable) (transaction : String) (actions : List (Action S)) :
    LedgerTable :=
  commitFrom transaction 0 table actions

end LedgerTable

end ConfidentialToken
