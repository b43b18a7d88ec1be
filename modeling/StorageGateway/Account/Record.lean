import StorageGateway.Account.Role
import StorageGateway.Account.User
import StorageGateway.Json.Reader

/-!
# Roles and users as JSON

How the records are read from JSON, with what a missing field stands for, and the text columns in
which a store keeps the scopes of a role (empty for no scope) and the role ids of a user.
-/

namespace StorageGateway

open Json

/-- Read a scope. -/
def Scope.ofJson? (j : Json) : Option Scope := do
  match ← fields? ["path", "permission"] j with
  | [path, permission] =>
    return ⟨← required string? path, .ofNat (← required word? permission)⟩
  | _ => none

/-- Read a role. -/
def Role.ofJson? (j : Json) : Option Role := do
  match ← fields? ["id", "name", "description", "permission_scopes"] j with
  | [id, name, description, scopes] =>
    return {
      id := ⟨← required word? id⟩
      name := ← required string? name
      description := ← optional string? "" description
      scopes := ← optional (list? Scope.ofJson?) [] scopes }
  | _ => none

/-- Read a list of role ids. -/
def RoleId.listOfJson? (j : Json) : Option (List RoleId) :=
  list? (fun item => (word? item).map RoleId.mk) j

/-- Read a user. -/
def User.ofJson? (j : Json) : Option User := do
  match ← fields? ["id", "username", "base_path", "role", "disabled", "password_ts"] j with
  | [id, username, basePath, roleIds, disabled, passwordTime] =>
    return {
      id := ⟨← required word? id⟩
      username := ← required string? username
      basePath := ← optional string? User.initialBasePath basePath
      roleIds := ← optional RoleId.listOfJson? [] roleIds
      disabled := ← optional bool? false disabled
      passwordTime := ← optional (integer? (-0x8000000000000000) 0x7FFFFFFFFFFFFFFF) 0 passwordTime }
  | _ => none

/-- A scope as an object. -/
def Scope.print (s : Scope) : List Char :=
  "\x7b\"path\":".toList ++ printString s.path ++ ",\"permission\":".toList ++
    Nat.toDigits 10 s.permission.toNat ++ ['\x7d']

/-- The text in which a store keeps scopes. -/
def scopesText (scopes : List Scope) : String :=
  if scopes = [] then ""
  else String.ofList ('[' :: separated (scopes.map Scope.print) ++ [']'])

/-- Read scopes from the text in which a store keeps them. -/
def scopesOfText? (text : String) : Option (List Scope) :=
  if Text.isAllBlank text then some []
  else (parse? text).bind (list? Scope.ofJson?)

/-- The text in which a store keeps role ids. -/
def roleIdsText (ids : List RoleId) : String :=
  String.ofList (printNumbers (ids.map RoleId.val))

/-- Read role ids from the text in which a store keeps them. -/
def roleIdsOfText? (text : String) : Option (List RoleId) :=
  (parse? text).bind RoleId.listOfJson?

end StorageGateway
