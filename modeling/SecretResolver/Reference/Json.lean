import SecretResolver.Json.Value
import SecretResolver.Reference

set_option autoImplicit false

namespace SecretResolver.Reference

open Json (Tree)

def fields : List Record.Field :=
  [{ name := "id" }, { name := "vault_path", trailing := true },
    { name := "env_var_name", trailing := true }, { name := "json_key", trailing := true }]

def ofTree? (tree : Tree) : Option Reference := do
  let [id, vaultPath, variableName, jsonKey] ← (← tree.record?).arrange fields | none
  some
    { id := ← Tree.string? (← id)
      vaultPath := ← Tree.optional? Tree.string? vaultPath
      variableName := ← Tree.optional? Tree.string? variableName
      jsonKey := ← Tree.optional? Tree.string? jsonKey }

def ofJson? (bytes : List UInt8) : Option Reference := do
  ofTree? (← Tree.parse bytes)

end SecretResolver.Reference
