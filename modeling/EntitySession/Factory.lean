import EntitySession.Config
import EntitySession.Metadata.Registry
import EntitySession.World

/-!
# Session factories

A `Factory` opens sessions over connections from a provider.  Types may be registered with it before,
so that mistakes in their mappings show early.
-/

set_option autoImplicit false

namespace EntitySession

/-- Where connections come from. -/
inductive Provider (δ : Type) where
  /-- The same connection is given to everybody. -/
  | shared (connection : ConnectionId)
  /-- Connections are opened one by one. -/
  | opening (connect : δ → Except Error ConnectionId × δ)

/-- A maker of sessions. -/
structure Factory (δ : Type) where
  provider : Provider δ
  config : Config
  registry : Registry

namespace Factory

variable {δ : Type}

/-- A factory without registered types. -/
def start (provider : Provider δ) (config : Config) : Factory δ := ⟨provider, config, .empty⟩

/-- The factory as it shows itself. -/
def describe (f : Factory δ) : String :=
  "SessionFactory \x7b config: SessionConfig \x7b show_sql: "
    ++ (if f.config.showSql then "true" else "false") ++ " \x7d, entities: "
    ++ toString f.registry.size ++ " \x7d"

/-- A connection from the provider. -/
def connect (f : Factory δ) : Act (World δ) ConnectionId :=
  match f.provider with
  | .shared connection => pure connection
  | .opening connect => World.onSite (Site.call connect)

/-- Opens a session; its number is the answer. -/
def openSession (f : Factory δ) : Act (World δ) Nat := do
  let connection ← f.connect.blaming (Fault.failed .openConnection).causedBy
  World.openSession connection f.config.showSql

end Factory

end EntitySession
