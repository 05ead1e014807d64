/-
# `Tacacs.Config` — settings of a connection and of a session

A `Config` holds for a whole connection; a `Context` describes one session's
user to the server.  Where there is no secret, packets are sent open whether
that was asked for or not (`Config.unencrypted`): what was asked for is a field
of its own, and only descriptions show it.  A description never shows the
secret.

The flags of every packet a connection sends follow from its settings alone
(`Config.flags`).
-/
import Tacacs.Duration
import Tacacs.Access
import Tacacs.Text.Quoted

namespace Tacacs

/-- The settings of a connection. -/
structure Config where
  /-- The key shared with the server. -/
  secret : Option Octets := none
  timeout : Duration := .ofParts 5 0
  /-- Ask the server to keep the connection for further sessions. -/
  singleConnect : Bool := true
  /-- Packets are to be sent open even where there is a secret. -/
  openRequested : Bool := false
  maxBodyLength : UInt32 := 65536
deriving DecidableEq

namespace Config

/-- Packets are sent open: because it was asked for, or for want of a secret. -/
def unencrypted (c : Config) : Bool :=
  c.openRequested || c.secret.isNone

/-- The key to read replies with. -/
def key (c : Config) : Octets :=
  c.secret.getD []

/-- The flags of every packet that is sent. -/
def flags (c : Config) : Flags :=
  .make c.unencrypted c.singleConnect

/-- The description of settings. -/
def describe (c : Config) : String :=
  let secret := if c.secret.isSome then "Some(\"<redacted>\")" else "None"
  "ClientConfig \x7b secret: " ++ secret ++ ", timeout: " ++ c.timeout.text
    ++ ", single_connect: " ++ toString c.singleConnect
    ++ ", unencrypted: " ++ toString c.openRequested
    ++ ", max_body_length: " ++ toString c.maxBodyLength.toNat ++ ", .. \x7d"

end Config

/-- What a session tells the server about its user. -/
structure Context where
  port : String := "rust_client"
  remoteAddress : String := "tacplus_client"
  privilege : Privilege := .user
  service : AuthenService := .login
deriving DecidableEq

namespace Context

/-- The origin of a user's requests. -/
def origin (c : Context) (user : String) : Origin :=
  ⟨user, c.port, c.remoteAddress⟩

/-- The description of a context, with or without someone to prompt. -/
def describe (c : Context) (prompts : Bool) : String :=
  "SessionContext \x7b port: " ++ Text.Quoted.quote c.port
    ++ ", remote_address: " ++ Text.Quoted.quote c.remoteAddress
    ++ ", privilege_level: PrivilegeLevel(" ++ toString c.privilege.level.toNat ++ ")"
    ++ ", service: " ++ c.service.name
    ++ ", prompt: " ++ toString prompts ++ " \x7d"

end Context

end Tacacs
