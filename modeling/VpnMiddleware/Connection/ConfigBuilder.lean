import VpnMiddleware.Core.JsonText
import VpnMiddleware.Schema.Types

/-!
# The sing-box outbound config

The JSON document that the client's core consumes.  The credential is the
outbound's `uuid` for vless and vmess and its `password` for every other
protocol.
-/

namespace VpnMiddleware.ConfigBuilder

open VpnMiddleware.Schema VpnMiddleware.JsonText

structure ConfigParams where
  protocol : String
  address : String
  port : ℕ
  uuid : String
  flow : Option String := none
  security : EndpointSecurity

/-- `tls` of the outbound. -/
def tlsOptions (p : ConfigParams) : Json :=
  let sni := p.security.sni.getD p.address
  let fp := p.security.fp.getD "chrome"
  let base := [("enabled", Json.bool true), ("server_name", .str sni),
    ("utls", .obj [("enabled", .bool true), ("fingerprint", .str fp)])]
  let alpn := match p.security.alpn with
    | some names => [("alpn", Json.arr (names.map .str))]
    | none => []
  let reality := match p.security.pbk with
    | some pbk =>
        if pbk ≠ "" then
          [("reality", Json.obj [("enabled", .bool true),
            ("public_key", .str pbk),
            ("short_id", .str (p.security.sid.getD ""))])]
        else []
    | none => []
  .obj (base ++ alpn ++ reality)

/-- The members that carry the credential. -/
def credentialMembers (p : ConfigParams) : List (String × Json) :=
  if p.protocol = "vless" ∨ p.protocol = "vmess" then
    match p.flow with
    | some flow =>
        if flow ≠ "" then [("uuid", .str p.uuid), ("flow", .str flow)]
        else [("uuid", .str p.uuid)]
    | none => [("uuid", .str p.uuid)]
  else [("password", .str p.uuid)]

def outbound (p : ConfigParams) : List (String × Json) :=
  [("type", .str p.protocol), ("tag", .str "proxy"),
    ("server", .str p.address), ("server_port", .num p.port)] ++
    credentialMembers p ++ [("tls", tlsOptions p)]

def singboxConfig (p : ConfigParams) : Json :=
  .obj [("log", .obj [("level", .str "warn")]),
    ("outbounds", .arr [.obj (outbound p),
      .obj [("type", .str "direct"), ("tag", .str "direct")]])]

def buildSingboxConfig (p : ConfigParams) : String :=
  String.ofList (stringify (singboxConfig p))

end VpnMiddleware.ConfigBuilder
