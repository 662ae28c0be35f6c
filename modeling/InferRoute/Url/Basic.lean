import InferRoute.Url.Host

/-!
Web addresses as parts, and their text. A hierarchical path is a list of segments, each written
after a slash; an address of another scheme without an authority may instead carry a path that
is one piece of text. The well-known schemes `http`, `https`, `ws`, `wss`, `ftp` and `file`
always have an authority and a path of at least one segment.
-/

namespace InferRoute

/-- The path of an address: segments, or one piece of text for addresses that cannot hold
relative references. -/
inductive UrlPath where
  | segments (parts : List String)
  | flat (text : String)
deriving Repr, DecidableEq

/-- A web address in parts, each already percent-encoded. -/
structure Url where
  scheme : String
  username : String
  password : String
  host : Option Host
  port : Option Nat
  path : UrlPath
  query : Option String
  fragment : Option String
deriving Repr

namespace Url

/-- The default port of a scheme, for the schemes that have one. -/
def defaultPort : String → Option Nat
  | "http" => some 80
  | "https" => some 443
  | "ws" => some 80
  | "wss" => some 443
  | "ftp" => some 21
  | _ => none

/-- Whether a scheme is one of the well-known schemes, whose addresses always have a host. -/
def isSpecial (scheme : String) : Bool :=
  scheme = "file" || (defaultPort scheme).isSome

/-- The text of a path: each segment after a slash. Without an authority a path whose first
segment is empty is prefixed with `/.`, so that it cannot be read back as an authority. -/
def pathText (hasHost : Bool) : UrlPath → String
  | .flat text => text
  | .segments parts =>
    let prefixText := match parts with
      | "" :: _ :: _ => if hasHost then "" else "/."
      | _ => ""
    prefixText ++ String.join (parts.map ("/" ++ ·))

/-- The address with no user name and no password. -/
def withoutCredentials (u : Url) : Url := { u with username := "", password := "" }

/-- The text of an address. -/
def render (u : Url) : String :=
  let credentials :=
    if u.username.isEmpty && u.password.isEmpty then ""
    else u.username ++ (if u.password.isEmpty then "" else ":" ++ u.password) ++ "@"
  let authority := match u.host with
    | none => ""
    | some h =>
      "//" ++ credentials ++ h.render ++ (match u.port with | some p => ":" ++ toString p | none => "")
  u.scheme ++ ":" ++ authority ++ pathText u.host.isSome u.path ++
    (match u.query with | some q => "?" ++ q | none => "") ++
    (match u.fragment with | some f => "#" ++ f | none => "")

end Url

end InferRoute
