import WebhookSync.Text.Quoted
import WebhookSync.Url.Host

/-!
# Addresses

An address in its normal form: every part is already encoded for its place.  A path is either a
list of segments, each behind a slash, or one opaque text; nothing is relative to an opaque one.
-/

namespace WebhookSync

/-- The path of an address. -/
inductive Url.Path where
  | whole (text : String)
  | segments (list : List String)
deriving DecidableEq, Repr

/-- An address. -/
structure Url where
  scheme : String
  username : String
  password : Option String
  /-- an address without a host is not the same as one with an empty host -/
  host : Option Url.Host
  /-- the port, unless it is the usual one of the scheme -/
  port : Option Nat
  path : Url.Path
  query : Option String
  fragment : Option String
deriving DecidableEq, Repr

namespace Url

/-- The usual port of a scheme. -/
def defaultPort (scheme : String) : Option Nat :=
  match scheme with
  | "http" | "ws" => some 80
  | "https" | "wss" => some 443
  | "ftp" => some 21
  | _ => none

/-- A scheme whose addresses have a host and a path of segments, which a backslash can divide. -/
def isSpecial (scheme : String) : Bool :=
  (defaultPort scheme).isSome || scheme == "file"

/-- Whether nothing can be relative to the address. -/
def isOpaque (url : Url) : Bool :=
  match url.path with
  | .whole _ => true
  | .segments _ => false

/-- The path as a part of an address. -/
def Path.write : Path → List Char
  | .whole text => text.toList
  | .segments list => list.flatMap fun segment => '/' :: segment.toList

/-- The user name and the password in front of a host. -/
def writeUserInfo (url : Url) : List Char :=
  let password := (url.password.map fun password => ':' :: password.toList).getD []
  if url.username.isEmpty && password.isEmpty then []
  else url.username.toList ++ password ++ ['@']

/-- The port behind a host. -/
def writePort (url : Url) : List Char :=
  (url.port.map fun port => ':' :: Nat.toDigits 10 port).getD []

/-- What stands between the scheme and the path.  A path that begins with an empty segment is kept
apart from an address without a host by a segment that means nothing. -/
def writeAuthority (url : Url) : List Char :=
  match url.host with
  | some host => '/' :: '/' :: url.writeUserInfo ++ host.write ++ url.writePort
  | none =>
      match url.scheme, url.path with
      | "file", _ => ['/', '/']
      | _, .segments ("" :: _ :: _) => ['/', '.']
      | _, _ => []

/-- An optional part behind its mark. -/
def writeBehind (mark : Char) (part : Option String) : List Char :=
  (part.map fun text => mark :: text.toList).getD []

/-- The characters of an address. -/
def write (url : Url) : List Char :=
  url.scheme.toList ++ ':' :: url.writeAuthority ++ url.path.write ++
    writeBehind '?' url.query ++ writeBehind '#' url.fragment

/-- The written form of an address. -/
def text (url : Url) : String :=
  String.ofList url.write

/-- The host and the port of an address, with its scheme. -/
def origin (url : Url) : String × Option Host × Option Nat :=
  (url.scheme, url.host, url.port.orElse fun _ => defaultPort url.scheme)

/-- The host in a message that takes an address apart. -/
def describeHost : Option Host → String
  | none => "None"
  | some (.name text) => if text = "" then "None" else "Some(Domain(" ++ Text.quoted text ++ "))"
  | some (.ipv4 address) => "Some(Ipv4(" ++ String.ofList (showIpv4 address) ++ "))"
  | some (.ipv6 pieces) => "Some(Ipv6(" ++ String.ofList (showIpv6InMessage pieces) ++ "))"

/-- An optional text in a message that takes a value apart. -/
def describeText (part : Option String) : String :=
  match part with
  | none => "None"
  | some text => "Some(" ++ Text.quoted text ++ ")"

/-- The address taken apart. -/
def describe (url : Url) : String :=
  let port := (url.port.map fun port => "Some(" ++ toString port ++ ")").getD "None"
  "Url \x7b scheme: " ++ Text.quoted url.scheme ++
    ", cannot_be_a_base: " ++ toString url.isOpaque ++
    ", username: " ++ Text.quoted url.username ++
    ", password: " ++ describeText url.password ++
    ", host: " ++ describeHost url.host ++
    ", port: " ++ port ++
    ", path: " ++ Text.quoted (String.ofList url.path.write) ++
    ", query: " ++ describeText url.query ++
    ", fragment: " ++ describeText url.fragment ++ " \x7d"

end Url

end WebhookSync
