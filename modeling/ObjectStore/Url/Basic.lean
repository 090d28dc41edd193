import ObjectStore.Url.Host

/-!
URLs in their normal form: scheme and host in lower case, no port that the scheme implies, no dot
segments, and everything unsafe percent-encoded.
-/

namespace ObjectStore

inductive UrlPath where
  | plain (text : String)
  | segments (segments : List String)
deriving DecidableEq, Repr

def UrlPath.text : UrlPath → String
  | .plain text => text
  | .segments pieces => String.join (pieces.map fun segment => "/" ++ segment)

structure Url where
  scheme : String
  username : String
  password : Option String
  host : Option Host
  port : Option Nat
  path : UrlPath
  query : Option String
  fragment : Option String
deriving DecidableEq, Repr

inductive SchemeKind where
  | special | file | other
deriving DecidableEq, Repr

namespace Url

def schemeKind (scheme : String) : SchemeKind :=
  if scheme = "file" then .file
  else if ["http", "https", "ws", "wss", "ftp"].contains scheme then .special
  else .other

def defaultPort? (scheme : String) : Option Nat :=
  if scheme = "http" || scheme = "ws" then some 80
  else if scheme = "https" || scheme = "wss" then some 443
  else if scheme = "ftp" then some 21
  else none

def pathText (url : Url) : String :=
  url.path.text

def hostText (url : Url) : String :=
  match url.host with
  | some host => host.text
  | none => ""

def portText (url : Url) : String :=
  match url.port with
  | some port => ":" ++ toString port
  | none => ""

def userText (url : Url) : String :=
  let credentials := url.username ++ match url.password with
    | some password => ":" ++ password
    | none => ""
  if credentials = "" then "" else credentials ++ "@"

/-- Without a host, a path that begins with an empty segment would read as one. -/
def authorityText (url : Url) : String :=
  match url.host, url.path with
  | some _, _ => "//" ++ url.userText ++ url.hostText ++ url.portText
  | none, .segments ("" :: _ :: _) => "/."
  | none, _ => ""

def queryText (url : Url) : String :=
  match url.query with
  | some query => "?" ++ query
  | none => ""

def fragmentText (url : Url) : String :=
  match url.fragment with
  | some fragment => "#" ++ fragment
  | none => ""

def beforeFragment (url : Url) : String :=
  url.scheme ++ ":" ++ url.authorityText ++ url.pathText ++ url.queryText

def text (url : Url) : String :=
  url.beforeFragment ++ url.fragmentText

end Url

end ObjectStore
