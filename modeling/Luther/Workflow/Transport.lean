/-
The URL that Git clones and pushes over.

It is kept apart from the logical repository, which the API is asked about: it is either derived
from the logical repository or chosen explicitly, and which of the two it was is recorded beside
it.  A URL is refused before anything is changed with it.
-/
import Luther.Lib.Path
import Luther.Lib.Text

namespace Luther

def gitTransportUrlVar : String := "git_transport_url"

def gitTransportSourceVar : String := "git_transport_url_source"

def transportExplicit : String := "explicit"

def transportDerived : String := "derived"

def defaultTransportUrl (targetRepo : String) : String :=
  s!"https://github.com/{targetRepo}.git"

/-- The paths of the disk that a local transport is looked for on. -/
structure TransportDisk where
  present : String → Bool
  isDir : String → Bool

/-- The refusal of a URL, `invalid git transport url {url:?}: {detail}`. -/
structure TransportRefusal where
  url : String
  detail : String
  deriving DecidableEq

def isControl (c : Char) : Bool :=
  c.toNat ≤ 0x1f || (0x7f ≤ c.toNat && c.toNat ≤ 0x9f)

def validateLocalTransportPath (disk : TransportDisk) (url path : String) :
    Except TransportRefusal Unit :=
  let invalid (detail : String) : Except TransportRefusal Unit :=
    .error { url := url, detail := detail }
  if !disk.present path then invalid "points at a path that does not exist"
  else if !disk.isDir path then invalid "points at something that is not a directory"
  else
    -- Either a bare repository or a working tree.
    let bare := disk.present (joinPath path "HEAD") && disk.isDir (joinPath path "objects")
    if !bare && !disk.present (joinPath path ".git") then
      invalid "does not look like a Git repository"
    else .ok ()

/-- The forms of a URL that `validate_transport_url` knows. -/
def validateTransportForm (disk : TransportDisk) (url : String) : Except TransportRefusal Unit :=
  let invalid (detail : String) : Except TransportRefusal Unit :=
    .error { url := url, detail := detail }
  match (stripPrefix "https://" url).orElse fun _ => stripPrefix "ssh://" url with
  | some rest =>
    let (authority, path) := (splitOnce '/' rest).getD (rest, "")
    if authority = "" then invalid "is missing a host"
    else if path = "" then invalid "is missing a repository path"
    else .ok ()
  | none =>
    match stripPrefix "file://" url with
    | some rest =>
      if !startsWith rest "/" then invalid "must be of the form file:///absolute/path"
      else validateLocalTransportPath disk url rest
    | none =>
      let absolute : Except TransportRefusal Unit :=
        if startsWith url "/" then validateLocalTransportPath disk url url
        else invalid "must be an https, ssh, file, scp-style, or absolute-path transport"
      match splitOnce ':' url with
      | none => absolute
      | some (userHost, path) =>
        match splitOnce '@' userHost with
        | none => absolute
        | some (user, host) =>
          if user = "" ∨ host = "" then invalid "is missing a user or host"
          else if path = "" then invalid "is missing a repository path"
          else .ok ()

def validateTransportUrl (disk : TransportDisk) (url : String) : Except TransportRefusal Unit :=
  let invalid (detail : String) : Except TransportRefusal Unit :=
    .error { url := url, detail := detail }
  if url = "" then invalid "must not be empty"
  else if url.toList.any fun c => c == '{' || c == '}' then
    invalid "contains an unresolved template placeholder"
  else if url.toList.any isControl then invalid "contains control characters"
  else if startsWith url "-" then
    invalid "must not begin with '-', which Git would read as an option"
  else validateTransportForm disk url

/-! ### The configuration of the workspace's repository, as the step writes it -/

def validateOriginUrl (originUrl : String) : Except String Unit :=
  if originUrl = "" ∨ originUrl.toList.any (fun c => c == '\x00' || c == '\n' || c == '\r') = true
      ∨ '{' ∈ originUrl.toList ∨ '}' ∈ originUrl.toList then
    .error "origin_url is empty, unresolved, or contains invalid bytes"
  else .ok ()

/-- What `render_config` writes in front of the URL. -/
def configBeforeUrl : String :=
  "[core]\n\trepositoryformatversion = 0\n\tfilemode = true\n\tbare = false\n" ++
    "\tlogallrefupdates = true\n\thooksPath = /dev/null\n[remote \"origin\"]\n\turl = "

/-- `render_config`, as a text.  Whatever Git's grammar knows is ASCII, so that it makes no
difference to it whether characters are read or bytes. -/
def renderConfig (originUrl : String) : String :=
  configBeforeUrl ++ originUrl ++ "\n\tfetch = +refs/heads/*:refs/remotes/origin/*\n"

end Luther
