/-
References.

A page refers to another one by as much of its address as is different: by a path, by a query, by
another host. What is missing comes from the address of the page. All of this is a matter of
texts, of addresses in normal form but without a look at what they mean; how an address is cut
depends on its scheme, for some schemes know no paths and some no parameters.
-/
import ApiOutline.Text.Cut

set_option autoImplicit false

namespace ApiOutline.Web

/-- An address or a part of one. What is missing is empty. -/
structure Reference where
  scheme : String
  authority : String
  path : String
  /-- What stands behind a semicolon in the last part of the path. -/
  parameters : String
  query : String
  fragment : String
  deriving DecidableEq, Repr

namespace Reference

/-! ## Schemes -/

/-- Schemes in which a reference may leave something out. -/
def relativeSchemes : List String :=
  ["", "ftp", "http", "gopher", "nntp", "imap", "wais", "file", "https", "shttp", "mms",
    "prospero", "rtsp", "rtsps", "rtspu", "sftp", "svn", "svn+ssh", "ws", "wss"]

/-- Schemes in which a host is named. -/
def hostSchemes : List String :=
  ["", "ftp", "http", "gopher", "nntp", "telnet", "imap", "wais", "file", "mms", "https",
    "shttp", "snews", "prospero", "rtsp", "rtsps", "rtspu", "rsync", "svn", "svn+ssh", "sftp",
    "nfs", "git", "git+ssh", "ws", "wss"]

/-- Schemes in which paths have parameters. -/
def parameterSchemes : List String :=
  ["", "ftp", "hdl", "prospero", "http", "imap", "https", "shttp", "rtsp", "rtsps", "rtspu",
    "sip", "sips", "mms", "sftp", "tel"]

/-! ## Cutting -/

/-- What stands in front of the first occurrence of a character, and what stands behind it. -/
def cut (mark : Char) (cs : List Char) : List Char × List Char :=
  (Text.cutAt? [mark] cs).getD (cs, [])

/-- A scheme and a colon at the front. -/
def scheme? (cs : List Char) : Option (List Char × List Char) :=
  match Text.cutAt? [':'] cs with
  | some (scheme, rest) =>
    if scheme.head?.any Char.isAlpha &&
        scheme.all (fun c => c.isAlphanum || c == '+' || c == '-' || c == '.') then
      some (scheme.map Char.toLower, rest)
    else none
  | none => none

/-- A path and the parameters in its last part. -/
def cutParameters (path : List Char) : List Char × List Char :=
  let last := (path.reverse.takeWhile (· != '/')).reverse
  let lead := path.take (path.length - last.length)
  let (name, parameters) := cut ';' last
  (lead ++ name, parameters)

/-- The reference that a text writes, which has a scheme if the text writes none. -/
def ofText (scheme : String) (s : String) : Reference :=
  let (scheme, rest) : String × List Char :=
    match scheme? s.toList with
    | some (named, rest) => (String.ofList named, rest)
    | none => (scheme, s.toList)
  let (authority, rest) : List Char × List Char :=
    match rest with
    | '/' :: '/' :: rest =>
      (rest.takeWhile fun c => c != '/' && c != '?' && c != '#',
        rest.dropWhile fun c => c != '/' && c != '?' && c != '#')
    | rest => ([], rest)
  let (rest, fragment) := cut '#' rest
  let (path, query) := cut '?' rest
  let (path, parameters) :=
    if parameterSchemes.contains scheme then cutParameters path else (path, [])
  { scheme
    authority := String.ofList authority
    path := String.ofList path
    parameters := String.ofList parameters
    query := String.ofList query
    fragment := String.ofList fragment }

/-! ## Putting together -/

/-- A text behind a mark, and nothing for the empty one. -/
def behind (mark text : String) : String :=
  if text == "" then "" else mark ++ text

/-- A reference as a text. Marks behind which nothing stands are left out. -/
def text (r : Reference) : String :=
  let path := r.path ++ behind ";" r.parameters
  let place :=
    if r.authority != "" || (r.scheme != "" && hostSchemes.contains r.scheme) ||
        Text.beginsWith ['/', '/'] path.toList then
      "//" ++ r.authority ++
        (if path != "" && path.toList.head? != some '/' then "/" ++ path else path)
    else path
  (if r.scheme == "" then "" else r.scheme ++ ":") ++ place ++ behind "?" r.query ++
    behind "#" r.fragment

/-! ## From a page -/

/-- The parts of a path, without empty ones in between. -/
def withoutGaps (parts : List String) : List String :=
  match parts with
  | [] => []
  | [part] => [part]
  | first :: rest => first :: (rest.dropLast.filter (· != "")) ++ rest.drop (rest.length - 1)

/-- The path that a relative one leads to from the path of a page. -/
def joinPaths (base path : String) : String :=
  let pieces (s : String) : List String := (Text.splitAt '/' s.toList).map String.ofList
  let whole :=
    if path.toList.head? == some '/' then pieces path
    else
      let lead := pieces base
      withoutGaps ((if lead.getLast? == some "" then lead else lead.dropLast) ++ pieces path)
  let resolved := whole.foldl
    (fun done part =>
      if part == ".." then done.dropLast else if part == "." then done else done ++ [part]) []
  let last := whole.getLast?.getD ""
  let joined := "/".intercalate (if last == "." || last == ".." then resolved ++ [""] else resolved)
  if joined == "" then "/" else joined

/-- What a reference of the same scheme refers to on a page. -/
def onPage (base r : Reference) : Reference :=
  let namesHosts := hostSchemes.contains r.scheme
  if namesHosts && r.authority != "" then r
  else
    let authority := if namesHosts then base.authority else r.authority
    if r.path == "" && r.parameters == "" then
      { r with
        authority
        path := base.path
        parameters := base.parameters
        query := if r.query == "" then base.query else r.query }
    else { r with authority, path := joinPaths base.path r.path }

/-- The address that a text refers to on the page at an address. -/
def resolve (base s : String) : String :=
  if base == "" then s
  else if s == "" then base
  else
    let page := ofText "" base
    let r := ofText page.scheme s
    if r.scheme != page.scheme || !relativeSchemes.contains r.scheme then s
    else (onPage page r).text

end Reference

end ApiOutline.Web
