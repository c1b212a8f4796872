import WebhookSync.Url.Basic

/-!
# Reading addresses

An address is read by itself or relative to another one.  Blanks and control characters at the ends
of the text and tabs and line ends anywhere in it do not count.  Host names are brought to their
ASCII form, the segments `.` and `..` of a path are worked out, and every part is encoded for its
place, so what is read is in normal form.
-/

namespace WebhookSync.Url

/-! ## Paths -/

/-- A character that divides the segments of a path. -/
def isDivider (special : Bool) (c : Char) : Bool :=
  c == '/' || special && c == '\\'

/-- The parts of a path between its dividers. -/
def splitPath (special : Bool) : List Char → List (List Char)
  | [] => [[]]
  | c :: rest =>
      if isDivider special c then [] :: splitPath special rest
      else
        match splitPath special rest with
        | [] => [[c]]
        | first :: others => (c :: first) :: others

/-- The segment that stands for its own place, in any spelling. -/
def isHere (segment : List Char) : Bool :=
  let small := segment.flatMap Text.lowerChars
  small == ['.'] || small == ['%', '2', 'e']

/-- The segment that stands for the place above, in any spelling. -/
def isAbove (segment : List Char) : Bool :=
  let dot := ['.']
  let encoded := ['%', '2', 'e']
  let small := segment.flatMap Text.lowerChars
  small == dot ++ dot || small == dot ++ encoded || small == encoded ++ dot ||
    small == encoded ++ encoded

/-- The letter of a drive with a colon or a bar behind it. -/
def isDrive (segment : List Char) : Bool :=
  match segment with
  | [letter, mark] => letter.isAlpha && (mark == ':' || mark == '|')
  | _ => false

/-- The place above a place of a path.  The root and a drive of a file address have none. -/
def above (file : Bool) (segments : List String) : List String :=
  match segments with
  | [drive] => if file && isDrive drive.toList then segments else []
  | segments => segments.dropLast

/-- A segment as it is kept; the first segment of a file address can name a drive. -/
def keptSegment (file : Bool) (segments : List String) (segment : List Char) : String :=
  if file && segments.isEmpty && isDrive segment then String.ofList (segment.take 1 ++ [':'])
  else String.ofList (encode keepsInPath segment)

/-- Go on from a place along the parts of a path.  A path that ends at a place and not at a name
has an empty last segment. -/
def walk (file : Bool) (segments : List String) : List (List Char) → List String
  | [] => segments
  | [last] =>
      if isAbove last then above file segments ++ [""]
      else if isHere last then segments ++ [""]
      else segments ++ [keptSegment file segments last]
  | part :: rest =>
      if isAbove part then walk file (above file segments) rest
      else if isHere part then walk file segments rest
      else walk file (segments ++ [keptSegment file segments part]) rest

/-- The segments of a file address without empty ones in front. -/
def dropEmptyFront : List String → List String
  | "" :: second :: rest => dropEmptyFront (second :: rest)
  | segments => segments

/-- Go on from a place along the text of a path. -/
def resolvePath (scheme : String) (segments : List String) (text : List Char) : List String :=
  let found := walk (scheme == "file") segments (splitPath (isSpecial scheme) text)
  if scheme == "file" then dropEmptyFront found else found

/-! ## The parts of an address -/

/-- Whether a character ends the path of an address. -/
def endsPath (c : Char) : Bool :=
  c == '?' || c == '#'

/-- The query and the fragment behind a path. -/
def queryAndFragment (special : Bool) (text : List Char) : Option String × Option String :=
  let query :=
    match text with
    | '?' :: rest =>
        some (String.ofList (encode (keepsInQuery special) (rest.takeWhile (· != '#'))))
    | _ => none
  let fragment :=
    match text.dropWhile (· != '#') with
    | '#' :: rest => some (String.ofList (encode keepsInFragment rest))
    | _ => none
  (query, fragment)

/-- The address with the path, the query and the fragment of a text.  The path goes on from the
given place. -/
def withPath (url : Url) (segments : List String) (text : List Char) : Url :=
  let tail := queryAndFragment (isSpecial url.scheme) (text.dropWhile fun c => !endsPath c)
  { url with
    path := .segments (resolvePath url.scheme segments (text.takeWhile fun c => !endsPath c))
    query := tail.1
    fragment := tail.2 }

/-- A character that ends the host and its surroundings. -/
def endsAuthority (special : Bool) (c : Char) : Bool :=
  isDivider special c || endsPath c

/-- The text in front of the last at sign and the text behind it. -/
def splitUserInfo (authority : List Char) : Option (List Char × List Char) :=
  if authority.contains '@' then
    let behind := (authority.reverse.takeWhile (· != '@')).reverse
    some (authority.take (authority.length - behind.length - 1), behind)
  else none

/-- The text of the host and what follows it: the host ends at a colon that is not between
brackets. -/
def splitHost (inside : Bool) : List Char → List Char × List Char
  | [] => ([], [])
  | c :: rest =>
      if c == ':' && !inside then ([], c :: rest)
      else
        let found := splitHost (if c == '[' then true else if c == ']' then false else inside) rest
        (c :: found.1, found.2)

/-- The port behind a host, and what of the text in front of the path is left. -/
def readPort (scheme : String) (text : List Char) : Except Fault (Option Nat × List Char) :=
  match text with
  | ':' :: rest =>
      let digits := rest.takeWhile Char.isDigit
      let left := rest.dropWhile Char.isDigit
      if 65535 < Text.ofDigits 10 digits || !left.isEmpty && left.head? ≠ some '\\' then
        .error .invalidPort
      else if digits.isEmpty || defaultPort scheme = some (Text.ofDigits 10 digits) then
        .ok (none, left)
      else .ok (some (Text.ofDigits 10 digits), left)
  | text => .ok (none, text)

/-- User name and password.  A password without a character is none. -/
def readUserInfo (text : List Char) : String × Option String :=
  let encoded (part : List Char) : String := String.ofList (encode keepsInUserInfo part)
  let password := (text.dropWhile (· != ':')).drop 1
  (encoded (text.takeWhile (· != ':')),
    if password.isEmpty then none else some (encoded password))

/-- What stands between two slashes and the path. -/
def readAuthority (scheme : String) (text : List Char) : Except Fault (Url × List Char) := do
  let special := isSpecial scheme
  let authority := text.takeWhile fun c => !endsAuthority special c
  let rest := text.dropWhile fun c => !endsAuthority special c
  let (userInfo, hostAndPort) := (splitUserInfo authority).getD ([], authority)
  if authority.head? = some '@' && userInfo.isEmpty && hostAndPort.isEmpty && !rest.isEmpty then
    throw .emptyHost
  let (username, password) := readUserInfo userInfo
  let (hostText, portText) := splitHost false hostAndPort
  if special && hostText.isEmpty then throw .emptyHost
  let host ← if special then Host.parse hostText else Host.parseOpaque hostText
  let isEmpty := host = .name ""
  if isEmpty && (special || !portText.isEmpty) then throw .emptyHost
  let (port, left) ← readPort scheme portText
  if isEmpty && (username ≠ "" || password.isSome) then throw .emptyHost
  return (⟨scheme, username, password, some host, port, .segments [], none, none⟩, left ++ rest)

/-- The address of an authority and what follows it.  Without a special scheme the path may be
empty. -/
def afterSlashes (scheme : String) (text : List Char) : Except Fault Url := do
  let (url, rest) ← readAuthority scheme text
  match rest with
  | '/' :: path => return url.withPath [] path
  | '\\' :: path => return url.withPath [] (if isSpecial scheme then path else '\\' :: path)
  | [] => return if isSpecial scheme then url.withPath [] [] else url
  | rest =>
      if isSpecial scheme then return url.withPath [] rest
      else
        let tail := queryAndFragment false rest
        return { url with query := tail.1, fragment := tail.2 }

/-- An address without a host. -/
def withoutHost (scheme : String) : Url :=
  ⟨scheme, "", none, none, none, .segments [], none, none⟩

/-- The address of a file behind its two slashes. -/
def readFileHost (text : List Char) : Except Fault Url := do
  let ends (c : Char) : Bool := endsAuthority true c
  let hostText := text.takeWhile fun c => !ends c
  let file := withoutHost "file"
  let path (text : List Char) : List Char :=
    match text with
    | '/' :: rest | '\\' :: rest => rest
    | rest => rest
  if hostText.isEmpty then return file.withPath [] (path text)
  else if isDrive hostText then return file.withPath [] text
  else
    let host ← Host.parse hostText
    let found := file.withPath [] (path (text.dropWhile fun c => !ends c))
    let onDrive :=
      match found.path with
      | .segments (first :: _) => isDrive first.toList
      | _ => false
    return if host = .name "localhost" || onDrive then found else { found with host := some host }

/-- The segments of a path; an opaque one has none. -/
def segmentsOf (url : Url) : List String :=
  match url.path with
  | .whole _ => []
  | .segments list => list

/-- An address relative to another one that has no path of its own scheme left to read. -/
def relativeTail (base : Url) (text : List Char) : Url :=
  match text with
  | [] => { base with fragment := none }
  | '#' :: _ => { base with fragment := (queryAndFragment (isSpecial base.scheme) text).2 }
  | text =>
      let tail := queryAndFragment (isSpecial base.scheme) text
      { base with query := tail.1, fragment := tail.2 }

/-- The address of a file, relative to another one if there is one. -/
def readFile (base : Option Url) (text : List Char) : Except Fault Url :=
  let isSlash (c : Char) : Bool := c == '/' || c == '\\'
  match text with
  | first :: rest =>
      if isSlash first then
        match rest with
        | second :: others =>
            if isSlash second then readFileHost others
            else
              let start : Url := { withoutHost "file" with host := base.bind (·.host) }
              .ok (start.withPath [] rest)
        | [] =>
            let start : Url := { withoutHost "file" with host := base.bind (·.host) }
            .ok (start.withPath [] [])
      else
        match base with
        | none => .ok ((withoutHost "file").withPath [] text)
        | some base =>
            if endsPath first then .ok (base.relativeTail text)
            else if isDrive (text.take 2) then .ok ((withoutHost "file").withPath [] text)
            else .ok (base.withPath (above true base.segmentsOf) text)
  | [] =>
      match base with
      | none => .ok ((withoutHost "file").withPath [] [])
      | some base => .ok (base.relativeTail [])

/-- An address that has no scheme of its own. -/
def readRelative (base : Url) (text : List Char) : Except Fault Url :=
  let isSlash (c : Char) : Bool := c == '/' || c == '\\'
  match text with
  | [] => .ok (base.relativeTail [])
  | first :: rest =>
      if endsPath first then .ok (base.relativeTail text)
      else if isSlash first then
        match rest with
        | second :: others =>
            if isSlash second then
              if first == '/' && second == '/' then afterSlashes base.scheme others
              else afterSlashes base.scheme (others.dropWhile isSlash)
            else .ok (base.withPath [] rest)
        | [] => .ok (base.withPath [] [])
      else .ok (base.withPath base.segmentsOf.dropLast text)

/-- A character of a scheme. -/
def isSchemeChar (c : Char) : Bool :=
  c.isAlphanum || c == '+' || c == '-' || c == '.'

/-- The scheme in front of a colon, in small letters, and the text behind the colon. -/
def splitScheme (text : List Char) : Option (String × List Char) :=
  match text, text.dropWhile isSchemeChar with
  | first :: _, ':' :: rest =>
      if first.isAlpha then
        some (String.ofList ((text.takeWhile isSchemeChar).map Char.toLower), rest)
      else none
  | _, _ => none

/-- The text of an address without what does not count in it. -/
def relevant (text : List Char) : List Char :=
  let outside (c : Char) : Bool := c.toNat ≤ 0x20
  let trimmed := ((text.dropWhile outside).reverse.dropWhile outside).reverse
  trimmed.filter fun c => !(c == '\t' || c == '\n' || c == '\r')

/-- Read an address behind its scheme. -/
def readAfterScheme (base : Option Url) (scheme : String) (text : List Char) : Except Fault Url :=
  let isSlash (c : Char) : Bool := c == '/' || c == '\\'
  if scheme = "file" then readFile (base.filter (·.scheme = "file")) text
  else if isSpecial scheme then
    let isRelative := (text.takeWhile isSlash).length < 2
    match base with
    | none => afterSlashes scheme (text.dropWhile isSlash)
    | some base =>
        if isRelative && base.scheme = scheme then readRelative base text
        else afterSlashes scheme (text.dropWhile isSlash)
  else
    match text with
    | '/' :: '/' :: rest => afterSlashes scheme rest
    | '/' :: rest => .ok ((withoutHost scheme).withPath [] rest)
    | text =>
        let path := encode keepsControlFree (text.takeWhile fun c => !endsPath c)
        let tail := queryAndFragment false (text.dropWhile fun c => !endsPath c)
        .ok
          { withoutHost scheme with
            path := .whole (String.ofList path), query := tail.1, fragment := tail.2 }

/-- Read an address, relative to another one if there is one. -/
def read (base : Option Url) (text : String) : Except Fault Url :=
  let text := relevant text.toList
  match splitScheme text with
  | some (scheme, rest) => readAfterScheme base scheme rest
  | none =>
      match base with
      | none => .error .relativeWithoutBase
      | some base =>
          if text.head? = some '#' then .ok (base.relativeTail text)
          else if base.isOpaque then .error .relativeToOpaque
          else if base.scheme = "file" then readFile (some base) text
          else readRelative base text

/-- Read an address by itself. -/
def parse (text : String) : Except Fault Url :=
  read none text

/-- Read an address relative to this one. -/
def join (base : Url) (link : String) : Except Fault Url :=
  read (some base) link

end WebhookSync.Url
