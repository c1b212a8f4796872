import WebhookSync.Url.Parse

/-!
# Longer addresses

Addresses of a server's resources are made from its base address by segments at the end of the
path and by pairs of a query.
-/

namespace WebhookSync.Url

/-- The segments of a path without an empty last one, unless it is the only one. -/
def dropEmptyLast (segments : List String) : List String :=
  match segments.reverse with
  | "" :: second :: rest => (second :: rest).reverse
  | _ => segments

/-- A segment at the end of a path.  A path of one empty segment is the root, which the new segment
replaces. -/
def appendSegment (segments : List String) (segment : String) : List String :=
  if segments = [""] then [segment] else segments ++ [segment]

/-- A text as a new segment at the end of a path.  The texts `.` and `..` add nothing; with tabs
and line ends inside, which do not count, they still stand for places. -/
def pushOnto (special : Bool) (segments : List String) (text : String) : List String :=
  if text = "." || text = ".." then segments
  else
    let relevant := text.toList.filter fun c => !(c == '\t' || c == '\n' || c == '\r')
    let places := if segments = [""] then [] else segments
    if relevant = ['.', '.'] then places.dropLast ++ [""]
    else if relevant = ['.'] then places ++ [""]
    else appendSegment segments (String.ofList (encode (keepsInSegment special) relevant))

/-- The address with texts as new segments at the end of its path. -/
def push (url : Url) (texts : List String) : Url :=
  { url with path := .segments (texts.foldl (pushOnto (isSpecial url.scheme)) url.segmentsOf) }

/-- The address with texts as new segments, the first one instead of an empty last segment. -/
def extend (url : Url) (texts : List String) : Url :=
  push { url with path := .segments (dropEmptyLast url.segmentsOf) } texts

/-- The pairs of a query, with the signs between them. -/
def writePairs (pairs : List (String × String)) : List Char :=
  Text.joinWith '&' (pairs.map fun pair =>
    encodeForm pair.1.toList ++ '=' :: encodeForm pair.2.toList)

/-- The address with pairs behind those that its query has. -/
def withPairs (url : Url) (pairs : List (String × String)) : Url :=
  let written := writePairs pairs
  let query :=
    match url.query.map String.toList with
    | none | some [] => written
    | some old => if pairs.isEmpty then old else old ++ '&' :: written
  { url with query := if query.isEmpty then none else some (String.ofList query) }

end WebhookSync.Url
