import WebhookSync.Webhook

/-!
# Painted text

On a terminal, parts of a line stand out by colour, weight or a line below.  A part is put between
the codes that switch its look on and off; where a part inside switches everything off, the look is
switched on again behind it.
-/

namespace WebhookSync.Console

/-- Whether text is painted. -/
inductive Palette where
  | colored
  | plain
deriving DecidableEq, Repr

/-- The palette for a stream: painting can be forced or else forbidden; where it is neither, text is
painted on a terminal. -/
def Palette.choose (environment : List (String × String)) (onTerminal : Bool) : Palette :=
  let set (name : String) : Bool := (environment.lookup name).any (· ≠ "0")
  if set "CLICOLOR_FORCE" then colored
  else if (environment.lookup "NO_COLOR").isSome then plain
  else if onTerminal && environment.lookup "CLICOLOR" ≠ some "0" then colored
  else plain

/-- The look of a part of a line, by the numbers of its codes. -/
inductive Look where
  | bold
  | dimmed
  | heading
  | green
  | red
  | yellow
  | alarm
deriving DecidableEq, Repr

/-- The code that switches a look on. -/
def Look.code : Look → String
  | bold => "1"
  | dimmed => "2"
  | heading => "1;4"
  | green => "32"
  | red => "31"
  | yellow => "33"
  | alarm => "1;31"

/-- The characters that switch a look on. -/
def Look.on (look : Look) : List Char :=
  "\x1b[".toList ++ look.code.toList ++ ['m']

/-- The characters that switch every look off. -/
def off : List Char :=
  "\x1b[0m".toList

/-- The text with some characters put in behind each place where every look is switched off. -/
def renew (on : List Char) : List Char → List Char
  | '\x1b' :: '[' :: '0' :: 'm' :: rest => off ++ on ++ renew on rest
  | c :: rest => c :: renew on rest
  | [] => []

/-- A text with a look. -/
def paint (palette : Palette) (look : Look) (text : String) : String :=
  match palette with
  | .plain => text
  | .colored => String.ofList (look.on ++ renew look.on text.toList ++ off)

/-- A webhook on one line. -/
def webhookLine (palette : Palette) (hook : Webhook) : String :=
  let state :=
    if hook.active then paint palette .green "active" else paint palette .red "inactive"
  "#" ++ toString hook.id.toInt ++ " " ++ paint palette .bold hook.name ++ " [" ++ state ++
    "] -> " ++ hook.url ++ " (" ++ String.intercalate ", " hook.events.toList ++ ")"

end WebhookSync.Console
