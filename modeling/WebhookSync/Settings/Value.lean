import WebhookSync.Text.Lowercase

/-!
# Values of settings

Settings form a tree of tables and lists.  Every value may say where it comes from.  Tables are
laid over each other key by key, without regard to case; anything else replaces what was there
before.
-/

namespace WebhookSync

/-- A value without parts. -/
inductive Scalar where
  | null
  | bool (value : Bool)
  | integer (value : Int)
  | float (value : Float)
  | text (value : String)

/-- A value with the place that it comes from. -/
inductive Setting where
  | scalar (origin : Option String) (value : Scalar)
  | list (origin : Option String) (items : List Setting)
  | table (origin : Option String) (entries : List (String × Setting))

namespace Setting

/-- A table without entries. -/
def emptyTable : Setting :=
  .table none []

/-- Nothing. -/
def null : Setting :=
  .scalar none .null

/-- Where the value comes from. -/
def origin : Setting → Option String
  | scalar origin _ | list origin _ | table origin _ => origin

/-- The entries of a table; anything else has none. -/
def entries : Setting → List (String × Setting)
  | table _ entries => entries
  | _ => []

/-- The entry of a table under a key. -/
def get? (setting : Setting) (key : String) : Option Setting :=
  (setting.entries.find? fun entry => entry.1 == key).map (·.2)

/-- The entries with one of them replaced, or a new one at the end. -/
def replaceEntry (key : String) (value : Setting) :
    List (String × Setting) → List (String × Setting)
  | [] => [(key, value)]
  | entry :: rest =>
      if entry.1 = key then (key, value) :: rest else entry :: replaceEntry key value rest

/-- The table with a value under a key.  Anything but a table gives way to a new one. -/
def store (setting : Setting) (key : String) (value : Setting) : Setting :=
  match setting with
  | table origin entries => .table origin (replaceEntry key value entries)
  | _ => .table none [(key, value)]

mutual

/-- Lay a value over what a table has under a key, in lower case. -/
def lay (setting : Setting) (key : String) : Setting → Setting
  | .table _ incoming =>
      setting.store (Text.lowercase key)
        (layAll ((setting.get? (Text.lowercase key)).getD emptyTable) incoming)
  | .scalar origin value => setting.store (Text.lowercase key) (.scalar origin value)
  | .list origin items => setting.store (Text.lowercase key) (.list origin items)

/-- Lay entries over a table, one after the other. -/
def layAll (setting : Setting) : List (String × Setting) → Setting
  | [] => setting
  | (key, value) :: rest => layAll (lay setting key value) rest

end

end Setting

end WebhookSync
