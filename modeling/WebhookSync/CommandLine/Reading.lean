import WebhookSync.CommandLine.Flag

/-!
# Reading a level

The words of a level are read from left to right.  A value can be joined to its flag or be the next
word; in the second case the flag is settled only when the next flag comes or the level ends.  A
level that ends with a verb is settled after everything behind the verb.
-/

namespace WebhookSync.CommandLine

/-- Why a command line leads to no command. -/
inductive Halt where
  | helpWanted
  | versionWanted
  /-- neither a verb nor anything else is given -/
  | nothingGiven
  | missingVerb
  | unknownVerb (word : String)
  | unknownFlag (word : String)
  /-- a word stands where only flags can -/
  | strayWord (word : String)
  | missingValue (flag : Flag)
  | invalidValue (flag : Flag) (value : String)
  /-- a value is joined to a flag that takes none -/
  | unneededValue (flag : Flag) (value : String)
  | repeatedFlag (flag : Flag)
  | conflict (flag other : Flag)
  | missingFlags (flags : List Flag)
deriving DecidableEq, Repr

/-- What has been read on a level. -/
structure Reading where
  /-- the settled flags with their values -/
  given : List (Flag × String)
  /-- a flag that takes a value, with the value if it came -/
  pending : Option (Flag × Option String)

namespace Reading

/-- Nothing has been read. -/
def empty : Reading :=
  ⟨[], none⟩

/-- Whether the next word is the value of a flag. -/
def isWaiting (reading : Reading) : Bool :=
  match reading.pending with
  | some (_, none) => true
  | _ => false

/-- Settle a flag with its value. -/
def record (given : List (Flag × String)) (flag : Flag) (value : String) :
    Except Halt (List (Flag × String)) :=
  if (given.lookup flag).isSome then .error (.repeatedFlag flag)
  else if flag.accepts value then .ok (given ++ [(flag, value)])
  else .error (.invalidValue flag value)

/-- The settled flags, with the pending one among them. -/
def settle (reading : Reading) : Except Halt (List (Flag × String)) :=
  match reading.pending with
  | none => .ok reading.given
  | some (flag, none) => .error (.missingValue flag)
  | some (flag, some value) => record reading.given flag value

/-- Read a flag that stands alone. -/
def raise (reading : Reading) (flag : Flag) : Except Halt Reading := do
  let given ← reading.settle
  match flag with
  | .help => throw .helpWanted
  | .version => throw .versionWanted
  | _ => return ⟨← record given flag Flag.raised, none⟩

/-- Read a flag with a value joined to it. -/
def join (reading : Reading) (flag : Flag) (value : String) : Except Halt Reading := do
  let given ← reading.settle
  return ⟨← record given flag value, none⟩

/-- Read a flag whose value is the next word. -/
def await (reading : Reading) (flag : Flag) : Except Halt Reading := do
  let given ← reading.settle
  return ⟨given, some (flag, none)⟩

/-- Read the value of the pending flag. -/
def supply (reading : Reading) (value : String) : Reading :=
  { reading with pending := reading.pending.map fun pending => (pending.1, some value) }

/-- Read what stands behind two dashes: the word of a flag, and a value behind a sign of
equality. -/
def long (reading : Reading) (level : Level) (text : List Char) : Except Halt Reading :=
  let word := String.ofList (text.takeWhile (· != '='))
  match level.ofWord? word, text.dropWhile (· != '=') with
  | none, _ => .error (.unknownFlag ("--" ++ word))
  | some flag, [] => if flag.takesValue then reading.await flag else reading.raise flag
  | some flag, _ :: value =>
      let value := String.ofList value
      if flag.takesValue then reading.join flag value else .error (.unneededValue flag value)

/-- Read what stands behind one dash: letters of flags that stand alone, and the letter of a flag
with a value, which is all the rest.  A sign of equality in front of the value is no part of it. -/
def short (level : Level) : Reading → List Char → Except Halt Reading
  | reading, [] => .ok reading
  | reading, letter :: rest =>
      match level.ofLetter? letter with
      | none => .error (.unknownFlag (String.ofList ['-', letter]))
      | some flag =>
          if flag.takesValue then
            match rest with
            | [] => reading.await flag
            | '=' :: value => reading.join flag (String.ofList value)
            | value => reading.join flag (String.ofList value)
          else do
            let reading ← reading.raise flag
            short level reading rest

end Reading

namespace Level

/-- What is wrong with a word that is neither a flag nor a value. -/
def stray (level : Level) (word : String) : Halt :=
  match level with
  | general => .unknownVerb word
  | behind _ => .strayWord word

/-- Words behind a word of two dashes are no flags and no verbs, so none can stand there. -/
def beyond (level : Level) : List String → Except Halt Unit
  | [] => .ok ()
  | word :: _ =>
      .error (if level = general && isVerbWord word then .strayWord word else level.stray word)

/-- What comes of a request for help on the verb that follows. -/
def helpOn : List String → Halt
  | [] => .helpWanted
  | [word] => if isVerbWord word then .helpWanted else .unknownVerb word
  | word :: next :: _ => .unknownVerb (if isVerbWord word then next else word)

/-- Read the words of a level.  With what was read come the verb that ends the level and the words
behind the verb. -/
def read (level : Level) :
    List String → Reading → Except Halt (Reading × Option (Verb × List String))
  | [], reading => .ok (reading, none)
  | word :: rest, reading =>
      let isVerb := level = general && !reading.isWaiting && isVerbWord word
      match isVerb, Verb.ofWord? word, word.toList with
      | true, some verb, _ => .ok (reading, some (verb, rest))
      | true, none, _ => .error (helpOn rest)
      | false, _, ['-', '-'] => (level.beyond rest).map fun _ => (reading, none)
      | false, _, '-' :: '-' :: text => do
          let reading ← reading.long level text
          level.read rest reading
      | false, _, '-' :: letter :: letters => do
          let reading ← Reading.short level reading (letter :: letters)
          level.read rest reading
      | false, _, _ =>
          if reading.isWaiting then level.read rest (reading.supply word)
          else .error (level.stray word)

end Level

end WebhookSync.CommandLine
